import TemplateCoverage.Proofs.Catalog.Nesting
import TemplateCoverage.Proofs.Document.RoundTrip

/-!
# `TemplateCoverage.Proofs.Document.Rewriting`: catalogs that are read and written again

A catalog is read from a document that holds its events under the key `templates` or at its top, and
it is always written under that key. So a document with its events at the top gains a level, and the
reader goes no deeper than 127 levels. The theorems:

* `readCatalog_catalogText_eq_ok_iff`: the text of a storable catalog is read if and only if its
  value is not too deep, and only as the catalog;
* `readCatalog_rewritten_iff`: the text of a catalog that was read is read again if and only if the
  events that it was read from leave room for one level;
* `readCatalog_rewritten`: they do if they stand under the key, and else if the document does;
* `readCatalog_bareText_limit`: a document that cannot be read any more once it is written again.
-/

set_option autoImplicit false

namespace TemplateCoverage.Document

open Json (Object Value)

variable {c d : Catalog}

/-- The text of a storable catalog is read if and only if the value of the catalog is not too deep,
and only as the catalog. A text determines at most one value, so that there is no other outcome. -/
theorem readCatalog_catalogText_eq_ok_iff (storable : c.Storable)
    (doubles : ∀ x ∈ (value c).1.doubles, x.ReadsBack) (locale : Locale) :
    readCatalog (catalogText c locale) = .ok d ↔ d = c ∧ (value c).1.depth ≤ Json.maxDepth := by
  constructor
  · intro h
    obtain ⟨v, read, decoded⟩ := readCatalog_eq_ok_iff.1 h
    have same : v = value c := Json.eq_of_read read (tokens_strip_catalogText doubles locale)
    rw [same, Catalog.ofValue_value storable] at decoded
    exact ⟨(Except.ok.inj decoded).symm, same ▸ Json.depth_le_of_read read⟩
  · rintro ⟨rfl, depth⟩
    exact readCatalog_catalogText storable ⟨depth, doubles⟩ locale

/-- The text of a catalog whose value is too deep is no JSON to the reader, which stops at some line
of it. -/
theorem exists_notJson_of_lt_depth (doubles : ∀ x ∈ (value c).1.doubles, x.ReadsBack)
    (deep : Json.maxDepth < (value c).1.depth) (locale : Locale) :
    ∃ line, readCatalog (catalogText c locale) = .error (.notJson line) := by
  unfold readCatalog
  cases read : Json.read (Comment.strip (catalogText c locale).toList) with
  | error line => exact ⟨line, rfl⟩
  | ok v =>
    have same : v = value c := Json.eq_of_read read (tokens_strip_catalogText doubles locale)
    have depth : (value c).1.depth ≤ Json.maxDepth := same ▸ Json.depth_le_of_read read
    omega

/-- The text of a catalog that was read is read again if and only if the events that it was read
from leave room for one level. -/
theorem readCatalog_rewritten_iff {top : Object}
    (decoded : Catalog.ofValue (Value.object top) = .ok c)
    (doubles : ∀ x ∈ (value c).1.doubles, x.ReadsBack) (locale : Locale) :
    readCatalog (catalogText c locale) = .ok d ↔
      d = c ∧ (Catalog.eventsOf top).1.depth < Json.maxDepth := by
  rw [readCatalog_catalogText_eq_ok_iff (Catalog.storable_of_ofValue decoded) doubles]
  refine and_congr_right fun _ => ?_
  obtain ⟨_, same, events, _⟩ := Catalog.ofValue_eq_ok_iff.1 decoded
  obtain rfl := Value.object_inj same
  have limit : Json.maxDepth = 121 + 5 + 1 := rfl
  rw [Catalog.depth_value_eq, limit, Nat.add_le_add_iff_right, Nat.lt_add_one_iff]
  -- There is room for five levels, so that tags which are written out make no difference.
  exact (Catalog.depth_le_iff_of_decode events).symm

/-! ### Documents at the limit -/

/-- Arrays nested around a null, one for each level: the payload that is deep and nothing else. -/
def nested : Nat → Value
  | 0 => Value.null
  | n + 1 => Value.array [nested n]

/-- They nest as deep as there are arrays, since a null has no depth of its own. -/
theorem depth_nested (n : Nat) : (nested n).1.depth = n := by
  induction n with
  | zero => rfl
  | succ n ih => exact congrArg Nat.succ ((Nat.max_zero _).trans ih)

/-- They have no doubles, so that only their depth is in the way of reading them. -/
theorem doubles_nested (n : Nat) : (nested n).1.doubles = [] := by
  induction n with
  | zero => rfl
  | succ n ih => exact (List.append_nil _).trans ih

/-- A catalog of one entry that has such a payload, with one array more than the number says. -/
def nestedCatalog (n : Nat) : Catalog :=
  Catalog.empty.setEntries "push" [⟨["default"], nested (n + 1), Object.empty⟩]

/-- The document that holds the events of the catalog at its top, without the wrapping key. -/
def bareText (n : Nat) : String :=
  Json.render .indented (Value.object (nestedCatalog n).toObject)

/-- The catalog can be written, whatever the depth of its payload, as no known key stands in a wrong
place. -/
theorem storable_nestedCatalog (n : Nat) : (nestedCatalog n).Storable where
  entries event entries listed e mem := by
    rw [nestedCatalog, Catalog.entries?_setEntries] at listed
    split at listed
    · cases listed
      -- There is one entry, with one tag and no other members.
      obtain rfl := List.mem_singleton.1 mem
      exact ⟨List.pairwise_singleton _ _, rfl, rfl⟩
    · contradiction
  no_payloads _ _ found := by contradiction
  filed _ _ found := by contradiction

/-- The payload stands in an entry, in the list of entries, in an event and in the events, which
makes four levels. -/
theorem depth_nestedCatalog (n : Nat) :
    (Value.object (nestedCatalog n).toObject).1.depth = n + 5 := by
  have tags : (Value.array [Value.string "default"]).1.depth = 1 := rfl
  show max (max (max (max (Value.array [Value.string "default"]).1.depth
    (max (nested (n + 1)).1.depth 0) + 1) 0 + 1) 0 + 1) 0 + 1 = n + 5
  rw [tags, depth_nested]
  omega

/-- The object of the catalog has no doubles, so that only the depth can keep it from being read
back. -/
theorem doubles_nestedCatalog (n : Nat) :
    (Value.object (nestedCatalog n).toObject).1.doubles = [] := by
  show (((nested (n + 1)).1.doubles ++ []) ++ [] ++ []) ++ [] = []
  rw [doubles_nested]
  rfl

/-- Neither has the value of the catalog, which wraps the object under one more key. -/
theorem doubles_value_nestedCatalog (n : Nat) : (value (nestedCatalog n)).1.doubles = [] :=
  (List.append_nil _).trans (doubles_nestedCatalog n)

/-- The value of the document is read if it is not too deep. It has no comments, which are the only
other thing that reading takes out. -/
theorem read_bareText {n : Nat} (depth : n + 5 ≤ Json.maxDepth) :
    Json.read (Comment.strip (bareText n).toList) =
      .ok (Value.object (nestedCatalog n).toObject) := by
  have read : Json.read (bareText n).toList = .ok (Value.object (nestedCatalog n).toObject) :=
    Json.read_render (depth_nestedCatalog n ▸ depth) (by simp [doubles_nestedCatalog])
  rw [Comment.strip_eq_self_of_read read, read]

/-- The value of the document is that of the catalog, although it is not wrapped. -/
theorem ofValue_nestedCatalog (n : Nat) :
    Catalog.ofValue (Value.object (nestedCatalog n).toObject) = .ok (nestedCatalog n) := by
  have storable := storable_nestedCatalog n
  exact Catalog.ofValue_eq_ok_iff.2
    ⟨_, rfl, Catalog.decode_object storable, storable.offence?_eq_none⟩

/-- The document is read as the catalog, up to the depth to which the reader goes. -/
theorem readCatalog_bareText {n : Nat} (depth : n + 5 ≤ Json.maxDepth) :
    readCatalog (bareText n) = .ok (nestedCatalog n) :=
  readCatalog_eq_ok_iff.2 ⟨_, read_bareText depth, ofValue_nestedCatalog n⟩

/-! ### Rewriting -/

/-- A catalog that was read is read back from its text, if the document had its events under the
key; if it had them at its top, then if and only if it was less deep than the reader goes. -/
theorem readCatalog_rewritten {text : String} (accepted : readCatalog text = .ok c)
    (doubles : ∀ x ∈ (value c).1.doubles, x.ReadsBack) :
    ∃ top, Json.read (Comment.strip text.toList) = .ok (Value.object top) ∧
      (∀ events, top.get? Catalog.templatesKey = some events →
        ∀ locale, readCatalog (catalogText c locale) = .ok c) ∧
      (top.get? Catalog.templatesKey = none →
        ∀ locale d, readCatalog (catalogText c locale) = .ok d ↔
          d = c ∧ (Value.object top).1.depth < Json.maxDepth) := by
  obtain ⟨v, read, decoded⟩ := readCatalog_eq_ok_iff.1 accepted
  obtain ⟨top, rfl, _⟩ := Catalog.ofValue_eq_ok_iff.1 decoded
  refine ⟨top, read, fun events held locale => ?_, fun bare locale d => ?_⟩
  · rw [readCatalog_rewritten_iff decoded doubles]
    -- The wrapping key was read as well, and it leaves one level less for what is under it.
    have within : top.Within 126 :=
      Json.depth_object_le_iff_within.1 (Json.depth_le_of_read read)
    have inside : Catalog.eventsOf top = events := by rw [Catalog.eventsOf, held, Option.getD_some]
    have depth : events.1.depth ≤ 126 := within (_, events) (Object.get?_eq_some_iff.1 held)
    exact ⟨rfl, inside ▸ Nat.lt_succ_of_le depth⟩
  · have outside : Catalog.eventsOf top = Value.object top := by
      rw [Catalog.eventsOf, bare, Option.getD_none]
    rw [readCatalog_rewritten_iff decoded doubles, outside]

/-- A document with its events at the top is read back once it is written again, if it leaves room
for one level. -/
theorem readCatalog_rewritten_bareText :
    readCatalog (bareText 121) = .ok (nestedCatalog 121) ∧
      (∀ x ∈ (value (nestedCatalog 121)).1.doubles, x.ReadsBack) ∧
        ∀ locale, readCatalog (catalogText (nestedCatalog 121) locale) =
          .ok (nestedCatalog 121) := by
  have accepted : readCatalog (bareText 121) = .ok (nestedCatalog 121) :=
    readCatalog_bareText (by decide)
  have doubles : ∀ x ∈ (value (nestedCatalog 121)).1.doubles, x.ReadsBack := by
    simp [doubles_value_nestedCatalog]
  obtain ⟨top, read, _, bare⟩ := readCatalog_rewritten accepted doubles
  rw [read_bareText (by decide)] at read
  have same : (nestedCatalog 121).toObject = top := Value.object_inj (Except.ok.inj read)
  subst same
  -- Five levels hold the payload, which leaves room for the key.
  have room : (Value.object (nestedCatalog 121).toObject).1.depth < Json.maxDepth := by
    rw [depth_nestedCatalog]
    decide
  exact ⟨accepted, doubles, fun locale => (bare rfl locale _).2 ⟨rfl, room⟩⟩

/-- A document with its events at the top that is as deep as the reader goes is read, and cannot be
read any more once it is written again. -/
theorem readCatalog_bareText_limit :
    readCatalog (bareText 122) = .ok (nestedCatalog 122) ∧
      (∀ x ∈ (value (nestedCatalog 122)).1.doubles, x.ReadsBack) ∧
        ∀ locale, ∃ line, readCatalog (catalogText (nestedCatalog 122) locale) =
          .error (.notJson line) := by
  have doubles : ∀ x ∈ (value (nestedCatalog 122)).1.doubles, x.ReadsBack := by
    simp [doubles_value_nestedCatalog]
  have deep : Json.maxDepth < (value (nestedCatalog 122)).1.depth := by
    rw [Catalog.depth_value_eq, depth_nestedCatalog]
    decide
  exact ⟨readCatalog_bareText (by decide), doubles, exists_notJson_of_lt_depth doubles deep⟩

end TemplateCoverage.Document
