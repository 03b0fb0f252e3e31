import TemplateCoverage.Proofs.Catalog.Written
import TemplateCoverage.Proofs.Comment
import TemplateCoverage.Proofs.Json.Printed

/-!
# `TemplateCoverage.Proofs.Document.RoundTrip`: reading written catalogs

A catalog is written with or without comments above it. Reading takes the comments out, reads the
value and decodes it. The theorems:

* `strip_commented`: of comment lines above a text only their line ends are left;
* `readCatalog_candidatesText`, `readCatalog_catalogText`: each of the two texts is read as the
  catalog;
* `readCatalog_written`: a storable catalog comes back from both of its texts in every locale.
-/

set_option autoImplicit false

namespace TemplateCoverage

/-- A value is readable if it nests no deeper than the reader goes and its doubles are read back. -/
structure Json.Value.Readable (v : Json.Value) : Prop where
  depth_le : v.1.depth ≤ maxDepth
  doubles : ∀ x ∈ v.1.doubles, x.ReadsBack

namespace Document

/-- The tokens of a written candidate catalog are those of its value: the layout has no part in
them. -/
theorem tokens_candidatesText {c : Catalog} (doubles : ∀ x ∈ (value c).1.doubles, x.ReadsBack) :
    Json.tokens (candidatesText c).toList = Json.spell (value c).1 := by
  have stop : Json.Literal.StopsAt ['\n'] := Json.Literal.stopsAt_cons (by decide) (by decide)
  have blank : Json.tokens ['\n'] = [] := (Json.tokens_space rfl).trans Json.tokens_nil
  have printed := Json.tokens_print .indented 0 (value c).1 ['\n'] doubles stop
  rw [candidatesText, Json.render, String.toList_append, String.toList_ofList]
  exact printed.trans (by rw [blank, List.append_nil])

/-- Of comment lines above a text only their line ends are left, one for each of them. -/
theorem strip_commented {lines : List String} {rest : List Char}
    (oneLine : ∀ line ∈ lines, '\n' ∉ line.toList) :
    Comment.strip ((String.join (lines.map fun line => "// " ++ line ++ "\n")).toList ++ rest) =
      List.replicate lines.length '\n' ++ Comment.strip rest := by
  induction lines with
  | nil => simp
  | cons line lines ih =>
    have noBreak : '\n' ∉ ' ' :: line.toList := by simpa using oneLine line (by simp)
    -- The first comment line is written as the search for comments takes it.
    have text : (String.join
        ((line :: lines).map fun line => "// " ++ line ++ "\n")).toList ++ rest =
        '/' :: '/' :: ((' ' :: line.toList) ++ '\n' ::
          ((String.join (lines.map fun line => "// " ++ line ++ "\n")).toList ++ rest)) := by
      simp [String.join_cons]
    rw [text, Comment.strip_line noBreak, ih fun l hl => oneLine l (by simp [hl])]
    rfl

/-- A candidate catalog is read back from its text: the tokens tell the value, and the value the
catalog. -/
theorem readCatalog_candidatesText {c : Catalog} (storable : c.Storable)
    (readable : (value c).Readable) : readCatalog (candidatesText c) = .ok c := by
  have read := Json.read_of_tokens readable.depth_le (tokens_candidatesText readable.doubles)
  rw [readCatalog_eq_ok_iff]
  refine ⟨value c, ?_, Catalog.ofValue_value storable⟩
  rw [Comment.strip_eq_self_of_read read, read]

/-- The tokens of a locale's written catalog without the comments are those of its value, whatever
the comments say, as long as each of them is one line. -/
theorem tokens_strip_catalogText {c : Catalog} (doubles : ∀ x ∈ (value c).1.doubles, x.ReadsBack)
    (locale : Locale) :
    Json.tokens (Comment.strip (catalogText c locale).toList) = Json.spell (value c).1 := by
  have oneLine : ∀ line ∈ locale.header, '\n' ∉ line.toList := by
    cases locale <;> simp [Locale.header]
  have body : Json.tokens ('\n' :: (candidatesText c).toList) = Json.spell (value c).1 := by
    rw [Json.tokens_space rfl, tokens_candidatesText doubles]
  -- The text below the comments has the lexemes of JSON, so stripping leaves it as it is.
  have kept := Comment.strip_eq_self_of_not_isBroken 1 (body ▸ Json.not_isBroken_spell (value c).1)
  have stripped : Comment.strip (catalogText c locale).toList =
      List.replicate locale.header.length '\n' ++ '\n' :: (candidatesText c).toList := by
    have text : (catalogText c locale).toList =
        (String.join (locale.header.map fun line => "// " ++ line ++ "\n")).toList ++
          '\n' :: (candidatesText c).toList := by
      simp [catalogText, headerText]
    rw [text, strip_commented oneLine, kept]
  rw [stripped, Json.tokens_blanks, body]
  exact fun c hc => (List.mem_replicate.1 hc).2 ▸ rfl

/-- A locale's catalog is read back from its text, as the comments above it are taken out. -/
theorem readCatalog_catalogText {c : Catalog} (storable : c.Storable)
    (readable : (value c).Readable) (locale : Locale) :
    readCatalog (catalogText c locale) = .ok c := by
  have tokens := tokens_strip_catalogText readable.doubles locale
  rw [readCatalog_eq_ok_iff]
  exact ⟨value c, Json.read_of_tokens readable.depth_le tokens, Catalog.ofValue_value storable⟩

/-- Two braces are read as the object without members, which is the smallest document. -/
theorem read_braces : Json.read (Comment.strip "{}".toList) =
    .ok (Json.Value.object Json.Object.empty) := by
  have tokens : Json.tokens ['\x7b', '\x7d'] = [.beginObject, .endObject] :=
    (Json.tokens_scan rfl rfl).trans
      (congrArg _ ((Json.tokens_scan rfl rfl).trans (congrArg _ Json.tokens_nil)))
  have read : Json.read ['\x7b', '\x7d'] = .ok (Json.Value.object Json.Object.empty) :=
    Json.read_of_tokens (by decide) tokens
  exact (congrArg _ (Comment.strip_eq_self_of_read read)).trans read

/-- An object without members is read as the catalog without events: there is no key that would be
required. -/
theorem readCatalog_braces : readCatalog "{}" = .ok Catalog.empty :=
  readCatalog_eq_ok_iff.2 ⟨_, read_braces, rfl⟩

/-! ### A catalog of awkward texts -/

/-- One and a half, a double that is no natural, so that reading it back is more than gathering
digits. -/
def oneAndHalf : Double := ⟨false, 0x3FF8000000000000, by decide⟩

/-- One and a half is read back from its text: fifteen, scaled down by ten. -/
theorem readsBack_oneAndHalf : oneAndHalf.ReadsBack := by
  have text : Json.Number.doubleText oneAndHalf = ['1', '.', '5'] := by decide +kernel
  have scanned : Json.Literal.scan ['1', '.', '5'] = .ok (⟨false, [1], [5], 0, false⟩, []) := rfl
  -- Scaling is by a well-founded recursion, which is unfolded once before it is computed.
  have scaled : Json.Literal.scale? (Double.ofNat 15) (-1) = some oneAndHalf := by
    rw [Json.Literal.scale?]
    decide +kernel
  refine Double.readsBack_of_scan (text ▸ scanned) ?_
  show Option.map _ (Json.Literal.scale? (Double.ofNat 15) (-1)) = _
  rw [scaled]
  rfl

/-- Members with comment marks, quotes and line ends in their texts, a null and a double. -/
def awkwardMembers : Json.Object :=
  Json.Object.ofList
    [("*/ \"", Json.Value.array [Json.Value.null, ⟨.number (.double oneAndHalf), trivial⟩]),
      ("// \\", Json.Value.string "/* \n\t\x01")]

/-- A catalog with such members in a payload, beside the known keys and as the fields of an event,
an entry without tags and an event without entries. -/
def awkward : Catalog :=
  let tagged : Entry := ⟨["default", "a//b"], Json.Value.object awkwardMembers, awkwardMembers⟩
  let untagged : Entry := ⟨[], Json.Value.null, Json.Object.empty⟩
  ((Catalog.empty.setEntries "push" [tagged, untagged]).setFields "push" awkwardMembers).setEntries
    "\"quoted\"" []

/-- The awkward catalog is storable, since its known keys stand where they should. -/
theorem storable_awkward : awkward.Storable where
  entries event entries listed e mem := by
    rw [awkward, Catalog.entries?_setEntries, Catalog.entries?_setFields,
      Catalog.entries?_setEntries] at listed
    split at listed
    · cases listed
      contradiction
    · split at listed
      · cases listed
        simp only [List.mem_cons, List.not_mem_nil, or_false] at mem
        rcases mem with rfl | rfl
        · exact ⟨by decide, rfl, rfl⟩
        · exact ⟨by decide, rfl, rfl⟩
      · contradiction
  no_payloads event fields found := by
    rw [awkward, Catalog.fields?_setEntries, Catalog.fields?_setFields] at found
    split at found
    · cases found
      rfl
    · contradiction
  filed event fields found := by
    rw [awkward, Catalog.fields?_setEntries, Catalog.fields?_setFields] at found
    split at found
    · rename_i eq
      subst eq
      decide
    · contradiction

/-- It can also be read back: it is not deep, and its only double is one and a half. -/
theorem readable_awkward : (value awkward).Readable where
  depth_le := by decide
  doubles x mem := by
    have doubles : (value awkward).1.doubles = [oneAndHalf, oneAndHalf, oneAndHalf] := rfl
    simp only [doubles, List.mem_cons, List.not_mem_nil, or_false, or_self] at mem
    exact mem ▸ readsBack_oneAndHalf

/-! ### The round trip -/

/-- A catalog that repeats no tag, carries no known key along and has fields only beside entry lists
comes back from both of its texts as it was, in every locale, if its value is not too deep. -/
theorem readCatalog_written {c : Catalog} (storable : c.Storable) (readable : (value c).Readable) :
    (∀ locale, readCatalog (catalogText c locale) = .ok c) ∧
      readCatalog (candidatesText c) = .ok c :=
  ⟨readCatalog_catalogText storable readable, readCatalog_candidatesText storable readable⟩

/-- The awkward catalog comes back, with all that its texts hold: quotes, comment marks and line
ends among them. -/
theorem readCatalog_written_awkward : awkward.Storable ∧ (value awkward).Readable ∧
    (∀ locale, readCatalog (catalogText awkward locale) = .ok awkward) ∧
      readCatalog (candidatesText awkward) = .ok awkward :=
  ⟨storable_awkward, readable_awkward, readCatalog_written storable_awkward readable_awkward⟩

end Document

end TemplateCoverage
