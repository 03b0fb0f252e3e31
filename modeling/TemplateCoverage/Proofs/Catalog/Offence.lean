import TemplateCoverage.Proofs.Catalog.Shape
import TemplateCoverage.Proofs.Comment
import TemplateCoverage.Proofs.Json.Printed
import TemplateCoverage.Proofs.Sorted.Set

/-!
# `TemplateCoverage.Proofs.Catalog.Offence`: repeated tags

A tag is refused if its normal form has come before it in its entry, whatever the spelling. Of
several offences in a document one is reported: events come in the order of their names, and not in
that of the document, and the entries of an event in their order. The theorems:

* `Entry.checkTags_eq_error_iff`: which tag of an entry is reported;
* `Entry.nodup_normalizedTags_iff_size`: no tag is repeated if each covers a combination of its own;
* `Catalog.offence?_eq_some_iff`: which offence of a catalog is reported;
* `Document.offence_reported`: which offence of a text is.
-/

set_option autoImplicit false

namespace TemplateCoverage

open Json (Object Value)

/-! ### The tags of an entry -/

namespace Entry

/-- The first tag of a list whose normal form has come before it. The tags before it have distinct
normal forms, so that there is no earlier one. -/
def IsFirstRepeat (tags : List String) (tag : String) : Prop :=
  ∃ before after, tags = before ++ tag :: after ∧ (before.map Tag.normalize).Nodup ∧
    Tag.normalize tag ∈ before.map Tag.normalize

variable {seen tags : List String} {tag : String} {e : Entry}

/-- The search finds the first tag that was seen before it started or has come since. Tags seen are
in their normal form already. -/
theorem firstRepeat?_eq_some_iff :
    firstRepeat? seen tags = some tag ↔
      ∃ before after, tags = before ++ tag :: after ∧ firstRepeat? seen before = none ∧
        (Tag.normalize tag ∈ seen ∨ Tag.normalize tag ∈ before.map Tag.normalize) := by
  -- The tags that have been passed are among those seen, so that both sides speak of the rest.
  induction tags generalizing seen with
  | nil => simp [firstRepeat?]
  | cons first tags ih =>
    rw [firstRepeat?]
    by_cases repeated : Tag.normalize first ∈ seen
    · rw [if_pos repeated, Option.some.injEq]
      constructor
      · rintro rfl
        exact ⟨[], tags, rfl, rfl, .inl repeated⟩
      · rintro ⟨before, after, eq, fresh, -⟩
        cases before with
        | nil => exact (List.cons.inj eq).1
        | cons b before =>
          obtain ⟨rfl, -⟩ := List.cons.inj eq
          rw [firstRepeat?, if_pos repeated] at fresh
          contradiction
    · rw [if_neg repeated, ih]
      constructor
      · rintro ⟨before, after, rfl, fresh, mem⟩
        refine ⟨first :: before, after, rfl, by rwa [firstRepeat?, if_neg repeated], ?_⟩
        simp only [List.mem_cons, List.map_cons] at mem ⊢
        tauto
      · rintro ⟨before, after, eq, fresh, mem⟩
        cases before with
        | nil =>
          obtain ⟨rfl, -⟩ := List.cons.inj eq
          simp only [List.map_nil, List.not_mem_nil, or_false] at mem
          exact absurd mem repeated
        | cons b before =>
          obtain ⟨rfl, rfl⟩ := List.cons.inj eq
          rw [firstRepeat?, if_neg repeated] at fresh
          refine ⟨before, after, rfl, fresh, ?_⟩
          simp only [List.mem_cons, List.map_cons] at mem ⊢
          tauto

/-- The tag that is reported is the first one whose normal form has come before it. -/
theorem checkTags_eq_error_iff {err : EntryError} :
    e.checkTags = .error err ↔ ∃ tag, err = .repeatedTag tag ∧ IsFirstRepeat e.tags tag := by
  have first : ∀ tag, firstRepeat? [] e.tags = some tag ↔ IsFirstRepeat e.tags tag := by
    intro tag
    rw [firstRepeat?_eq_some_iff, IsFirstRepeat]
    simp [firstRepeat?_eq_none_iff]
  simp only [← first, checkTags]
  cases firstRepeat? [] e.tags with
  | none => simp
  | some tag => simp [eq_comm]

/-- Besides repeated tags only having none is refused, and that comes first: an entry without tags
has no tag to repeat. -/
theorem validate_eq_error_iff {err : EntryError} :
    e.validate = .error err ↔ (e.tags = [] ∧ err = .noTags) ∨ e.checkTags = .error err := by
  unfold validate
  split
  · rename_i none
    have none : e.tags = [] := List.isEmpty_iff.1 none
    have unique : e.checkTags = .ok () := by rw [checkTags, none]; rfl
    simp [none, unique, eq_comm]
  · rename_i some
    simp [List.isEmpty_iff.not.1 some]

/-- No tag is repeated if and only if each covers a combination of its own. Tags and combinations of
an entry tell each other, which gives both directions. -/
theorem nodup_normalizedTags_iff_size {event : String} :
    e.normalizedTags.Nodup ↔ (SortedSet.ofList (e.combinations event)).size = e.tags.length := by
  have tags : (e.combinations event).map (·.tag) = e.normalizedTags := by
    rw [combinations, normalizedTags, List.map_map]
    rfl
  have covered : e.normalizedTags.map (Combination.of event) = e.combinations event := by
    rw [combinations, normalizedTags, List.map_map]
    refine List.map_congr_left fun tag _ => ?_
    exact Combination.of_eq_of_iff.2 ⟨rfl, Tag.normalize_normalize tag⟩
  have length : (e.combinations event).length = e.tags.length := List.length_map _
  -- A set made of a list is as large as the list just if nothing comes twice.
  rw [← length, SortedSet.size_ofList_eq_length_iff]
  constructor
  · intro distinct
    rw [← tags] at distinct
    exact List.Nodup.of_map _ distinct
  · intro distinct
    rw [← covered] at distinct
    exact List.Nodup.of_map _ distinct

end Entry

/-! ### The entries of a catalog -/

namespace Catalog

variable {c : Catalog} {event : String} {index : Nat} {entries : List Entry} {err : SchemaError}

/-- An entry of an event is refused for one of its tags, at its place among the entries of the
event. -/
def Refuses (c : Catalog) (event : String) (index : Nat) (err : EntryError) : Prop :=
  ∃ entries e, c.entries? event = some entries ∧ entries[index]? = some e ∧
    e.checkTags = .error err

/-- At one place an entry is refused for one reason, so that an offence is told by its place. -/
theorem Refuses.unique {err err' : EntryError} (h : c.Refuses event index err)
    (h' : c.Refuses event index err') : err = err' := by
  obtain ⟨entries, e, listed, found, refused⟩ := h
  obtain ⟨entries', e', listed', found', refused'⟩ := h'
  rw [listed] at listed'
  cases listed'
  rw [found] at found'
  cases found'
  rw [refused] at refused'
  exact Except.error.inj refused'

/-- Among the entries of an event the first one that is refused is reported, with its place counted
on from where the search starts. -/
theorem offenceIn?_eq_some_iff :
    offenceIn? event index entries = some err ↔ ∃ i e why, entries[i]? = some e ∧
      e.checkTags = .error why ∧ (∀ j < i, ∀ e, entries[j]? = some e → e.checkTags = .ok ()) ∧
      err = .repeatedTag event (index + i) why := by
  induction entries generalizing index with
  | nil => simp [offenceIn?]
  | cons first entries ih =>
    rw [offenceIn?]
    split
    · rename_i accepted
      rw [ih]
      constructor
      · -- The first entry was accepted, so that the one that is refused is among the others.
        rintro ⟨i, e, why, found, refused, before, rfl⟩
        refine ⟨i + 1, e, why, found, refused, fun j lt e' found' => ?_, ?_⟩
        · cases j with
          | zero =>
            cases found'
            exact accepted
          | succ j => exact before j (Nat.lt_of_succ_lt_succ lt) e' found'
        · rw [Nat.add_assoc, Nat.add_comm 1 i]
      · rintro ⟨i, e, why, found, refused, before, rfl⟩
        cases i with
        | zero =>
          cases found
          rw [accepted] at refused
          contradiction
        | succ i =>
          refine ⟨i, e, why, found, refused, fun j lt => before (j + 1) (Nat.succ_lt_succ lt), ?_⟩
          rw [Nat.add_assoc, Nat.add_comm 1 i]
    · rename_i why refused
      rw [Option.some.injEq]
      constructor
      · rintro rfl
        exact ⟨0, first, why, rfl, refused, by simp, rfl⟩
      · rintro ⟨i, e, why', found, refused', before, rfl⟩
        cases i with
        | zero =>
          cases found
          rw [refused] at refused'
          cases refused'
          rfl
        | succ i =>
          have accepted := before 0 (Nat.succ_pos i) first rfl
          rw [accepted] at refused
          contradiction

/-- The first refusal of a catalog: no event with a smaller name has one, and none of the entries
before it in its event does. -/
structure IsFirstRefusal (c : Catalog) (event : String) (index : Nat) (why : EntryError) :
    Prop where
  refuses : c.Refuses event index why
  least : ∀ event' index' why', c.Refuses event' index' why' →
    event < event' ∨ event = event' ∧ index ≤ index'

/-- A catalog has one first refusal at most: of two, each would come before the other. -/
theorem IsFirstRefusal.unique {event' : String} {index' : Nat} {why why' : EntryError}
    (h : c.IsFirstRefusal event index why) (h' : c.IsFirstRefusal event' index' why') :
    event = event' ∧ index = index' ∧ why = why' := by
  -- Each of the two is at most the other, by the event and then by the place.
  have events : event = event' := by
    rcases h.least _ _ _ h'.refuses with lt | ⟨eq, -⟩
    · rcases h'.least _ _ _ h.refuses with gt | ⟨eq, -⟩
      · exact absurd gt (StrictOrder.asymm lt)
      · exact eq.symm
    · exact eq
  subst events
  have indices : index = index' := by
    rcases h.least _ _ _ h'.refuses with lt | ⟨-, le⟩
    · exact absurd lt (StrictOrder.irrefl event)
    · rcases h'.least _ _ _ h.refuses with lt | ⟨-, ge⟩
      · exact absurd lt (StrictOrder.irrefl event)
      · exact Nat.le_antisymm le ge
  subst indices
  exact ⟨rfl, rfl, h.refuses.unique h'.refuses⟩

/-- An offence is the first refusal of its catalog. The events are listed in ascending order, so
that the search meets smaller names first. -/
theorem isFirstRefusal_of_offence? (h : offence? c = some err) :
    ∃ event index why, err = .repeatedTag event index why ∧ c.IsFirstRefusal event index why := by
  obtain ⟨before, ⟨event, entries⟩, after, split, reported, clean⟩ :=
    List.findSome?_eq_some_iff.1 h
  obtain ⟨index, e, why, found, refused, earlier, rfl⟩ := offenceIn?_eq_some_iff.1 reported
  have ascending := split ▸ c.events.ascending
  have listed : c.entries? event = some entries :=
    SortedMap.get?_eq_some_iff.2 (split ▸ List.mem_append_right before List.mem_cons_self)
  refine ⟨event, index, why, by rw [Nat.zero_add], ⟨entries, e, listed, found, refused⟩, ?_⟩
  rintro event' index' why' ⟨entries', e', listed', found', refused'⟩
  have mem : (event', entries') ∈ before ++ (event, entries) :: after :=
    split ▸ SortedMap.get?_eq_some_iff.1 listed'
  rcases List.mem_append.1 mem with front | behind
  · -- What stands in front is an event without refusals.
    have fine := offenceIn?_eq_none_iff.1 (clean _ front) e' (List.mem_of_getElem? found')
    rw [Entry.checkTags_eq_ok_iff.2 fine] at refused'
    contradiction
  · rcases List.mem_cons.1 behind with same | behind
    · cases same
      refine .inr ⟨rfl, Nat.le_of_not_lt fun lt => ?_⟩
      rw [earlier index' lt e' found'] at refused'
      contradiction
    · exact .inl ((List.pairwise_cons.1 (List.pairwise_append.1 ascending).2.1).1 _ behind)

/-- A catalog with refusals has an offence: the search cannot come to its end without one. -/
theorem exists_offence?_of_refuses {why : EntryError} (h : c.Refuses event index why) :
    ∃ err, offence? c = some err := by
  cases none : offence? c with
  | some err => exact ⟨err, rfl⟩
  | none =>
    obtain ⟨entries, e, listed, found, refused⟩ := h
    have fine := offence?_eq_none_iff.1 none _ (SortedMap.get?_eq_some_iff.1 listed) e
      (List.mem_of_getElem? found)
    rw [Entry.checkTags_eq_ok_iff.2 fine] at refused
    contradiction

/-- Of the refusals of a catalog the first one is reported, and nothing else is. -/
theorem offence?_eq_some_iff {why : EntryError} :
    offence? c = some (.repeatedTag event index why) ↔ c.IsFirstRefusal event index why := by
  constructor
  · intro h
    obtain ⟨event', index', why', eq, first⟩ := isFirstRefusal_of_offence? h
    cases eq
    exact first
  · intro first
    obtain ⟨err, found⟩ := exists_offence?_of_refuses first.refuses
    obtain ⟨event', index', why', rfl, first'⟩ := isFirstRefusal_of_offence? found
    obtain ⟨rfl, rfl, rfl⟩ := first.unique first'
    exact found

/-! ### The entries of a document -/

variable {v : Value} {events : Object}

/-- Every event is an object with an array of objects whose tags are texts, repeated or not. Of
other documents the shape is refused before any tags are looked at. -/
def AreShaped (events : Object) : Prop :=
  ∀ m ∈ events.toList, ∃ o entries, m.2 = Value.object o ∧ Entry.AreOf entries o

/-- An entry of a document, at a place under an event, repeats a tag; the first one that it repeats
is given. -/
def Offends (events : Object) (event : String) (index : Nat) (tag : String) : Prop :=
  ∃ o entries e, (event, Value.object o) ∈ events.toList ∧ Entry.AreOf entries o ∧
    entries[index]? = some e ∧ Entry.IsFirstRepeat e.tags tag

/-- The first offence of a document: no event with a smaller name has one, and none of the entries
before it in its event does. -/
structure IsFirstOffence (events : Object) (event : String) (index : Nat) (tag : String) :
    Prop where
  offends : Offends events event index tag
  least : ∀ event' index' tag', Offends events event' index' tag' →
    event < event' ∨ event = event' ∧ index ≤ index'

/-- Events of the right shape are decoded, also if tags are repeated in them. -/
theorem exists_decode_of_areShaped (shaped : AreShaped events) :
    ∃ c, decode (Value.object events) = .ok c := by
  have each : ∀ m ∈ events.toList, ∃ s, decodeMember m = .ok s ∧ True := by
    intro m mem
    obtain ⟨o, entries, eq, listed⟩ := shaped m mem
    have decoded : decodeSection m.2 = .ok ⟨entries, o.erase "payloads"⟩ :=
      decodeSection_eq_ok_iff.2 ⟨o, eq, listed, rfl⟩
    exact ⟨(m.1, _), decodeMember_eq_ok_iff.2 ⟨rfl, decoded⟩, trivial⟩
  obtain ⟨sections, decoded, -⟩ := exists_mapM_eq_ok_iff.2 each
  exact ⟨_, decode_object_eq_ok_iff.2 ⟨sections, decoded, rfl⟩⟩

/-- The offences of a document are the refusals of the catalog that is decoded from it. -/
theorem refuses_iff_of_decode (decoded : decode (Value.object events) = .ok c)
    {why : EntryError} :
    c.Refuses event index why ↔ ∃ tag, why = .repeatedTag tag ∧ Offends events event index tag := by
  have holds := holds_of_decode decoded
  constructor
  · rintro ⟨entries, e, listed, found, refused⟩
    obtain ⟨tag, rfl, first⟩ := Entry.checkTags_eq_error_iff.1 refused
    -- The event of the catalog comes from a member of the document, with the same entries.
    have mem := (holds.contains event).1 (contains_iff.2 ⟨entries, listed⟩)
    obtain ⟨⟨_, v⟩, inEvents, rfl⟩ := List.mem_map.1 mem
    obtain ⟨s, section_, listed', -⟩ := exists_section_of_decode decoded inEvents
    obtain ⟨o, rfl, areOf, -⟩ := decodeSection_eq_ok_iff.1 section_
    rw [listed] at listed'
    cases listed'
    exact ⟨tag, rfl, o, _, e, inEvents, areOf, found, first⟩
  · -- The member is decoded to the entries of the event, which are no others.
    rintro ⟨tag, rfl, o, entries, e, inEvents, areOf, found, first⟩
    obtain ⟨entries', listed, areOf'⟩ := holds.entries event o inEvents
    obtain rfl := areOf.unique areOf'
    exact ⟨entries, e, listed, found, Entry.checkTags_eq_error_iff.2 ⟨tag, rfl, first⟩⟩

/-- So the first offence of a document is the first refusal of its catalog. -/
theorem isFirstRefusal_iff_of_decode (decoded : decode (Value.object events) = .ok c)
    {tag : String} :
    c.IsFirstRefusal event index (.repeatedTag tag) ↔ IsFirstOffence events event index tag := by
  have refuses : ∀ {event index tag}, c.Refuses event index (.repeatedTag tag) ↔
      Offends events event index tag := by
    intro event index tag
    simp [refuses_iff_of_decode decoded]
  constructor
  · intro ⟨first, least⟩
    exact ⟨refuses.1 first, fun event' index' tag' h => least _ _ _ (refuses.2 h)⟩
  · intro ⟨first, least⟩
    refine ⟨refuses.2 first, fun event' index' why' h => ?_⟩
    obtain ⟨tag', -, offends⟩ := (refuses_iff_of_decode decoded).1 h
    exact least event' index' tag' offends

end Catalog

/-! ### Texts -/

namespace Document

open Catalog

variable {text : String} {v : Value} {events : Object} {c : Catalog}

/-- A text whose events are decoded is refused for its offence only, and with the message about just
that. -/
theorem readCatalog_eq_misshaped_iff (read : Json.read (Comment.strip text.toList) = .ok v)
    (has : HasEvents v events) (decoded : decode (Value.object events) = .ok c)
    {err : SchemaError} : readCatalog text = .error (.misshaped err) ↔ offence? c = some err := by
  obtain ⟨top, rfl, listed⟩ := has
  have isObject : (Value.object top).object? = some top := rfl
  have shaped : decode (eventsOf top) = .ok c := by
    rw [show eventsOf top = Value.object events from listed, decoded]
  simp only [readCatalog, read, ofValue, isObject, shaped, bind, Except.bind]
  cases offence? c with
  | none => simp [pure, Except.pure]
  | some err' => simp

/-- The tags of an entry are accepted if and only if their normal forms are distinct, so that each
covers a combination of its own; else the first tag is reported whose normal form has come before
it, as it is spelled. To validate an entry is to refuse also one without tags. In a text of the
right shape the first entry that repeats a tag is reported, first by the name of its event and then
by its place under it. -/
theorem offence_reported :
    (∀ e : Entry,
      (e.checkTags = .ok () ↔ e.normalizedTags.Nodup) ∧
      (∀ event, e.normalizedTags.Nodup ↔
        (SortedSet.ofList (e.combinations event)).size = e.tags.length) ∧
      (∀ err, e.checkTags = .error err ↔
        ∃ tag, err = .repeatedTag tag ∧ Entry.IsFirstRepeat e.tags tag) ∧
      ∀ err, e.validate = .error err ↔
        (e.tags = [] ∧ err = .noTags) ∨ e.checkTags = .error err) ∧
    ∀ (text : String) (v : Value) (events : Object),
      Json.read (Comment.strip text.toList) = .ok v → HasEvents v events → AreShaped events →
      (∀ event index tag,
        readCatalog text = .error (.misshaped (.repeatedTag event index (.repeatedTag tag))) ↔
          IsFirstOffence events event index tag) ∧
      ((∃ event index tag, Offends events event index tag) → ∃ event index tag,
        readCatalog text = .error (.misshaped (.repeatedTag event index (.repeatedTag tag)))) := by
  refine ⟨fun e => ⟨Entry.checkTags_eq_ok_iff, fun event => Entry.nodup_normalizedTags_iff_size,
    fun err => Entry.checkTags_eq_error_iff, fun err => Entry.validate_eq_error_iff⟩, ?_⟩
  intro text v events read has shaped
  obtain ⟨c, decoded⟩ := exists_decode_of_areShaped shaped
  refine ⟨fun event index tag => ?_, ?_⟩
  · rw [readCatalog_eq_misshaped_iff read has decoded, offence?_eq_some_iff,
      isFirstRefusal_iff_of_decode decoded]
  · -- Where something offends there is a first offence, and it is one of tags.
    rintro ⟨event, index, tag, offends⟩
    obtain ⟨err, found⟩ :=
      exists_offence?_of_refuses ((refuses_iff_of_decode decoded).2 ⟨tag, rfl, offends⟩)
    obtain ⟨event', index', why, rfl, first⟩ := isFirstRefusal_of_offence? found
    obtain ⟨tag', rfl, -⟩ := (refuses_iff_of_decode decoded).1 first.refuses
    exact ⟨event', index', tag', (readCatalog_eq_misshaped_iff read has decoded).2 found⟩

/-- An object with tags and nothing else, as the entries of the sample have it. -/
def taggedObject (tags : List String) : Object :=
  Object.ofList [("tags", Value.array (tags.map Value.string))]

/-- Two events, of which the second one in the document has the smaller name; it repeats the default
tag in its second entry. -/
def sampleOffending : Object :=
  let event := fun objects : List Object =>
    Value.object (Object.ofList [("payloads", Value.array (objects.map Value.object))])
  Object.ofList [("push", event [taggedObject ["x", "x"]]),
    ("issues", event [Object.empty, taggedObject ["default", "", "default"]])]

/-- The document of these events, without a wrapping key, in an order that is not that of their
names. -/
def sampleOffendingText : String := Json.render .indented (Value.object sampleOffending)

/-- The text is read as the value that it was printed from, as it holds no comment marks outside
texts and no doubles. -/
theorem read_sampleOffending :
    Json.read (Comment.strip sampleOffendingText.toList) = .ok (Value.object sampleOffending) := by
  have noDoubles : (Value.object sampleOffending).1.doubles = [] := rfl
  have read : Json.read sampleOffendingText.toList = .ok (Value.object sampleOffending) :=
    Json.read_render (by decide) (by simp [noDoubles])
  rw [Comment.strip_eq_self_of_read read, read]

/-- The entries of its events, as they are decoded. The first offence is told by the names of the
events, not by their order. -/
def sampleRefused (event : String) : List Entry :=
  if event = "push" then [⟨["x", "x"], Value.null, Object.empty⟩]
  else [⟨[], Value.null, Object.empty⟩, ⟨["default", "", "default"], Value.null, Object.empty⟩]

/-- The members of the sample are its two events, with these entries, which is checked by
computation. -/
theorem areOf_sampleRefused : ∀ m ∈ sampleOffending.toList, (m.1 = "push" ∨ m.1 = "issues") ∧
    ∃ o, m.2 = Value.object o ∧ Entry.AreOf (sampleRefused m.1) o := by
  intro m mem
  have members : sampleOffending.toList = _ := Object.toList_ofList (by decide)
  rw [members] at mem
  simp only [List.mem_cons, List.not_mem_nil, or_false] at mem
  rcases mem with rfl | rfl
  · exact ⟨.inl rfl, _, rfl, [_], rfl, .cons ⟨rfl, rfl, rfl⟩ .nil⟩
  · exact ⟨.inr rfl, _, rfl, [_, _], rfl, .cons ⟨rfl, rfl, rfl⟩ (.cons ⟨rfl, rfl, rfl⟩ .nil)⟩

/-- The second entry of the event with the smaller name is the first offence. -/
theorem isFirstOffence_sampleOffending : IsFirstOffence sampleOffending "issues" 1 "" := by
  have events : sampleOffending.toList = _ := Object.toList_ofList (by decide)
  refine ⟨?_, ?_⟩
  · have mem : ∃ o, ("issues", Value.object o) ∈ sampleOffending.toList := by
      rw [events]
      exact ⟨_, List.mem_cons_of_mem _ List.mem_cons_self⟩
    obtain ⟨o, mem⟩ := mem
    obtain ⟨-, o', eq, areOf⟩ := areOf_sampleRefused _ mem
    cases Value.object_inj eq
    exact ⟨o, _, _, mem, areOf, rfl, ["default"], ["default"], rfl, by decide, by decide⟩
  · rintro event' index' tag' ⟨o, entries, e, mem, areOf, found, first⟩
    obtain ⟨named, o', eq, areOf'⟩ := areOf_sampleRefused _ mem
    cases Value.object_inj eq
    obtain rfl := areOf.unique areOf'
    rcases named with rfl | rfl
    · exact .inl (by decide)
    · refine .inr ⟨rfl, Nat.pos_of_ne_zero fun none => ?_⟩
      -- The first entry has no tags, so that it repeats none.
      subst none
      cases found
      obtain ⟨before, after, eq, -⟩ := first
      simp at eq

/-- Of two events that repeat tags the one with the smaller name is reported, at its second entry,
with the tag as it is spelled there. -/
theorem offence_reported_sampleOffending :
    Json.read (Comment.strip sampleOffendingText.toList) = .ok (Value.object sampleOffending) ∧
      HasEvents (Value.object sampleOffending) sampleOffending ∧ AreShaped sampleOffending ∧
      readCatalog sampleOffendingText =
        .error (.misshaped (.repeatedTag "issues" 1 (.repeatedTag ""))) := by
  have has : HasEvents (Value.object sampleOffending) sampleOffending := ⟨_, rfl, rfl⟩
  have shaped : AreShaped sampleOffending := by
    intro m mem
    obtain ⟨-, o, eq, areOf⟩ := areOf_sampleRefused m mem
    exact ⟨o, _, eq, areOf⟩
  have reported := (offence_reported.2 _ _ _ read_sampleOffending has shaped).1 "issues" 1 ""
  exact ⟨read_sampleOffending, has, shaped, reported.2 isFirstOffence_sampleOffending⟩

end Document

end TemplateCoverage
