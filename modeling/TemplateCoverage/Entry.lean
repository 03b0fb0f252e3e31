import TemplateCoverage.Combination
import TemplateCoverage.Json

/-!
# `TemplateCoverage.Entry`: template entries

An entry is one template with the tags that it answers for, as they are spelled in the document. Its
payload is not looked into, and the keys beside `tags` and `payload` are carried along. Main
statements:

* `firstRepeat?_eq_none_iff`: no tag is repeated if and only if the normalised tags are distinct;
* `Entry.mem_combinations`: which combinations an entry covers under an event.
-/

set_option autoImplicit false

namespace TemplateCoverage

/-- Why the tags of an entry are refused. -/
inductive EntryError where
  | noTags
  | repeatedTag (tag : String)
  /-- A synthesised entry has a number of tags other than one. -/
  | tagCount (event : String) (count : Nat)
  /-- A synthesised entry covers another tag than the one asked for. -/
  | otherTag (event expected found : String)
  deriving DecidableEq

/-- The message about refused tags. -/
def EntryError.message : EntryError → String
  | .noTags => "template entry has no tags"
  | .repeatedTag tag => s!"template entry repeats tag `{tag}`"
  | .tagCount event count =>
    s!"synthesized entry for `{event}` must carry exactly one tag, got {count}"
  | .otherTag event expected found =>
    s!"synthesized entry for `{event}` covers tag `{found}` instead of `{expected}`"

/-- One template and the tags that it covers. -/
structure Entry where
  tags : List String
  payload : Json.Value
  extra : Json.Object

namespace Entry

/-- The tags in order, normalised. -/
def normalizedTags (e : Entry) : List String := e.tags.map Tag.normalize

/-- The combinations that the entry covers under an event, in the order of its tags. -/
def combinations (e : Entry) (event : String) : List Combination :=
  e.tags.map (Combination.of event)

/-- Whether the entry covers any combination. -/
def isTagged (e : Entry) : Bool := !e.tags.isEmpty

/-- Whether a tag of the entry, normalised, is in a set. -/
def overlaps (e : Entry) (tags : SortedSet String) : Bool := e.normalizedTags.any tags.contains

/-- The first tag whose normal form came before it or is in the list given. -/
def firstRepeat? (seen : List String) : List String → Option String
  | [] => none
  | tag :: tags =>
    if Tag.normalize tag ∈ seen then some tag else firstRepeat? (Tag.normalize tag :: seen) tags

/-- Refuses repeated tags. -/
def checkTags (e : Entry) : Except EntryError Unit :=
  match firstRepeat? [] e.tags with
  | some tag => .error (.repeatedTag tag)
  | none => .ok ()

/-- Refuses repeated tags and an entry without tags. -/
def validate (e : Entry) : Except EntryError Unit :=
  if e.tags.isEmpty then .error .noTags else e.checkTags

/-- An entry with tags that are neither missing nor repeated. -/
def ofTags (tags : List String) (payload : Json.Value) : Except EntryError Entry :=
  let e : Entry := ⟨tags, payload, Json.Object.empty⟩
  match e.validate with
  | .ok () => .ok e
  | .error err => .error err

/-- The entry that covers one tag, spelled as in documents. -/
def forTag (tag : String) (payload : Json.Value) : Entry :=
  ⟨[Tag.spell (Tag.normalize tag)], payload, Json.Object.empty⟩

/-- The entry as an object: its tags, its payload unless that is null, and the other keys, which
take the place of those two if they repeat them. -/
def toObject (e : Entry) : Json.Object :=
  let tags := Json.Value.array (e.tags.map Json.Value.string)
  -- A payload that is null is left out, as one that is left out is null.
  let known := [("tags", tags)] ++ if e.payload.isNull then [] else [("payload", e.payload)]
  (Json.Object.ofList known).insertAll e.extra

/-- Equality of entries with payloads compared as values. -/
def same (a b : Entry) : Bool :=
  a.tags == b.tags && a.payload.1.same b.payload.1 && a.extra.same b.extra

theorem firstRepeat?_eq_none_iff {seen tags : List String} :
    firstRepeat? seen tags = none ↔
      (tags.map Tag.normalize).Nodup ∧ ∀ tag ∈ tags, Tag.normalize tag ∉ seen := by
  induction tags generalizing seen with
  | nil => simp [firstRepeat?]
  | cons tag tags ih =>
    simp only [firstRepeat?]
    split
    · rename_i repeated
      simp [repeated]
    · rename_i fresh
      rw [ih]
      simp only [List.map_cons, List.nodup_cons, List.mem_map, List.mem_cons, not_or]
      grind

theorem checkTags_eq_ok_iff {e : Entry} : e.checkTags = .ok () ↔ e.normalizedTags.Nodup := by
  have none : firstRepeat? [] e.tags = none ↔
      (e.tags.map Tag.normalize).Nodup ∧ ∀ tag ∈ e.tags, Tag.normalize tag ∉ [] :=
    firstRepeat?_eq_none_iff
  unfold checkTags
  split <;> simp_all [normalizedTags]

/-- Which combinations an entry covers under an event. -/
theorem mem_combinations {e : Entry} {event : String} {c : Combination} :
    c ∈ e.combinations event ↔ c.event = event ∧ c.tag ∈ e.normalizedTags := by
  simp only [combinations, normalizedTags, List.mem_map]
  constructor
  · rintro ⟨tag, mem, rfl⟩
    exact ⟨rfl, tag, mem, rfl⟩
  · rintro ⟨rfl, tag, mem, eq⟩
    exact ⟨tag, mem, Combination.ext rfl eq⟩

theorem overlaps_iff {e : Entry} {tags : SortedSet String} :
    e.overlaps tags ↔ ∃ tag ∈ e.normalizedTags, tag ∈ tags := by
  simp [overlaps, SortedSet.contains_iff]

end Entry

end TemplateCoverage
