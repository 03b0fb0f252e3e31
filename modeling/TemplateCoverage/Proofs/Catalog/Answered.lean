import TemplateCoverage.Proofs.Catalog.Respelling
import TemplateCoverage.Proofs.Catalog.Shape

/-!
# `TemplateCoverage.Proofs.Catalog.Answered`: what a catalog document answers

Whether a document has an entry for a tag is said of its value alone. The theorems:

* `lists_iff_of_isOf`: an entry covers the tags of its object;
* `mem_combinations_of_ofValue`: the catalog of a value covers what the value answers.
-/

set_option autoImplicit false

namespace TemplateCoverage.Catalog

open Json (Object Value)

/-- An object lists a tag, in either spelling. The tags must be an array of texts; an object of
which no entry can be decoded lists nothing. -/
def Lists (o : Object) (tag : String) : Prop :=
  ∃ tags : List String, o.get? "tags" = some (Value.array (tags.map Value.string)) ∧
    ∃ spelled ∈ tags, Tag.Respells spelled tag

/-- A value answers a tag of an event: one of the entries of the event lists the tag. It is told of
the JSON value, before any catalog is decoded from it. -/
def Answers (v : Value) (event tag : String) : Prop :=
  ∃ (events o : Object) (objects : List Object), HasEvents v events ∧
    (event, Value.object o) ∈ events.toList ∧
    o.get? "payloads" = some (Value.array (objects.map Value.object)) ∧ ∃ e ∈ objects, Lists e tag

variable {v : Value} {c : Catalog} {event tag : String}

/-- A value has one object of events at most, whether it is the value itself or stands under the
wrapping key. -/
theorem HasEvents.unique {events events' : Object} (h : HasEvents v events)
    (h' : HasEvents v events') : events = events' := by
  obtain ⟨top, rfl, found⟩ := h
  obtain ⟨top', eq, found'⟩ := h'
  cases Value.object_inj eq
  exact Value.object_inj (found.symm.trans found')

/-- Arrays of objects are equal only if the objects are. -/
theorem map_object_inj {objects objects' : List Object}
    (h : Value.array (objects.map Value.object) = Value.array (objects'.map Value.object)) :
    objects = objects' := by
  have items := congrArg Value.items? h
  rw [Value.items?_array, Value.items?_array, Option.some.injEq] at items
  exact (List.map_inj_right fun _ _ => Value.object_inj).1 items

/-- Arrays of texts are equal only if the texts are. Tags are decoded by such an array, which tells
them. -/
theorem map_string_inj {tags tags' : List String}
    (h : Value.array (tags.map Value.string) = Value.array (tags'.map Value.string)) :
    tags = tags' := by
  have decoded := decodeTags_eq_ok_iff.2 h
  rw [decodeTags_array] at decoded
  exact Except.ok.inj decoded

/-- An entry covers the tags that its object lists, in their normal form. An object without tags
lists none, like one with an empty array. -/
theorem lists_iff_of_isOf {e : Entry} {o : Object} (h : e.IsOf o) :
    Lists o tag ↔ Tag.normalize tag ∈ e.normalizedTags := by
  rw [Entry.normalizedTags, List.mem_map]
  refine ⟨?_, ?_⟩
  · rintro ⟨tags, found, spelled, mem, respells⟩
    have same := h.tags
    rw [found] at same
    exact ⟨spelled, map_string_inj same ▸ mem, Tag.respells_iff.1 respells⟩
  · rintro ⟨spelled, mem, same⟩
    have listed := h.tags
    cases found : o.get? "tags" with
    | none =>
      rw [found] at listed
      have none : [] = e.tags := map_string_inj listed
      rw [← none] at mem
      contradiction
    | some value =>
      rw [found] at listed
      exact ⟨e.tags, found.trans (congrArg some listed), spelled, mem, Tag.respells_iff.2 same⟩

/-- One of the entries covers a tag if and only if one of their objects lists it. Entries and
objects stand in the same order. -/
theorem exists_lists_iff {entries : List Entry} {objects : List Object}
    (h : List.Forall₂ Entry.IsOf entries objects) :
    (∃ o ∈ objects, Lists o tag) ↔ ∃ e ∈ entries, Tag.normalize tag ∈ e.normalizedTags := by
  induction h with
  | nil => simp
  | cons first _ ih =>
    rw [List.exists_mem_cons_iff, List.exists_mem_cons_iff, ih, lists_iff_of_isOf first]

/-- The catalog of a value covers what the value answers. It is what ties the exit code of an
analysis to the text of a catalog. -/
theorem mem_combinations_of_ofValue (h : ofValue v = .ok c) :
    Combination.of event tag ∈ c.combinations ↔ Answers v event tag := by
  obtain ⟨events, has, all, holds⟩ := ofValue_eq_ok_iff_holds.1 h
  rw [mem_combinations, mem_coveredTags]
  show (∃ entries, c.entries? event = some entries ∧ ∃ e ∈ entries, Tag.normalize tag ∈ _) ↔ _
  refine ⟨?_, ?_⟩
  · -- An event of the catalog has a member in the value, whose entries are the ones found.
    intro ⟨entries, found, covered⟩
    have mem := (holds.contains event).1 (contains_iff.2 ⟨entries, found⟩)
    obtain ⟨⟨_, w⟩, inEvents, rfl⟩ := List.mem_map.1 mem
    obtain ⟨o, items, rfl, -⟩ := all _ inEvents
    obtain ⟨entries', found', objects, listed, each⟩ := holds.entries _ o inEvents
    rw [found, Option.some.injEq] at found'
    subst found'
    exact ⟨events, o, objects, has, inEvents, listed, (exists_lists_iff each).2 covered⟩
  · -- A member of the value is the only one with its key, so that it is the one decoded.
    intro ⟨events', o, objects, has', inEvents, listed, answered⟩
    cases has.unique has'
    obtain ⟨entries, found, objects', listed', each⟩ := holds.entries _ o inEvents
    rw [listed, Option.some.injEq] at listed'
    cases map_object_inj listed'
    exact ⟨entries, found, (exists_lists_iff each).1 answered⟩

end TemplateCoverage.Catalog
