import TemplateCoverage.Combination
import TemplateCoverage.Sorted.Map

/-!
# `TemplateCoverage.Taxonomy`: the events that catalogs have to answer

A taxonomy declares the tags of every event. An event without tags is expected in its default
variant only. Main statements:

* `mem_expected`: which combinations are expected.
-/

set_option autoImplicit false

namespace TemplateCoverage

/-- The declared tags of every event. -/
structure Taxonomy where
  events : SortedMap String (List String)

namespace Taxonomy

/-- The taxonomy without events. -/
def empty : Taxonomy := ⟨SortedMap.empty⟩

/-- Declares the tags of an event. -/
def insert (t : Taxonomy) (event : String) (tags : List String) : Taxonomy :=
  ⟨t.events.insert event tags⟩

/-- The taxonomy of declarations, of which the last one for an event counts. -/
def ofList (declarations : List (String × List String)) : Taxonomy :=
  ⟨SortedMap.ofList declarations⟩

/-- The declared tags of an event. -/
def tags? (t : Taxonomy) (event : String) : Option (List String) := t.events.get? event

/-- The number of events. -/
def eventCount (t : Taxonomy) : Nat := t.events.size

/-- The combinations that an event with declared tags expects. -/
def expectedOf (event : String) (tags : List String) : List Combination :=
  if tags.isEmpty then [Combination.default event] else tags.map (Combination.of event)

/-- The expected combinations. -/
def expected (t : Taxonomy) : SortedSet Combination :=
  SortedSet.ofList (t.events.toList.flatMap fun e => expectedOf e.1 e.2)

/-- Which combinations are expected. -/
theorem mem_expected {t : Taxonomy} {c : Combination} :
    c ∈ t.expected ↔ ∃ tags, t.tags? c.event = some tags ∧
      ((tags = [] ∧ c.tag = "") ∨ ∃ tag ∈ tags, Tag.normalize tag = c.tag) := by
  simp only [expected, SortedSet.mem_ofList, List.mem_flatMap, tags?]
  constructor
  · rintro ⟨⟨event, tags⟩, mem, inEvent⟩
    cases tags with
    | nil =>
      simp only [expectedOf, List.isEmpty_nil, if_true, List.mem_singleton] at inEvent
      subst inEvent
      exact ⟨[], SortedMap.get?_eq_some_iff.2 mem, .inl ⟨rfl, by simp⟩⟩
    | cons tag tags =>
      simp only [expectedOf, List.isEmpty_cons, Bool.false_eq_true, if_false] at inEvent
      obtain ⟨t, inTags, rfl⟩ := List.mem_map.1 inEvent
      exact ⟨tag :: tags, SortedMap.get?_eq_some_iff.2 mem, .inr ⟨t, inTags, rfl⟩⟩
  · rintro ⟨tags, found, cases⟩
    refine ⟨(c.event, tags), SortedMap.get?_eq_some_iff.1 found, ?_⟩
    rcases cases with ⟨rfl, same⟩ | ⟨tag, mem, same⟩
    · simp only [expectedOf, List.isEmpty_nil, if_true, List.mem_singleton]
      exact Combination.ext rfl (by simp [same])
    · have some : tags ≠ [] := List.ne_nil_of_mem mem
      simp only [expectedOf, List.isEmpty_iff, some, if_false]
      exact List.mem_map.2 ⟨tag, mem, Combination.ext rfl same⟩

end Taxonomy

end TemplateCoverage
