import TemplateCoverage.Combination
import TemplateCoverage.Sorted.Map

/-!
# `TemplateCoverage.Combination.Groups`: tags grouped by event

Reports list combinations as events with their tags. Every combination counts: the tags of an event
ascend and repeat as often as they occur. Main statements:

* `pairwise_sortedTags`, `perm_sortedTags`: sorted tags ascend and are the tags given.
-/

set_option autoImplicit false

namespace TemplateCoverage.Combination

/-- Tags in ascending order. -/
def sortedTags (tags : List String) : List String := tags.mergeSort fun a b => decide (a ≤ b)

/-- Files the tag of a combination under its event. -/
def file (groups : SortedMap String (List String)) (c : Combination) :
    SortedMap String (List String) :=
  groups.insert c.event ((groups.get? c.event).getD [] ++ [c.tag])

/-- The events of combinations, each with its tags. -/
def groups (cs : List Combination) : SortedMap String (List String) :=
  (cs.foldl file SortedMap.empty).map fun _ tags => sortedTags tags

theorem perm_sortedTags (tags : List String) : (sortedTags tags).Perm tags :=
  List.mergeSort_perm _ _

theorem pairwise_sortedTags (tags : List String) : (sortedTags tags).Pairwise (· ≤ ·) := by
  have sorted : (sortedTags tags).Pairwise fun a b => decide (a ≤ b) :=
    List.pairwise_mergeSort (by simpa using fun a b c => String.le_trans)
      (by simpa using String.le_total) tags
  simpa using sorted

theorem get?_file {groups : SortedMap String (List String)} {c : Combination} {event : String} :
    (file groups c).get? event =
      if event = c.event then some ((groups.get? c.event).getD [] ++ [c.tag])
      else groups.get? event :=
  SortedMap.get?_insert

end TemplateCoverage.Combination
