import TemplateCoverage.Coverage
import TemplateCoverage.Proofs.Sorted.Map
import TemplateCoverage.Proofs.Sorted.Set

/-!
# `TemplateCoverage.Proofs.Combination.Groups`: groups and what they were made of

Groups hold every combination that went into them as often as it did, and say nothing about the
order in which it did. A set of combinations comes back from its groups in its own order, since
events with ascending tags are in the order of combinations. The theorems:

* `get?_groups`: the group of an event holds the tags that occur with it;
* `perm_ungroup_groups`: groups hold what they were made of;
* `groups_eq_of_perm`: and do not depend on its order;
* `ungroup_groups_toList`: a set comes back from its groups;
* `groups_faithful`: groups are a faithful view of a list, and of both sets of a coverage.
-/

set_option autoImplicit false

namespace TemplateCoverage.Combination

/-- The combinations of groups, event by event. It is the way back from a report to what is
reported. -/
def ungroup (groups : SortedMap String (List String)) : List Combination :=
  groups.toList.flatMap fun g => g.2.map (of g.1)

/-- The tags that occur with an event, in order and as often as they do. -/
def tagsUnder (event : String) (cs : List Combination) : List String :=
  (cs.filter (·.event = event)).map (·.tag)

variable {cs ds : List Combination} {m : SortedMap String (List String)} {event : String}

/-- The tags of an event get one more with each of its combinations, and none with those of other
events. -/
theorem tagsUnder_cons (event : String) (c : Combination) (cs : List Combination) :
    tagsUnder event (c :: cs) =
      if event = c.event then c.tag :: tagsUnder event cs else tagsUnder event cs := by
  by_cases same : event = c.event
  · simp [tagsUnder, same]
  · simp [tagsUnder, same, Ne.symm same]

/-! ### The group of an event -/

/-- Filing puts the tags of an event behind those that it has, and files no event that does not
occur. -/
theorem get?_foldl_file : (cs.foldl file m).get? event =
    if tagsUnder event cs = [] then m.get? event
    else some ((m.get? event).getD [] ++ tagsUnder event cs) := by
  induction cs generalizing m with
  | nil => rfl
  | cons c cs ih =>
    rw [List.foldl_cons, ih, get?_file, tagsUnder_cons]
    by_cases same : event = c.event
    · subst same
      by_cases last : tagsUnder c.event cs = []
      · simp [last]
      · simp [last]
    · simp [same]

/-- The group of an event holds the tags that occur with it, if there are any. All that is said of
single groups below comes from this. -/
theorem get?_groups : (groups cs).get? event =
    if tagsUnder event cs = [] then none else some (sortedTags (tagsUnder event cs)) := by
  rw [groups, SortedMap.get?_map, get?_foldl_file, SortedMap.get?_empty]
  split <;> rfl

/-- So every group is that of an event with tags, and told by this event. -/
theorem eq_of_mem_groups {g : String × List String} (mem : g ∈ (groups cs).toList) :
    tagsUnder g.1 cs ≠ [] ∧ g.2 = sortedTags (tagsUnder g.1 cs) := by
  have found : (groups cs).get? g.1 = some g.2 := SortedMap.get?_eq_some_iff.2 mem
  rw [get?_groups] at found
  split at found
  · contradiction
  · rename_i some
    exact ⟨some, (Option.some.inj found).symm⟩

/-- No group is without tags, since a group is made for the first tag that is filed under its event.
-/
theorem ne_nil_of_mem_groups {g : String × List String} (mem : g ∈ (groups cs).toList) :
    g.2 ≠ [] := by
  obtain ⟨some, eq⟩ := eq_of_mem_groups mem
  rw [eq]
  intro none
  have length := (perm_sortedTags (tagsUnder g.1 cs)).length_eq
  rw [none] at length
  exact some (List.length_eq_zero_iff.1 length.symm)

/-- The tags of a group ascend. They need not be distinct, as a list may name a combination twice.
-/
theorem ascending_of_mem_groups {g : String × List String} (mem : g ∈ (groups cs).toList) :
    g.2.Pairwise (· ≤ ·) := by
  rw [(eq_of_mem_groups mem).2]
  exact pairwise_sortedTags _

/-- The tags of groups are normalised, as those of combinations are, so that normalising them again
changes nothing. -/
theorem normalize_of_mem_groups {g : String × List String} (mem : g ∈ (groups cs).toList)
    {tag : String} (inGroup : tag ∈ g.2) : Tag.normalize tag = tag := by
  rw [(eq_of_mem_groups mem).2, (perm_sortedTags _).mem_iff, tagsUnder, List.mem_map] at inGroup
  obtain ⟨c, _, rfl⟩ := inGroup
  exact c.normal

/-! ### The order of what is grouped -/

/-- Tags in ascending order do not depend on the order in which they are given, since the order is
antisymmetric. -/
theorem sortedTags_eq_of_perm {tags tags' : List String} (perm : tags.Perm tags') :
    sortedTags tags = sortedTags tags' := by
  have same : (sortedTags tags).Perm (sortedTags tags') :=
    (perm_sortedTags tags).trans (perm.trans (perm_sortedTags tags').symm)
  exact same.eq_of_pairwise (fun _ _ _ _ => String.le_antisymm) (pairwise_sortedTags tags)
    (pairwise_sortedTags tags')

/-- Groups do not depend on the order of what they are made of. A report can therefore be compared
with another one. -/
theorem groups_eq_of_perm (perm : cs.Perm ds) : groups cs = groups ds := by
  refine SortedMap.ext fun event => ?_
  have tags : (tagsUnder event cs).Perm (tagsUnder event ds) := (perm.filter _).map _
  have none : tagsUnder event cs = [] ↔ tagsUnder event ds = [] := by
    rw [← List.perm_nil, tags.congr_left, List.perm_nil]
  rw [get?_groups, get?_groups, sortedTags_eq_of_perm tags]
  simp only [none]

/-! ### What groups hold -/

/-- What groups hold is what one of them holds and what the others do. It lets one event be looked
at apart from the rest. -/
theorem perm_ungroup_erase (m : SortedMap String (List String)) (event : String) :
    (ungroup m).Perm (((m.get? event).getD []).map (of event) ++ ungroup (m.erase event)) := by
  cases found : m.get? event with
  | none =>
    have same : m.erase event = m := SortedMap.ext fun e => by
      rw [SortedMap.get?_erase]
      split
      · rename_i eq
        rw [eq, found]
      · rfl
    rw [same]
    exact List.Perm.refl _
  | some tags => exact (SortedMap.perm_erase found).flatMap_right _

/-- Filing a combination adds it to what the groups hold, once, whether its event has a group or
not. -/
theorem perm_ungroup_file (m : SortedMap String (List String)) (c : Combination) :
    (ungroup (file m c)).Perm (c :: ungroup m) := by
  -- The new tag is in the group of its event, and the other groups are what they were.
  have filed : (ungroup (file m c)).Perm
      ((((m.get? c.event).getD []).map (of c.event) ++ [c]) ++ ungroup (m.erase c.event)) := by
    have held := perm_ungroup_erase (file m c) c.event
    rw [get?_file, if_pos rfl, Option.getD_some, List.map_append, List.map_singleton, of_event_tag,
      file, SortedMap.erase_insert] at held
    exact held
  rw [List.append_assoc, List.singleton_append] at filed
  exact filed.trans (List.perm_middle.trans ((perm_ungroup_erase m c.event).symm.cons c))

/-- Filing combinations one after the other adds all of them. The groups before are arbitrary, as
the induction needs it. -/
theorem perm_ungroup_foldl_file (cs : List Combination) (m : SortedMap String (List String)) :
    (ungroup (cs.foldl file m)).Perm (cs ++ ungroup m) := by
  -- The groups so far are general, as each combination is filed into what the ones before it have
  -- made.
  induction cs generalizing m with
  | nil => exact List.Perm.refl _
  | cons c cs ih =>
    have others : (ungroup (cs.foldl file (file m c))).Perm (cs ++ ungroup (file m c)) := ih _
    exact others.trans (((perm_ungroup_file m c).append_left cs).trans List.perm_middle)

/-- Groups hold what they were made of, each combination as often as it was there. -/
theorem perm_ungroup_groups (cs : List Combination) : (ungroup (groups cs)).Perm cs := by
  have sorted : (ungroup (groups cs)).Perm (ungroup (cs.foldl file SortedMap.empty)) := by
    rw [ungroup, groups, SortedMap.map, List.flatMap_map]
    exact List.Perm.flatMap_left _ fun g _ => (perm_sortedTags g.2).map (of g.1)
  have filed := perm_ungroup_foldl_file cs SortedMap.empty
  exact sorted.trans (filed.trans (by simp [ungroup, SortedMap.empty]))

/-! ### Sets by event -/

/-- Groups are listed in the order of combinations, where a combination may come several times in a
row. -/
theorem ascending_ungroup_groups (cs : List Combination) :
    (ungroup (groups cs)).Pairwise fun a b => a = b ∨ a < b := by
  refine List.pairwise_flatMap.2 ⟨fun g mem => ?_, (groups cs).ascending.imp fun lt x hx y hy => ?_⟩
  · -- Within a group the event is the same, and the tags ascend.
    rw [List.pairwise_map]
    refine (ascending_of_mem_groups mem).imp_of_mem fun {tag tag'} first second le => ?_
    have normal : (of g.1 tag).tag = tag := normalize_of_mem_groups mem first
    have normal' : (of g.1 tag').tag = tag' := normalize_of_mem_groups mem second
    rcases StrictOrder.total tag tag' with lt | eq | gt
    · exact .inr (.inr ⟨rfl, by rwa [normal, normal']⟩)
    · exact .inl (congrArg (of g.1) eq)
    · exact absurd gt (String.not_lt.2 le)
  · obtain ⟨tag, _, rfl⟩ := List.mem_map.1 hx
    obtain ⟨tag', _, rfl⟩ := List.mem_map.1 hy
    exact .inr (.inl lt)

/-- A set comes back from its groups in its own order: nothing is named twice, and both lists
ascend. -/
theorem ungroup_groups_toList (s : SortedSet Combination) :
    ungroup (groups s.toList) = s.toList := by
  have perm := perm_ungroup_groups s.toList
  have distinct : (ungroup (groups s.toList)).Nodup := perm.nodup_iff.2 s.nodup_toList
  -- Two lists that ascend and have the same members are equal.
  have ascending : (ungroup (groups s.toList)).Pairwise (· < ·) :=
    (ascending_ungroup_groups s.toList).imp₂ (fun a b le ne => le.resolve_left ne) distinct
  exact StrictOrder.eq_of_mem_iff ascending s.ascending fun _ => perm.mem_iff

/-- The groups of a list of combinations are the events that occur, in ascending order, each with
its tags in ascending order. They hold the combinations of the list as often as it does, and any
list of the same combinations has the same groups. The missing and the extra combinations of a
coverage are listed by event in the order of their sets. -/
theorem groups_faithful :
    (∀ cs : List Combination,
      (groups cs).keys.Pairwise (· < ·) ∧
      (∀ g ∈ (groups cs).toList, g.2 ≠ [] ∧ g.2.Pairwise (· ≤ ·)) ∧
      (ungroup (groups cs)).Perm cs ∧
      ∀ ds : List Combination, cs.Perm ds → groups cs = groups ds) ∧
    ∀ r : Coverage,
      ungroup r.missingByEvent = r.missing.toList ∧ ungroup r.extraByEvent = r.extra.toList := by
  refine ⟨fun cs => ⟨(groups cs).ascending_keys, fun g mem => ?_, perm_ungroup_groups cs,
    fun ds => groups_eq_of_perm⟩, fun r => ?_⟩
  · exact ⟨ne_nil_of_mem_groups mem, ascending_of_mem_groups mem⟩
  · exact ⟨ungroup_groups_toList r.missing, ungroup_groups_toList r.extra⟩

end TemplateCoverage.Combination
