import TemplateCoverage.Catalog.Gaps
import TemplateCoverage.Coverage
import TemplateCoverage.Proofs.Catalog.Sections
import TemplateCoverage.Proofs.Sorted.Set

/-!
# `TemplateCoverage.Proofs.Catalog.Gaps`: what gaps list

The gaps of a catalog beside another one are found event by event, from the tags that both cover.
They say the same as the difference of the combinations. The theorems:

* `isEmpty_gaps_iff`: a catalog lacks nothing beside another one if and only if it has all events of
  that one and covers all that it covers;
* `absent_gaps_eq`, `incomplete_gaps_eq`: the gap of every event is made of its lacking tags;
* `mem_combinations_gaps`, `nodup_combinations_gaps`: gaps list the missing combinations, each one
  once;
* `gaps_list_missing`: which events and tags gaps list, and in which order.
-/

set_option autoImplicit false

namespace TemplateCoverage

/-- The combinations that a gap lists, one for each of its tags, under the event that it is about.
-/
def Gap.combinations (g : Gap) : List Combination := g.tags.map (Combination.of g.event)

/-- The combinations that gaps list, those of absent events first. This is the reading of the report
that is compared with the missing set. -/
def Gaps.combinations (g : Gaps) : List Combination :=
  (g.absent ++ g.incomplete).flatMap (·.combinations)

namespace Catalog

variable {p s : Catalog} {event : String}

/-- A catalog contains the events that it lists as keys, also those without entries. -/
theorem contains_iff_mem_keys : p.contains event ↔ event ∈ p.events.keys := SortedMap.contains_iff

/-- A covered tag is the tag of a covered combination. The hypothesis is there because covered tags
are normal, while a combination is made of any spelling. -/
theorem of_mem_combinations_iff {tag : String} (covered : tag ∈ p.coveredTags event) :
    Combination.of event tag ∈ s.combinations ↔ tag ∈ s.coveredTags event := by
  obtain ⟨_, _, e, _, mem⟩ := mem_coveredTags.1 covered
  obtain ⟨raw, _, rfl⟩ := List.mem_map.1 mem
  have normal : (Combination.of event (Tag.normalize raw)).tag = Tag.normalize raw :=
    Tag.normalize_normalize raw
  rw [mem_combinations, normal]
  rfl

/-- No tag of an event is lacking if and only if all its covered combinations are covered. -/
theorem isEmpty_lackingTags_iff : (p.lackingTags s event).isEmpty ↔
    ∀ x ∈ p.combinations, x.event = event → x ∈ s.combinations := by
  rw [lackingTags, SortedSet.isEmpty_iff]
  simp only [SortedSet.mem_diff, not_and, Classical.not_not]
  refine ⟨?_, fun all tag covered => ?_⟩
  · rintro all x mem rfl
    exact mem_combinations.2 (all x.tag (mem_combinations.1 mem))
  · have own : Combination.of event tag ∈ p.combinations :=
      (of_mem_combinations_iff covered).2 covered
    exact (of_mem_combinations_iff covered).1 (all _ own rfl)

/-- A catalog lacks nothing beside another one if and only if it has all events of that one and
covers all that it covers. An event without covered tags counts too, as it is listed as absent. -/
theorem isEmpty_gaps_iff : (p.gaps s).isEmpty ↔
    (∀ event, p.contains event → s.contains event) ∧ ∀ x ∈ p.combinations, x ∈ s.combinations := by
  simp only [Gaps.isEmpty_iff, gaps, List.map_eq_nil_iff, List.filter_eq_nil_iff,
    List.mem_filter, Bool.not_eq_true, Bool.not_eq_false', and_imp, isEmpty_lackingTags_iff,
    contains_iff_mem_keys (p := p)]
  refine and_congr_right fun has => ⟨fun all x mem => ?_, fun all _ _ _ x mem _ => all x mem⟩
  obtain ⟨entries, listed, _⟩ := mem_coveredTags.1 (mem_combinations.1 mem)
  have known : x.event ∈ p.events.keys :=
    contains_iff_mem_keys.1 (contains_iff.2 ⟨entries, listed⟩)
  exact all x.event known (has x.event known) x mem rfl

/-! ### The gap of an event -/

/-- The tag of a combination is lacking if and only if the combination is covered on the one side
only. -/
theorem mem_lackingTags_iff {x : Combination} :
    x.tag ∈ p.lackingTags s x.event ↔ x ∈ p.combinations ∧ x ∉ s.combinations := by
  rw [lackingTags, SortedSet.mem_diff, mem_combinations, mem_combinations]

/-- A tag that is lacking is a normalised one, as all covered tags are. -/
theorem normalize_of_mem_lackingTags {tag : String} (lacking : tag ∈ p.lackingTags s event) :
    Tag.normalize tag = tag := by
  obtain ⟨_, _, e, _, mem⟩ := mem_coveredTags.1 (SortedSet.mem_diff.1 lacking).1
  obtain ⟨raw, _, rfl⟩ := List.mem_map.1 mem
  exact Tag.normalize_normalize raw

/-- Beside a catalog without an event, all of the event's tags are lacking. -/
theorem lackingTags_of_contains_eq_false (absent : s.contains event = false) :
    p.lackingTags s event = p.coveredTags event := by
  refine SortedSet.ext fun tag => ?_
  rw [lackingTags, SortedSet.mem_diff]
  refine and_iff_left fun covered => ?_
  obtain ⟨entries, listed, _⟩ := mem_coveredTags.1 covered
  rw [contains_eq_false_iff.1 absent] at listed
  contradiction

/-- The gap of an event: its lacking tags. Both kinds of gaps are made in this way, although the
program lists all covered tags of an absent event. -/
def gapOf (p s : Catalog) (event : String) : Gap := gap event (p.lackingTags s event)

/-- Absent events are listed with their gaps, in the order of the keys. -/
theorem absent_gaps_eq : (p.gaps s).absent =
    (p.events.keys.filter (!s.contains ·)).map (p.gapOf s) := by
  refine List.map_congr_left fun event mem => ?_
  have absent : s.contains event = false := by simpa using (List.mem_filter.1 mem).2
  rw [gapOf, lackingTags_of_contains_eq_false absent]

/-- Incomplete events are listed with their gaps, in the order of the keys too. -/
theorem incomplete_gaps_eq : (p.gaps s).incomplete =
    ((p.events.keys.filter (s.contains ·)).filter fun event =>
      !(p.lackingTags s event).isEmpty).map (p.gapOf s) := rfl

/-- The tags of an event's gap are those lacking, in their order. They are spelled for a reader, and
normalising undoes this. -/
theorem map_normalize_tags_gapOf :
    (p.gapOf s event).tags.map Tag.normalize = (p.lackingTags s event).toList := by
  show ((p.lackingTags s event).toList.map Tag.spell).map Tag.normalize = _
  rw [List.map_map]
  refine (List.map_congr_left fun tag lacking => ?_).trans (List.map_id _)
  show Tag.normalize (Tag.spell tag) = tag
  rw [Tag.normalize_spell, normalize_of_mem_lackingTags lacking]

/-- The combinations of an event's gap have the lacking tags, in their order. -/
theorem map_tag_combinations_gapOf :
    (p.gapOf s event).combinations.map (·.tag) = (p.lackingTags s event).toList := by
  rw [← map_normalize_tags_gapOf, Gap.combinations, List.map_map]
  rfl

/-- The gap of an event lists the missing combinations of the event, and no others, if there is a
gap at all. -/
theorem mem_combinations_gapOf {x : Combination} : x ∈ (p.gapOf s event).combinations ↔
    x.event = event ∧ x ∈ p.combinations ∧ x ∉ s.combinations := by
  rw [← mem_lackingTags_iff, SortedSet.mem_def]
  constructor
  · intro listed
    obtain ⟨tag, inTags, rfl⟩ := List.mem_map.1 listed
    refine ⟨rfl, ?_⟩
    show Tag.normalize tag ∈ (p.lackingTags s event).toList
    rw [← map_normalize_tags_gapOf]
    exact List.mem_map_of_mem inTags
  · rintro ⟨rfl, lacking⟩
    rw [← map_tag_combinations_gapOf] at lacking
    obtain ⟨y, listed, same⟩ := List.mem_map.1 lacking
    obtain ⟨tag, _, rfl⟩ := List.mem_map.1 listed
    have eq : Combination.of (p.gapOf s x.event).event tag = x := Combination.ext rfl same
    exact eq ▸ listed

/-! ### All gaps -/

/-- The gaps of events are about these events, in their order; an event without a gap is left out.
-/
theorem map_event_gapOf (events : List String) :
    (events.map (p.gapOf s)).map (·.event) = events := by
  rw [List.map_map]
  exact List.map_id events

/-- Every gap that is listed is the gap of its event, so that it is told by the event alone. -/
theorem eq_gapOf_of_mem_gaps {g : Gap} (mem : g ∈ (p.gaps s).absent ++ (p.gaps s).incomplete) :
    g = p.gapOf s g.event := by
  rw [absent_gaps_eq, incomplete_gaps_eq, ← List.map_append] at mem
  obtain ⟨event, _, rfl⟩ := List.mem_map.1 mem
  rfl

/-- An event is listed as absent if and only if the first catalog has it and the second has not. -/
theorem mem_events_absent_iff : event ∈ (p.gaps s).absent.map (·.event) ↔
    p.contains event ∧ ¬s.contains event := by
  rw [absent_gaps_eq, map_event_gapOf, List.mem_filter, ← contains_iff_mem_keys,
    Bool.not_eq_true', Bool.not_eq_true]

/-- An event is listed as incomplete if and only if both catalogs have it and some combination of it
is missing in the second. -/
theorem mem_events_incomplete_iff : event ∈ (p.gaps s).incomplete.map (·.event) ↔
    p.contains event ∧ s.contains event ∧
      ∃ x ∈ p.combinations, x.event = event ∧ x ∉ s.combinations := by
  have lacking : (!(p.lackingTags s event).isEmpty) = true ↔
      ∃ x ∈ p.combinations, x.event = event ∧ x ∉ s.combinations := by
    rw [Bool.not_eq_true', ← Bool.not_eq_true, isEmpty_lackingTags_iff]
    simp only [not_forall, exists_prop]
  rw [incomplete_gaps_eq, map_event_gapOf, List.mem_filter, List.mem_filter,
    ← contains_iff_mem_keys, lacking, and_assoc]

/-- No event has two gaps: the keys are distinct, and each of them is absent or not. -/
theorem nodup_events_gaps : (((p.gaps s).absent ++ (p.gaps s).incomplete).map (·.event)).Nodup := by
  -- The keys fall into those that the second catalog has and those that it has not.
  have parts : (p.events.keys.filter (!s.contains ·) ++ p.events.keys.filter (s.contains ·)).Perm
      p.events.keys := by
    simpa using List.filter_append_perm (!s.contains ·) p.events.keys
  have distinct : p.events.keys.Nodup := p.events.nodup_keys
  rw [List.map_append, absent_gaps_eq, incomplete_gaps_eq, map_event_gapOf, map_event_gapOf]
  exact (parts.nodup_iff.2 distinct).sublist (List.filter_sublist.append_left _)

/-- Each combination is listed once at most: gaps are about distinct events, and the tags of each
are a set. -/
theorem nodup_combinations_gaps : (p.gaps s).combinations.Nodup := by
  refine List.nodup_flatMap.2 ⟨fun g mem => ?_, ?_⟩
  · refine List.Nodup.of_map (·.tag) ?_
    rw [eq_gapOf_of_mem_gaps mem, map_tag_combinations_gapOf]
    exact SortedSet.nodup_toList _
  · -- Gaps of different events have no combination in common.
    refine (List.pairwise_map.1 nodup_events_gaps).imp fun ne x first second => ne ?_
    obtain ⟨_, _, rfl⟩ := List.mem_map.1 first
    obtain ⟨_, _, eq⟩ := List.mem_map.1 second
    exact congrArg Combination.event eq.symm

/-- Gaps list what the first catalog covers and the second does not, whichever kind of gap it is in.
-/
theorem mem_combinations_gaps {x : Combination} : x ∈ (p.gaps s).combinations ↔
    x ∈ p.combinations ∧ x ∉ s.combinations := by
  rw [Gaps.combinations, List.mem_flatMap]
  constructor
  · rintro ⟨g, mem, listed⟩
    rw [eq_gapOf_of_mem_gaps mem] at listed
    exact (mem_combinations_gapOf.1 listed).2
  · intro missing
    obtain ⟨entries, found, _⟩ := mem_coveredTags.1 (mem_combinations.1 missing.1)
    have has : p.contains x.event := contains_iff.2 ⟨entries, found⟩
    have listed : x.event ∈ ((p.gaps s).absent ++ (p.gaps s).incomplete).map (·.event) := by
      rw [List.map_append, List.mem_append, mem_events_absent_iff, mem_events_incomplete_iff]
      -- Whether the second catalog has the event decides where it is listed.
      by_cases both : s.contains x.event
      · exact .inr ⟨has, both, x, missing.1, rfl, missing.2⟩
      · exact .inl ⟨has, both⟩
    obtain ⟨g, mem, same⟩ := List.mem_map.1 listed
    refine ⟨g, mem, ?_⟩
    rw [eq_gapOf_of_mem_gaps mem]
    exact mem_combinations_gapOf.2 ⟨same.symm, missing⟩

/-- Gaps list just the combinations that the first catalog covers and the second does not, each one
once. The absent events are those of the first catalog only, the incomplete ones those of both of
which something is missing; both lists and the tags of every gap ascend. Nothing is listed if and
only if the second catalog has all events and covers all combinations of the first. -/
theorem gaps_list_missing (p s : Catalog) :
    let g := p.gaps s
    g.combinations.Perm (Coverage.measure p.combinations s.combinations).missing.toList ∧
    (∀ event, event ∈ g.absent.map (·.event) ↔ p.contains event ∧ ¬s.contains event) ∧
    (∀ event, event ∈ g.incomplete.map (·.event) ↔ p.contains event ∧ s.contains event ∧
      ∃ x ∈ p.combinations, x.event = event ∧ x ∉ s.combinations) ∧
    (g.absent.map (·.event)).Pairwise (· < ·) ∧ (g.incomplete.map (·.event)).Pairwise (· < ·) ∧
    (∀ gap ∈ g.absent ++ g.incomplete, (gap.tags.map Tag.normalize).Pairwise (· < ·)) ∧
    (g.isEmpty ↔ (∀ event, p.contains event → s.contains event) ∧
      ∀ x ∈ p.combinations, x ∈ s.combinations) := by
  intro g
  have distinct := (p.combinations.diff s.combinations).nodup_toList
  refine ⟨?_, fun _ => mem_events_absent_iff, fun _ => mem_events_incomplete_iff, ?_, ?_,
    fun gap mem => ?_, isEmpty_gaps_iff⟩
  · -- Neither list names a combination twice, so that it is enough that they have the same ones.
    refine (List.perm_ext_iff_of_nodup nodup_combinations_gaps distinct).2 fun x => ?_
    rw [mem_combinations_gaps, ← SortedSet.mem_def, SortedSet.mem_diff]
  · rw [absent_gaps_eq, map_event_gapOf]
    exact p.events.ascending_keys.sublist List.filter_sublist
  · rw [incomplete_gaps_eq, map_event_gapOf]
    exact p.events.ascending_keys.sublist (List.filter_sublist.trans List.filter_sublist)
  · rw [eq_gapOf_of_mem_gaps mem, map_normalize_tags_gapOf]
    exact SortedSet.ascending _

end Catalog

end TemplateCoverage
