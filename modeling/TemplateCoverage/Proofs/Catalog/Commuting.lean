import TemplateCoverage.Proofs.Catalog.Gaps
import TemplateCoverage.Proofs.Catalog.Merge

/-!
# `TemplateCoverage.Proofs.Catalog.Commuting`: merges in another order

What a merge accepts hangs on what is covered before it, so candidates that cover nothing in common
do not stand in each other's way: they may be merged in either order. The entries of an event are
then the same ones, those merged first standing first. Fields are adopted by the candidates merged
first, so that they may differ where both candidates bring an event. The theorems:

* `accepts_merge`, `additions_merge`: merging candidates does not change what is accepted of others;
* `mergeCounts_merge`: nor how much;
* `AgreeAt.merge`: what a merge does at an event hangs on what is there;
* `merge_comm_of_events`: candidates without a common event may be merged in either order;
* `merges_commute`: what two orders of merging have in common.
-/

set_option autoImplicit false

namespace TemplateCoverage.Catalog

variable {p q c d : Catalog} {event : String} {x : Combination}

/-! ### Candidates that cover nothing in common -/

/-- No combination is covered by both catalogs. They may well have events in common, with entries
for other tags. -/
def Apart (c d : Catalog) : Prop := ∀ x ∈ c.combinations, x ∉ d.combinations

/-- Whether catalogs cover nothing in common can be computed from what the first one covers. -/
instance : Decidable (c.Apart d) :=
  inferInstanceAs (Decidable (∀ x ∈ c.combinations.toList, x ∉ d.combinations))

/-- Covering nothing in common does not depend on which catalog comes first, so that one half of
each proof gives the other. -/
theorem Apart.symm (apart : c.Apart d) : d.Apart c := fun x inD inC => apart x inC inD

/-- After a merge a combination is covered if it was before or an addition covers it. -/
theorem mem_combinations_merge : x ∈ (p.merge c).combinations ↔
    x ∈ p.combinations ∨ ∃ e ∈ p.additions c x.event, x.tag ∈ e.normalizedTags := by
  rw [mem_combinations, mem_combinations, mem_coveredTags_merge]

/-- What the additions cover is covered by the candidates, since they are among their entries. -/
theorem mem_combinations_of_mem_additions {e : Entry} (added : e ∈ p.additions c x.event)
    (tag : x.tag ∈ e.normalizedTags) : x ∈ c.combinations := by
  obtain ⟨entries, listed, mem, -⟩ := mem_additions.1 added
  exact mem_combinations.2 (mem_coveredTags.2 ⟨entries, listed, e, mem, tag⟩)

/-- A candidate entry is accepted after others were merged just if it was before, because nothing
that the others brought covers any of its tags. -/
theorem accepts_merge (apart : c.Apart d) {entries : List Entry}
    (listed : d.entries? event = some entries) {e : Entry} (mem : e ∈ entries) :
    (p.merge c).accepts event e = p.accepts event e := by
  rw [Bool.eq_iff_iff, accepts_iff, accepts_iff]
  refine and_congr_right fun _ => forall₂_congr fun x own => not_congr ?_
  obtain ⟨rfl, tag⟩ := Entry.mem_combinations.1 own
  rw [mem_combinations_merge]
  refine or_iff_left ?_
  -- An addition that covered what the entry covers would be a common combination.
  rintro ⟨e', added, tag'⟩
  exact apart x (mem_combinations_of_mem_additions added tag')
    (mem_combinations.2 (mem_coveredTags.2 ⟨entries, listed, e, mem, tag⟩))

/-- So the same entries are put behind those of an event, in the same order. -/
theorem additions_merge (apart : c.Apart d) :
    (p.merge c).additions d event = p.additions d event := by
  cases listed : d.entries? event with
  | none => rw [additions, additions, listed, Option.getD_none, accepted, accepted, List.filter_nil,
      List.filter_nil]
  | some entries =>
    rw [additions, additions, listed, Option.getD_some]
    exact List.filter_congr fun e mem => accepts_merge apart listed mem

/-- After others were merged as many candidate entries are added and rejected as before. -/
theorem mergeCounts_merge (apart : c.Apart d) :
    ((p.merge c).mergeCounts d).added = (p.mergeCounts d).added ∧
      ((p.merge c).mergeCounts d).rejected = (p.mergeCounts d).rejected := by
  have added : ((p.merge c).mergeCounts d).added = (p.mergeCounts d).added := by
    refine congrArg List.length (List.flatMap_congr fun ev mem => ?_)
    refine List.filter_congr fun e inEntries => ?_
    exact accepts_merge apart (SortedMap.get?_eq_some_iff.2 mem) inEntries
  -- What is not added is rejected.
  have before := added_add_rejected p d
  have after := added_add_rejected (p.merge c) d
  exact ⟨added, by omega⟩

/-- After both merges there are the old events and those to which either one adds. -/
theorem contains_merge_merge_iff (apart : c.Apart d) : ((p.merge c).merge d).contains event ↔
    p.contains event ∨ p.additions c event ≠ [] ∨ p.additions d event ≠ [] := by
  rw [contains_merge_iff, contains_merge_iff, additions_merge apart, or_assoc]

/-- After both merges the old entries are followed by the additions of the one and of the other, in
the order of the merges. -/
theorem getD_entries?_merge_merge (apart : c.Apart d) :
    (((p.merge c).merge d).entries? event).getD [] =
      (p.entries? event).getD [] ++ (p.additions c event ++ p.additions d event) := by
  rw [getD_entries?_merge, getD_entries?_merge, additions_merge apart, List.append_assoc]

/-- The same combinations are covered after both merges in either order, being those of all three
catalogs. -/
theorem combinations_merge_merge (apart : c.Apart d) :
    ((p.merge c).merge d).combinations = ((p.merge d).merge c).combinations := by
  refine SortedSet.ext fun x => ?_
  rw [mem_combinations_merge, mem_combinations_merge, mem_combinations_merge,
    mem_combinations_merge, additions_merge apart, additions_merge apart.symm, or_assoc, or_assoc]
  exact or_congr_right or_comm

/-! ### Candidates without a common event -/

/-- Two catalogs hold the same under an event, be it entries and fields or nothing at all. -/
structure AgreeAt (p q : Catalog) (event : String) : Prop where
  entries : p.entries? event = q.entries? event
  fields : p.fields? event = q.fields? event

/-- Agreement at an event does not depend on which catalog comes first, as equality does not. -/
theorem AgreeAt.symm (agree : p.AgreeAt q event) : q.AgreeAt p event :=
  ⟨agree.entries.symm, agree.fields.symm⟩

/-- Agreement at an event goes on from catalog to catalog, so that single merges can be compared
step by step. -/
theorem AgreeAt.trans {r : Catalog} (agree : p.AgreeAt q event) (agree' : q.AgreeAt r event) :
    p.AgreeAt r event :=
  ⟨agree.entries.trans agree'.entries, agree.fields.trans agree'.fields⟩

/-- What a merge does at an event hangs on what is there. So catalogs that agree at an event do so
after the same merge, whatever they hold elsewhere. -/
theorem AgreeAt.merge (agree : p.AgreeAt q event) : (p.merge d).AgreeAt (q.merge d) event := by
  -- Entries decide what is covered, and this decides what is accepted and what is added.
  have covered : p.coveredTags event = q.coveredTags event := by
    rw [coveredTags, coveredTags, agree.entries]
  have accepts : p.accepts event = q.accepts event := by
    funext e
    rw [Catalog.accepts, Catalog.accepts, covered]
  have additions : p.additions d event = q.additions d event := by
    rw [Catalog.additions, Catalog.additions, accepted, accepted, accepts]
  have contains : p.contains event = q.contains event := by
    rw [Bool.eq_iff_iff, contains_iff, contains_iff, agree.entries]
  constructor
  · rw [entries?_merge, entries?_merge, additions, agree.entries]
  · rw [fields?_merge, fields?_merge, additions, contains, agree.fields]

/-- Candidates change nothing at an event that they do not have, neither its entries nor its fields.
-/
theorem agreeAt_merge_of_absent (absent : c.contains event = false) :
    (p.merge c).AgreeAt p event := by
  have none : p.additions c event = [] := by
    rw [additions, contains_eq_false_iff.1 absent]
    rfl
  constructor
  · rw [entries?_merge, if_neg (by simp [none])]
  · rw [fields?_merge, if_neg (by simp [none])]

/-- Both orders agree at an event that the first candidates do not have: the other ones are merged
there alone. -/
theorem agreeAt_of_absent (absent : c.contains event = false) :
    ((p.merge c).merge d).AgreeAt ((p.merge d).merge c) event :=
  (agreeAt_merge_of_absent absent).merge.trans (agreeAt_merge_of_absent absent).symm

/-- Candidates without a common event may be merged in either order. Each event is one that at least
one of them does not have. -/
theorem merge_comm_of_events (apart : ∀ event, c.contains event → ¬d.contains event) :
    (p.merge c).merge d = (p.merge d).merge c := by
  have agree : ∀ event, ((p.merge c).merge d).AgreeAt ((p.merge d).merge c) event := by
    intro event
    by_cases has : c.contains event
    · exact (agreeAt_of_absent (Bool.eq_false_iff.2 (apart event has))).symm
    · exact agreeAt_of_absent (Bool.eq_false_iff.2 has)
  exact ext (fun event => (agree event).entries) fun event => (agree event).fields

/-! ### Both orders -/

/-- Candidates that cover nothing in common may be merged in either order: both orders lead to the
same events, which cover the same combinations and have the same entries but for their order, and
either way as many entries of each candidate catalog are added and rejected. If the candidates have
no event in common both orders lead to the same catalog. -/
theorem merges_commute (p c d : Catalog) :
    let cd := (p.merge c).merge d
    let dc := (p.merge d).merge c
    (c.Apart d →
      cd.events.keys = dc.events.keys ∧ cd.combinations = dc.combinations ∧
      (∀ event, ((cd.entries? event).getD []).Perm ((dc.entries? event).getD [])) ∧
      ((p.merge d).mergeCounts c).added = (p.mergeCounts c).added ∧
      ((p.merge d).mergeCounts c).rejected = (p.mergeCounts c).rejected ∧
      ((p.merge c).mergeCounts d).added = (p.mergeCounts d).added ∧
      ((p.merge c).mergeCounts d).rejected = (p.mergeCounts d).rejected) ∧
    ((∀ event, c.contains event → ¬d.contains event) → cd = dc) := by
  intro cd dc
  refine ⟨fun apart => ?_, merge_comm_of_events⟩
  obtain ⟨addedC, rejectedC⟩ := mergeCounts_merge (p := p) apart.symm
  obtain ⟨addedD, rejectedD⟩ := mergeCounts_merge (p := p) apart
  refine ⟨?_, combinations_merge_merge apart, fun event => ?_, addedC, rejectedC, addedD,
    rejectedD⟩
  · refine StrictOrder.eq_of_mem_iff cd.events.ascending_keys dc.events.ascending_keys
      fun event => ?_
    rw [← contains_iff_mem_keys, ← contains_iff_mem_keys, contains_merge_merge_iff apart,
      contains_merge_merge_iff apart.symm]
    exact or_congr_right or_comm
  · -- The old entries stay in front, and the two groups of additions change places.
    rw [getD_entries?_merge_merge apart, getD_entries?_merge_merge apart.symm]
    exact List.perm_append_comm.append_left _

/-- Candidates for other tags of one event: their entries stand in the order of the merges, and the
one that the catalog covers already is rejected in either order. Candidates for another event may
come first or last. -/
theorem merges_commute_shared :
    let p := empty.push "push" (Entry.forTag "" Json.Value.null)
    let states : Entry := ⟨["opened", "closed"], Json.Value.null, Json.Object.empty⟩
    let c := (empty.push "issues" states).push "push" (Entry.forTag "default" Json.Value.null)
    let d := empty.push "issues" (Entry.forTag "labeled" Json.Value.null)
    let star := empty.push "star" (Entry.forTag "created" Json.Value.null)
    c.Apart d ∧
      (((p.merge c).merge d).entries? "issues").map (·.map Entry.tags) =
        some [["opened", "closed"], ["labeled"]] ∧
      (((p.merge d).merge c).entries? "issues").map (·.map Entry.tags) =
        some [["labeled"], ["opened", "closed"]] ∧
      ((((p.merge c).merge d).entries? "issues").getD []).Perm
        ((((p.merge d).merge c).entries? "issues").getD []) ∧
      ((p.merge d).mergeCounts c).rejected = 1 ∧ (p.mergeCounts c).rejected = 1 ∧
      (p.merge c).merge star = (p.merge star).merge c := by
  intro p states c d star
  have apart : c.Apart d := by decide +kernel
  obtain ⟨-, -, reordered, -, rejected, -⟩ := (merges_commute p c d).1 apart
  have once : (p.mergeCounts c).rejected = 1 := by decide +kernel
  refine ⟨apart, by decide +kernel, by decide +kernel, reordered "issues", rejected.trans once,
    once, (merges_commute p c star).2 fun event has has' => ?_⟩
  have events : c.events.keys = ["issues", "push"] := by decide +kernel
  have events' : star.events.keys = ["star"] := by decide +kernel
  rw [contains_iff_mem_keys, events] at has
  rw [contains_iff_mem_keys, events', List.mem_singleton] at has'
  subst has'
  exact absurd has (by decide)

end TemplateCoverage.Catalog
