import TemplateCoverage.Proofs.Catalog.Gaps
import TemplateCoverage.Proofs.Catalog.Merge

/-!
# `TemplateCoverage.Proofs.Catalog.Alike`: catalogs that cover alike

What is measured, compared and decided about a catalog depends on its events and on the combinations
that it covers, not on how its entries are ordered, which tags they have in common, how these are
spelled, or what the payloads are. The theorems:

* `CoversAlike.coveredTags_eq`, `CoversAlike.keys_eq`: catalogs that cover alike are alike event by
  event;
* `CoversAlike.gaps_eq`: so they have the same gaps, on either side of a comparison;
* `CoversAlike.accepts_eq`, `CoversAlike.additions_eq`: and accept the same candidates;
* `decided_by_coverage`: all of it together.
-/

set_option autoImplicit false

namespace TemplateCoverage.Catalog

/-- Two catalogs have the same events and cover the same combinations. The events are named too,
since an event whose entries have no tags is seen by a comparison although it covers nothing. -/
structure CoversAlike (a b : Catalog) : Prop where
  contains : ∀ event, a.contains event ↔ b.contains event
  combinations : a.combinations = b.combinations

namespace CoversAlike

variable {a b c d : Catalog} {event : String}

/-- A catalog covers alike with itself, which is where the induction over merges starts. -/
theorem refl (a : Catalog) : a.CoversAlike a := ⟨fun _ => Iff.rfl, rfl⟩

/-- Catalogs that cover alike have the same events, as tests that a merge or a comparison makes. -/
theorem contains_eq (alike : a.CoversAlike b) : a.contains = b.contains :=
  funext fun event => Bool.eq_iff_iff.2 (alike.contains event)

/-- The events stand in the order of their names, so they are listed alike. -/
theorem keys_eq (alike : a.CoversAlike b) : a.events.keys = b.events.keys := by
  refine StrictOrder.eq_of_mem_iff a.events.ascending_keys b.events.ascending_keys fun event => ?_
  rw [← contains_iff_mem_keys, ← contains_iff_mem_keys]
  exact alike.contains event

/-- Catalogs that cover alike cover the same tags event by event. A tag that is covered shows in the
combinations, in its normal form, so that it can be read off them. -/
theorem coveredTags_eq (alike : a.CoversAlike b) : a.coveredTags event = b.coveredTags event := by
  -- Both inclusions are had in the same way.
  have covered : ∀ {a b : Catalog}, a.combinations = b.combinations →
      ∀ tag ∈ a.coveredTags event, tag ∈ b.coveredTags event := by
    intro a b same tag mem
    have own : Combination.of event tag ∈ a.combinations := (of_mem_combinations_iff mem).2 mem
    exact (of_mem_combinations_iff mem).1 (same ▸ own)
  exact SortedSet.ext fun tag =>
    ⟨covered alike.combinations tag, covered alike.combinations.symm tag⟩

/-- Catalogs that cover alike have the same gaps beside catalogs that do so too. Gaps look at events
and covered tags only. -/
theorem gaps_eq (primaries : a.CoversAlike b) (secondaries : c.CoversAlike d) :
    a.gaps c = b.gaps d := by
  have covered : a.coveredTags = b.coveredTags := funext fun _ => primaries.coveredTags_eq
  have covered' : c.coveredTags = d.coveredTags := funext fun _ => secondaries.coveredTags_eq
  simp only [gaps, lackingTags, primaries.keys_eq, covered, covered', secondaries.contains_eq]

/-! ### What a merge takes -/

/-- Catalogs that cover alike accept the same entries under every event, since acceptance looks at
covered tags only. -/
theorem accepts_eq (alike : a.CoversAlike b) : a.accepts = b.accepts := by
  funext event e
  rw [accepts, accepts, alike.coveredTags_eq]

/-- So a merge puts the same entries behind those of either catalog, in the same order. -/
theorem additions_eq (alike : a.CoversAlike b) : a.additions c event = b.additions c event := by
  rw [additions, additions, accepted, accepted, alike.accepts_eq]

/-- And it rejects the same entries, with the same events, these being all the others. -/
theorem rejected_eq (alike : a.CoversAlike b) : rejected a c = rejected b c := by
  rw [rejected, rejected, alike.accepts_eq]

/-- A merge adds as many entries to either catalog. How many it keeps differs, as the entries
themselves do. -/
theorem added_eq (alike : a.CoversAlike b) :
    (a.mergeCounts c).added = (b.mergeCounts c).added := by
  have accepted : a.accepted = b.accepted := by
    funext event entries
    rw [Catalog.accepted, Catalog.accepted, alike.accepts_eq]
  rw [mergeCounts, mergeCounts, accepted]

end CoversAlike

variable {a b : Catalog}

/-- What depends on a catalog only through its events and what it covers: how it is measured, what
it lacks beside another one and another one beside it, and which candidates are put behind its
entries, in which order, and which ones are rejected. -/
theorem decided_by_coverage (alike : a.CoversAlike b) :
    (∀ expected, Coverage.measure expected a.combinations =
      Coverage.measure expected b.combinations) ∧
    (∀ x : Catalog, a.gaps x = b.gaps x ∧ x.gaps a = x.gaps b) ∧
    ∀ c : Catalog,
      (∀ event, ∃ added : List Entry,
        ((a.merge c).entries? event).getD [] = (a.entries? event).getD [] ++ added ∧
        ((b.merge c).entries? event).getD [] = (b.entries? event).getD [] ++ added) ∧
      (∀ event e, a.accepts event e = b.accepts event e) ∧ rejected a c = rejected b c ∧
      (a.mergeCounts c).added = (b.mergeCounts c).added ∧
      (a.mergeCounts c).rejected = (b.mergeCounts c).rejected := by
  refine ⟨fun expected => ?_, fun x => ?_, fun c => ⟨fun event => ?_, fun event e => ?_,
    alike.rejected_eq, alike.added_eq, ?_⟩⟩
  · rw [alike.combinations]
  · exact ⟨alike.gaps_eq (.refl x), (CoversAlike.refl x).gaps_eq alike⟩
  · -- The added entries are those of the one catalog, and the same ones for the other.
    refine ⟨a.additions c event, getD_entries?_merge, ?_⟩
    rw [getD_entries?_merge, alike.additions_eq]
  · rw [alike.accepts_eq]
  · show (rejected a c).length = (rejected b c).length
    rw [alike.rejected_eq]

/-- One entry for two tags, or one for each of them in the other order and one of them twice, in
different spellings: the same candidates are added and rejected. -/
theorem decided_by_coverage_split :
    let a := empty.setEntries "push" [⟨["default", "forced"], Json.Value.null, Json.Object.empty⟩]
    let b := empty.setEntries "push" [Entry.forTag "forced" Json.Value.null,
      ⟨["", ""], Json.Value.null, Json.Object.empty⟩]
    let c := empty.setEntries "push" [Entry.forTag "" Json.Value.null,
      Entry.forTag "other" Json.Value.null]
    a.CoversAlike b ∧ a.mergeCounts c = ⟨1, 1, 1⟩ ∧ b.mergeCounts c = ⟨2, 1, 1⟩ ∧
      (a.mergeCounts c).added = (b.mergeCounts c).added ∧
      (a.mergeCounts c).rejected = (b.mergeCounts c).rejected := by
  intro a b c
  have keys : a.events.keys = b.events.keys := rfl
  have alike : a.CoversAlike b := by
    refine ⟨fun event => ?_, by decide +kernel⟩
    rw [contains_iff_mem_keys, contains_iff_mem_keys, keys]
  obtain ⟨-, -, merges⟩ := decided_by_coverage alike
  obtain ⟨-, -, -, added, rejected⟩ := merges c
  exact ⟨alike, by decide +kernel, by decide +kernel, added, rejected⟩

end TemplateCoverage.Catalog
