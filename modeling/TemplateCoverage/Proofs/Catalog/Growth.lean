import Mathlib.Algebra.Order.Field.Rat
import TemplateCoverage.Coverage
import TemplateCoverage.Proofs.Catalog.Gaps
import TemplateCoverage.Proofs.Catalog.Merge

/-!
# `TemplateCoverage.Proofs.Catalog.Growth`: what a merge does to the coverage

Whatever is merged into a catalog, nothing that was covered is lost. Candidates that cover nothing
of what is covered already are accepted but for those without tags, and if they cover nothing else
than what is missing, that much is covered more. The theorems:

* `isEmpty_gaps_merge`: a catalog has no gap beside it that the merge leaves;
* `additions_eq_tagged`: which entries a merge adds of candidates that cover new combinations only;
* `mem_combinations_merge_of_new`: and what is covered after such a merge;
* `size_inter_merge`: how many expected combinations are covered after it;
* `coverage_grows`: the missing, the extra and the covered combinations before and after a merge.
-/

set_option autoImplicit false

namespace TemplateCoverage

/-- The share of the expected combinations that is covered, as an exact number; none of nothing. -/
def Coverage.ratio (r : Coverage) : ℚ := r.coveredCount / r.expectedCount

namespace Catalog

variable {p c : Catalog} {x : Combination} {event : String} {expected : SortedSet Combination}

/-! ### Nothing is lost -/

/-- What was covered is covered after a merge, since no entry is taken away. -/
theorem mem_combinations_merge_of_mem (mem : x ∈ p.combinations) :
    x ∈ (p.merge c).combinations :=
  mem_combinations.2 (mem_coveredTags_merge.2 (.inl (mem_combinations.1 mem)))

/-- Events that were there are there after a merge, also those to which nothing was added. -/
theorem contains_merge_of_contains (has : p.contains event) : (p.merge c).contains event :=
  contains_merge_iff.2 (.inl has)

/-- Beside the catalog that it was merged into, the result lacks nothing, neither an event nor a
combination. -/
theorem isEmpty_gaps_merge (p c : Catalog) : (p.gaps (p.merge c)).isEmpty :=
  isEmpty_gaps_iff.2
    ⟨fun _ has => contains_merge_of_contains has, fun _ mem => mem_combinations_merge_of_mem mem⟩

/-! ### Candidates for what is not covered -/

/-- An entry with tags is accepted from candidates that cover new combinations only. The hypothesis
is about all of them, although the entry's own tags would do. -/
theorem accepts_of_new (new : ∀ x ∈ c.combinations, x ∉ p.combinations) {entries : List Entry}
    (listed : c.entries? event = some entries) {e : Entry} (mem : e ∈ entries)
    (tagged : e.tags ≠ []) : p.accepts event e := by
  refine accepts_iff.2 ⟨tagged, fun x own => new x ?_⟩
  obtain ⟨rfl, tag⟩ := Entry.mem_combinations.1 own
  exact mem_combinations.2 (mem_coveredTags.2 ⟨entries, listed, e, mem, tag⟩)

/-- Of candidates that cover new combinations only, a merge adds all entries with tags, and no
others: those without tags are never accepted. -/
theorem additions_eq_tagged (new : ∀ x ∈ c.combinations, x ∉ p.combinations) :
    p.additions c event = ((c.entries? event).getD []).filter (·.isTagged) := by
  cases listed : c.entries? event with
  | none => simp [additions, listed, accepted]
  | some entries =>
    rw [additions, listed, Option.getD_some, accepted]
    refine List.filter_congr fun e mem => ?_
    by_cases tagged : e.tags = []
    · simp [accepts, Entry.isTagged, tagged]
    · rw [accepts_of_new new listed mem tagged, Entry.isTagged]
      simpa using tagged

/-- Such a merge covers what the catalog and the candidates cover. Entries without tags make no
difference, since they cover nothing. -/
theorem mem_combinations_merge_of_new (new : ∀ x ∈ c.combinations, x ∉ p.combinations) :
    x ∈ (p.merge c).combinations ↔ x ∈ p.combinations ∨ x ∈ c.combinations := by
  have tagged : ∀ e : Entry, e.isTagged = true ∧ x.tag ∈ e.normalizedTags ↔
      x.tag ∈ e.normalizedTags := by
    intro e
    refine and_iff_right_of_imp fun mem => ?_
    obtain ⟨raw, inTags, _⟩ := List.mem_map.1 mem
    simpa [Entry.isTagged] using List.ne_nil_of_mem inTags
  simp only [mem_combinations, mem_coveredTags_merge, additions_eq_tagged new, List.mem_filter,
    and_assoc, tagged]
  simp only [coveredTags, SortedSet.mem_ofList, List.mem_flatMap]

/-! ### Coverage before and after -/

/-- What is missing after such a merge is what was missing before but for what the candidates cover.
-/
theorem diff_merge_of_new (new : ∀ x ∈ c.combinations, x ∉ p.combinations) :
    expected.diff (p.merge c).combinations =
      (expected.diff p.combinations).diff c.combinations := by
  refine SortedSet.ext fun x => ?_
  simp only [SortedSet.mem_diff, mem_combinations_merge_of_new new, not_or, and_assoc]

/-- Nothing more is extra after a merge of candidates that cover missing combinations only. -/
theorem merge_diff_of_missing (missing : ∀ x ∈ c.combinations, x ∈ expected.diff p.combinations) :
    (p.merge c).combinations.diff expected = p.combinations.diff expected := by
  have new : ∀ x ∈ c.combinations, x ∉ p.combinations := fun x mem =>
    (SortedSet.mem_diff.1 (missing x mem)).2
  refine SortedSet.ext fun x => ?_
  rw [SortedSet.mem_diff, SortedSet.mem_diff, mem_combinations_merge_of_new new]
  -- What the candidates cover is expected, so it is not extra.
  refine and_congr_left fun unexpected => or_iff_left fun mem => ?_
  exact unexpected (SortedSet.mem_diff.1 (missing x mem)).1

/-- As many more expected combinations are covered as the candidates cover of those missing. -/
theorem size_inter_merge (missing : ∀ x ∈ c.combinations, x ∈ expected.diff p.combinations) :
    (expected.inter (p.merge c).combinations).size =
      (expected.inter p.combinations).size + c.combinations.size := by
  have isMissing : ∀ x ∈ c.combinations, x ∈ expected ∧ x ∉ p.combinations := fun x mem =>
    SortedSet.mem_diff.1 (missing x mem)
  -- The combinations of the candidates are expected and not among those covered before.
  refine SortedSet.size_eq_add (fun x => ?_) fun x covered mem => ?_
  · rw [SortedSet.mem_inter, SortedSet.mem_inter,
      mem_combinations_merge_of_new fun x mem => (isMissing x mem).2, and_or_left]
    exact or_congr_right (and_iff_right_of_imp fun mem => (isMissing x mem).1)
  · exact (isMissing x mem).2 (SortedSet.mem_inter.1 covered).2

/-- A catalog with an entry that has tags covers something, namely any of these tags under its
event. -/
theorem exists_mem_combinations {entries : List Entry} (listed : c.entries? event = some entries)
    {e : Entry} (mem : e ∈ entries) (tagged : e.tags ≠ []) : ∃ x, x ∈ c.combinations := by
  obtain ⟨tag, inTags⟩ := List.exists_mem_of_ne_nil _ tagged
  have covered : Tag.normalize tag ∈ c.coveredTags event :=
    mem_coveredTags.2 ⟨entries, listed, e, mem, List.mem_map_of_mem inTags⟩
  exact ⟨Combination.of event tag, mem_combinations.2 covered⟩

/-- The covered share grows with the number of expected combinations that are covered, if as many
are expected and there are any. -/
theorem ratio_lt_ratio {r r' : Coverage} (same : r.expectedCount = r'.expectedCount)
    (expected : 0 < r.expectedCount) (more : r.coveredCount < r'.coveredCount) :
    r.ratio < r'.ratio := by
  have positive : (0 : ℚ) < r'.expectedCount := by
    rw [← same]
    exact Nat.cast_pos.2 expected
  unfold Coverage.ratio
  rw [same]
  exact div_lt_div_of_pos_right (Nat.cast_lt.2 more) positive

/-- After a merge nothing more is missing, nothing less is extra, no fewer expected combinations are
covered and the catalog has no gap beside it. If the candidates cover nothing but missing
combinations, their entries with tags are all accepted and go behind the old ones; just what they
cover is missing no longer and counts as covered, nothing else is extra, and the covered share is
larger unless no candidate has a tag. -/
theorem coverage_grows (expected : SortedSet Combination) (p c : Catalog) :
    let before := Coverage.measure expected p.combinations
    let after := Coverage.measure expected (p.merge c).combinations
    (∀ x ∈ after.missing, x ∈ before.missing) ∧ (∀ x ∈ before.extra, x ∈ after.extra) ∧
    before.coveredCount ≤ after.coveredCount ∧ (p.gaps (p.merge c)).isEmpty ∧
    ((∀ x ∈ c.combinations, x ∈ before.missing) →
      (∀ event entries, c.entries? event = some entries → ∀ e ∈ entries, e.tags ≠ [] →
        p.accepts event e) ∧
      (∀ event, ((p.merge c).entries? event).getD [] =
        (p.entries? event).getD [] ++ ((c.entries? event).getD []).filter (·.isTagged)) ∧
      after.missing = before.missing.diff c.combinations ∧ after.extra = before.extra ∧
      after.coveredCount = before.coveredCount + c.combinations.size ∧
      ((∃ event entries, c.entries? event = some entries ∧ ∃ e ∈ entries, e.tags ≠ []) →
        before.ratio < after.ratio)) := by
  intro before after
  have kept : ∀ x ∈ p.combinations, x ∈ (p.merge c).combinations := fun _ =>
    mem_combinations_merge_of_mem
  refine ⟨fun x mem => ?_, fun x mem => ?_, ?_, isEmpty_gaps_merge p c, fun missing => ?_⟩
  · obtain ⟨inExpected, uncovered⟩ := SortedSet.mem_diff.1 mem
    exact SortedSet.mem_diff.2 ⟨inExpected, fun old => uncovered (kept x old)⟩
  · obtain ⟨covered, unexpected⟩ := SortedSet.mem_diff.1 mem
    exact SortedSet.mem_diff.2 ⟨kept x covered, unexpected⟩
  · refine SortedSet.size_le_of_subset fun x mem => ?_
    obtain ⟨inExpected, covered⟩ := SortedSet.mem_inter.1 mem
    exact SortedSet.mem_inter.2 ⟨inExpected, kept x covered⟩
  · -- From here on the candidates cover only what is missing, so that all of it is new.
    have new : ∀ x ∈ c.combinations, x ∉ p.combinations := fun x mem =>
      (SortedSet.mem_diff.1 (missing x mem)).2
    have count : after.coveredCount = before.coveredCount + c.combinations.size :=
      size_inter_merge missing
    refine ⟨fun event entries listed e => accepts_of_new new listed, fun event => ?_,
      diff_merge_of_new new, merge_diff_of_missing missing, count, ?_⟩
    · rw [getD_entries?_merge, additions_eq_tagged new]
    · rintro ⟨event, entries, listed, e, mem, tagged⟩
      obtain ⟨x, covered⟩ := exists_mem_combinations listed mem tagged
      have inExpected : x ∈ expected := (SortedSet.mem_diff.1 (missing x covered)).1
      have some : 0 < c.combinations.size := SortedSet.size_pos_of_mem covered
      exact ratio_lt_ratio rfl (SortedSet.size_pos_of_mem inExpected) (by omega)

/-- Half of what is expected is covered before a merge and more than that after it, though one of
the two candidates has no tags. -/
theorem coverage_grows_push :
    let p := empty.push "push" (Entry.forTag "default" Json.Value.null)
    let c := (empty.push "push" ⟨[], Json.Value.null, Json.Object.empty⟩).push "push"
      (Entry.forTag "forced" Json.Value.null)
    let expected := SortedSet.ofList [Combination.default "push", Combination.of "push" "forced"]
    (∀ x ∈ c.combinations, x ∈ (Coverage.measure expected p.combinations).missing) ∧
      (Coverage.measure expected p.combinations).ratio <
        (Coverage.measure expected (p.merge c).combinations).ratio := by
  intro p c expected
  have missing : ∀ x ∈ c.combinations, x ∈ expected.diff p.combinations := by
    have covers : c.combinations = SortedSet.ofList [Combination.of "push" "forced"] := by
      decide +kernel
    have lacks : expected.diff p.combinations =
        SortedSet.ofList [Combination.of "push" "forced"] := by decide +kernel
    rw [covers, lacks]
    exact fun _ mem => mem
  obtain ⟨_, _, _, _, grows⟩ := coverage_grows expected p c
  obtain ⟨_, _, _, _, _, larger⟩ := grows missing
  have listed : c.entries? "push" = some [⟨[], Json.Value.null, Json.Object.empty⟩,
    Entry.forTag "forced" Json.Value.null] := rfl
  exact ⟨missing, larger ⟨"push", _, listed, _, List.mem_cons_of_mem _ List.mem_cons_self,
    List.cons_ne_nil _ _⟩⟩

end Catalog

end TemplateCoverage
