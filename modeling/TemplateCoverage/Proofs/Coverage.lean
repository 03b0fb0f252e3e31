import Mathlib.Tactic.NormNum
import TemplateCoverage.Proofs.Catalog.Growth
import TemplateCoverage.Proofs.Double
import TemplateCoverage.Proofs.Sorted.Set

/-!
# `TemplateCoverage.Proofs.Coverage`: how the parts of a measure fit together

The expected combinations are those missing and those covered, and the actual ones those that are
extra and those covered. The counts, the verdict and the covered share follow from this. The
theorems:

* `mem_expected_iff`, `mem_actual_iff`: how both sets are made up;
* `covered_add_missing`, `covered_add_extra`: and how many combinations they have;
* `isComplete_iff_covered_eq`: complete coverage shows in the counts;
* `hundredths_le`, `hundredths_eq_hundred_iff`, `hundredths_mono`: the range of the covered share
  and what happens to it when more is there;
* `nearest?_percent`: the share is what is rounded in a report;
* `measure_partitions`: how all parts of a measure fit together.
-/

set_option autoImplicit false

namespace TemplateCoverage.Coverage

variable {expected actual more : SortedSet Combination} {x : Combination}

/-! ### The parts of both sets -/

/-- What is expected is missing or covered, and both are expected. The two parts of the expectation
have nothing in common. -/
theorem mem_expected_iff :
    x ∈ expected ↔ x ∈ (measure expected actual).missing ∨ x ∈ expected.inter actual := by
  simp only [measure, SortedSet.mem_diff, SortedSet.mem_inter, ← and_or_left]
  exact (and_iff_left (Classical.em _).symm).symm

/-- What is missing is not covered, so that the two parts have nothing in common. -/
theorem not_mem_inter_of_missing (missing : x ∈ (measure expected actual).missing) :
    x ∉ expected.inter actual := fun covered =>
  (SortedSet.mem_diff.1 missing).2 (SortedSet.mem_inter.1 covered).2

/-- It does not matter which of two sets is expected for what is covered. -/
theorem inter_comm (expected actual : SortedSet Combination) :
    expected.inter actual = actual.inter expected := by
  refine SortedSet.ext fun x => ?_
  rw [SortedSet.mem_inter, SortedSet.mem_inter, and_comm]

/-- Two sets measured the other way round: what is missing of the one is extra of the other.
Everything about extra combinations is had from this. -/
theorem measure_swap (expected actual : SortedSet Combination) :
    measure actual expected =
      { expectedCount := (measure expected actual).actualCount
        actualCount := (measure expected actual).expectedCount
        coveredCount := (measure expected actual).coveredCount
        missing := (measure expected actual).extra
        extra := (measure expected actual).missing } := by
  simp only [measure, inter_comm actual expected]

/-- What is there is extra or covered, and both are there. So extra combinations are no part of any
share. -/
theorem mem_actual_iff :
    x ∈ actual ↔ x ∈ (measure expected actual).extra ∨ x ∈ expected.inter actual := by
  rw [inter_comm]
  exact mem_expected_iff

/-- What is extra is not covered either: it is there, but it was not expected. -/
theorem not_mem_inter_of_extra (extra : x ∈ (measure expected actual).extra) :
    x ∉ expected.inter actual := by
  rw [inter_comm]
  exact not_mem_inter_of_missing extra

/-! ### Counts -/

/-- Covered and missing combinations are together as many as are expected, since they are its two
parts. -/
theorem covered_add_missing (expected actual : SortedSet Combination) :
    (measure expected actual).coveredCount + (measure expected actual).missing.size =
      (measure expected actual).expectedCount := by
  have parts : expected.size = (measure expected actual).missing.size +
      (expected.inter actual).size :=
    SortedSet.size_eq_add (fun _ => mem_expected_iff) fun _ => not_mem_inter_of_missing
  exact (Nat.add_comm _ _).trans parts.symm

/-- Covered and extra combinations are together as many as there are, since they are those that are
there, divided by the expectation. -/
theorem covered_add_extra : (measure expected actual).coveredCount +
    (measure expected actual).extra.size = (measure expected actual).actualCount := by
  -- The other way round, extra combinations are missing ones.
  have swapped := covered_add_missing actual expected
  rwa [measure_swap expected actual] at swapped

/-- Coverage is complete if and only if as much is covered as is expected. The verdict is made from
the missing set, a report shows the counts. -/
theorem isComplete_iff_covered_eq : (measure expected actual).isComplete ↔
    (measure expected actual).coveredCount = (measure expected actual).expectedCount := by
  have parts := covered_add_missing expected actual
  rw [isComplete, SortedSet.isEmpty, List.isEmpty_iff_length_eq_zero]
  change (measure expected actual).missing.size = 0 ↔ _
  omega

/-- No more is covered than is expected, so that the share is a hundred percent at most. -/
theorem covered_le_expected :
    (measure expected actual).coveredCount ≤ (measure expected actual).expectedCount :=
  Nat.le_of_add_right_le (covered_add_missing expected actual).le

/-! ### The covered share -/

/-- The covered share in hundredths, as it is before any rounding; none of nothing. It is an exact
number, unlike the one in a report. -/
def hundredths (r : Coverage) : ℚ :=
  if r.expectedCount = 0 then 0 else 100 * r.coveredCount / r.expectedCount

/-- The share is a hundred times the exact ratio, also if nothing is expected. -/
theorem hundredths_eq_ratio (r : Coverage) : r.hundredths = 100 * r.ratio := by
  unfold hundredths ratio
  split
  · rename_i none
    rw [none, Nat.cast_zero, div_zero, mul_zero]
  · exact mul_div_assoc _ _ _

/-- The share is not negative, being a quotient of two counts. -/
theorem hundredths_nonneg (r : Coverage) : 0 ≤ r.hundredths := by
  rw [hundredths_eq_ratio]
  exact mul_nonneg (by norm_num) (div_nonneg (Nat.cast_nonneg _) (Nat.cast_nonneg _))

/-- The share is at most the whole, since no more than all of what is expected is covered. -/
theorem hundredths_le (expected actual : SortedSet Combination) :
    (measure expected actual).hundredths ≤ 100 := by
  have part : (measure expected actual).ratio ≤ 1 :=
    div_le_one_of_le₀ (Nat.cast_le.2 covered_le_expected) (Nat.cast_nonneg _)
  rw [hundredths_eq_ratio]
  exact mul_le_of_le_one_right (by norm_num) part

/-- The share is the whole if something is expected and as much is covered. Without the first part
there would be a whole of nothing. -/
theorem hundredths_eq_hundred_iff {r : Coverage} :
    r.hundredths = 100 ↔ r.expectedCount ≠ 0 ∧ r.coveredCount = r.expectedCount := by
  unfold hundredths
  split
  · rename_i none
    exact iff_of_false (by norm_num) fun some => some.1 none
  · rename_i some
    -- With something expected the quotient can be multiplied out.
    have positive : (r.expectedCount : ℚ) ≠ 0 := Nat.cast_ne_zero.2 some
    rw [div_eq_iff positive, mul_right_inj' (by norm_num), Nat.cast_inj]
    exact (and_iff_right some).symm

/-- The share does not shrink when more is covered of what is expected. -/
theorem hundredths_mono {r r' : Coverage} (same : r.expectedCount = r'.expectedCount)
    (covered : r.coveredCount ≤ r'.coveredCount) : r.hundredths ≤ r'.hundredths := by
  rw [hundredths_eq_ratio, hundredths_eq_ratio, ratio, ratio, same]
  refine mul_le_mul_of_nonneg_left ?_ (by norm_num)
  exact div_le_div_of_nonneg_right (Nat.cast_le.2 covered) (Nat.cast_nonneg _)

/-- No less is covered when more is there, under the same expectation. -/
theorem coveredCount_mono (sub : ∀ x ∈ actual, x ∈ more) :
    (measure expected actual).coveredCount ≤ (measure expected more).coveredCount := by
  refine SortedSet.size_le_of_subset fun x mem => ?_
  obtain ⟨inExpected, there⟩ := SortedSet.mem_inter.1 mem
  exact SortedSet.mem_inter.2 ⟨inExpected, sub x there⟩

/-- The share is what is rounded in a report, as long as the numbers are exact as doubles. The
report multiplies before it divides, so that it rounds once. -/
theorem nearest?_percent (r : Coverage) (some : r.expectedCount ≠ 0)
    (covered : r.coveredCount ≤ r.expectedCount) (small : 100 * r.expectedCount < 2 ^ 53) :
    Double.nearest? false (100 * r.coveredCount) r.expectedCount = .some r.percent := by
  have product : (Double.ofNat 100).mul? (Double.ofNat r.coveredCount) =
      .some (Double.ofNat (100 * r.coveredCount)) :=
    Double.mul?_ofNat (by decide) (by omega) (by omega)
  have quotient : (Double.ofNat (100 * r.coveredCount)).div? (Double.ofNat r.expectedCount) =
      Double.nearest? false (100 * r.coveredCount) r.expectedCount :=
    Double.div?_ofNat (by omega) (by omega)
  -- The quotient is not too large for a double, as it is a hundred at most.
  have finite : (Double.nearest? false (100 * r.coveredCount) r.expectedCount).isSome :=
    Double.isSome_nearest? (by omega)
  obtain ⟨x, nearest⟩ := Option.isSome_iff_exists.1 finite
  rw [percent, percentOf, if_neg some, product, Option.bind_some, quotient, nearest,
    Option.getD_some]

/-! ### All parts -/

/-- Two sets measured against each other fall into what is missing, what is covered and what is
extra, and the counts are those of these parts. Coverage is complete just if everything expected is
there, which shows in the counts. The covered share lies between none and the whole, is the whole
just if something is expected and nothing is missing, does not shrink when more is there, and is
what a report rounds to a double. The other way round, missing and extra change places. -/
theorem measure_partitions (expected actual : SortedSet Combination) :
    let r := measure expected actual
    let covered := expected.inter actual
    (∀ x, x ∈ covered ↔ x ∈ expected ∧ x ∈ actual) ∧
    (∀ x, x ∈ expected ↔ x ∈ r.missing ∨ x ∈ covered) ∧ (∀ x ∈ r.missing, x ∉ covered) ∧
    (∀ x, x ∈ actual ↔ x ∈ r.extra ∨ x ∈ covered) ∧ (∀ x ∈ r.extra, x ∉ covered) ∧
    r.coveredCount = covered.size ∧
    r.coveredCount + r.missing.size = r.expectedCount ∧
    r.coveredCount + r.extra.size = r.actualCount ∧
    (r.isComplete ↔ ∀ x ∈ expected, x ∈ actual) ∧
    (r.isComplete ↔ r.coveredCount = r.expectedCount) ∧
    0 ≤ r.hundredths ∧ r.hundredths ≤ 100 ∧
    (r.hundredths = 100 ↔ (∃ x, x ∈ expected) ∧ r.isComplete) ∧
    (∀ more, (∀ x ∈ actual, x ∈ more) → r.hundredths ≤ (measure expected more).hundredths) ∧
    (r.expectedCount = 0 → r.hundredths = 0 ∧ r.percent = Double.zero) ∧
    (r.expectedCount ≠ 0 → 100 * r.expectedCount < 2 ^ 53 →
      Double.nearest? false (100 * r.coveredCount) r.expectedCount = some r.percent) ∧
    measure actual expected =
      { expectedCount := r.actualCount
        actualCount := r.expectedCount
        coveredCount := r.coveredCount
        missing := r.extra
        extra := r.missing } := by
  intro r covered
  -- The counts are the lengths of the sets' lists, so that a count of zero is an empty set.
  have some_expected : r.expectedCount ≠ 0 ↔ ∃ x, x ∈ expected := by
    rw [← Nat.pos_iff_ne_zero]
    exact List.length_pos_iff_exists_mem
  refine ⟨fun _ => SortedSet.mem_inter, fun _ => mem_expected_iff,
    fun _ => not_mem_inter_of_missing, fun _ => mem_actual_iff,
    fun _ => not_mem_inter_of_extra, rfl, covered_add_missing expected actual, covered_add_extra,
    isComplete_iff, isComplete_iff_covered_eq, r.hundredths_nonneg, hundredths_le expected actual,
    ?_, fun more sub => hundredths_mono rfl (coveredCount_mono sub), fun none => ?_,
    fun some => nearest?_percent r some covered_le_expected, measure_swap expected actual⟩
  · rw [hundredths_eq_hundred_iff, some_expected, isComplete_iff_covered_eq]
  · exact ⟨if_pos none, if_pos none⟩

/-- Half of what is expected, and later all of it; what is extra does not count. -/
theorem measure_partitions_half :
    let default := Combination.default "push"
    let forced := Combination.of "push" "forced"
    let expected := SortedSet.ofList [default, forced]
    let actual := SortedSet.ofList [default, Combination.default "star"]
    let more := SortedSet.ofList [default, forced, Combination.default "star"]
    (measure expected actual).hundredths = 50 ∧ (measure expected more).hundredths = 100 ∧
      (∀ x ∈ actual, x ∈ more) ∧
      (measure expected actual).hundredths ≤ (measure expected more).hundredths ∧
      Double.nearest? false 100 2 = some (measure expected actual).percent := by
  intro default forced expected actual more
  have two : (measure expected actual).expectedCount = 2 := by decide +kernel
  have one : (measure expected actual).coveredCount = 1 := by decide +kernel
  have all : (measure expected more).isComplete := by decide +kernel
  have sub : ∀ x ∈ actual, x ∈ more := by
    have within : ∀ x ∈ actual.toList, x ∈ more := by decide +kernel
    exact within
  obtain ⟨-, -, -, -, -, -, -, -, -, -, -, -, -, grows, -, rounded, -⟩ :=
    measure_partitions expected actual
  have rounded := rounded (by omega) (by omega)
  rw [one, two] at rounded
  refine ⟨?_, ?_, sub, grows more sub, rounded⟩
  · rw [hundredths, two, one]
    norm_num
  · rw [hundredths_eq_hundred_iff]
    exact ⟨by decide +kernel, isComplete_iff_covered_eq.1 all⟩

end TemplateCoverage.Coverage
