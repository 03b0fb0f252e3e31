import TemplateCoverage.Combination.Groups
import TemplateCoverage.Double

/-!
# `TemplateCoverage.Coverage`: what is covered of what is expected

A set of combinations is measured against the set that is expected. Main statements:

* `isComplete_iff`: coverage is complete if and only if everything expected is there.
-/

set_option autoImplicit false

namespace TemplateCoverage

/-- A set of combinations measured against the expected set. -/
structure Coverage where
  expectedCount : Nat
  actualCount : Nat
  coveredCount : Nat
  missing : SortedSet Combination
  extra : SortedSet Combination

namespace Coverage

/-- Measures the actual set against the expected set. -/
def measure (expected actual : SortedSet Combination) : Coverage where
  expectedCount := expected.size
  actualCount := actual.size
  coveredCount := (expected.inter actual).size
  missing := expected.diff actual
  extra := actual.diff expected

/-- The number of hundredths that a part makes of a whole, multiplied before it is divided; none of
nothing. -/
def percentOf (part whole : Nat) : Double :=
  if whole = 0 then Double.zero
  else
    (((Double.ofNat 100).mul? (Double.ofNat part)).bind (·.div? (Double.ofNat whole))).getD
      Double.zero

/-- How many hundredths of the expected combinations are covered. -/
def percent (r : Coverage) : Double := percentOf r.coveredCount r.expectedCount

/-- Whether nothing is missing. -/
def isComplete (r : Coverage) : Bool := r.missing.isEmpty

/-- The missing combinations by event. -/
def missingByEvent (r : Coverage) : SortedMap String (List String) :=
  Combination.groups r.missing.toList

/-- The extra combinations by event. -/
def extraByEvent (r : Coverage) : SortedMap String (List String) :=
  Combination.groups r.extra.toList

/-- Coverage is complete if and only if everything expected is there. -/
theorem isComplete_iff {expected actual : SortedSet Combination} :
    (measure expected actual).isComplete ↔ ∀ c ∈ expected, c ∈ actual := by
  simp only [isComplete, SortedSet.isEmpty, List.isEmpty_iff, measure]
  constructor
  · intro none c mem
    false_or_by_contra
    rename_i absent
    have := SortedSet.mem_diff.2 ⟨mem, absent⟩
    rw [SortedSet.mem_def, none] at this
    simp at this
  · intro all
    refine List.eq_nil_iff_forall_not_mem.2 fun c mem => ?_
    have := SortedSet.mem_diff.1 (SortedSet.mem_def.2 mem)
    exact this.2 (all c this.1)

end Coverage

end TemplateCoverage
