/-!
# `TemplateCoverage.Double`: finite binary64 numbers in exact arithmetic

A finite double is its sign and the rank of its magnitude among the finite magnitudes in ascending
order, so that the bit pattern is the rank with the sign in front. Magnitudes are computed exactly
as naturals, in units of the least positive one, `2 ^ -1074`, and results are rounded to the nearest
magnitude, a tie going to the even rank. Main statements:

* `units_strictMono`: magnitudes ascend with their ranks;
* `roundHalfEven_near`: rounding a quotient moves it by half a unit at most.
-/

set_option autoImplicit false

namespace TemplateCoverage

/-- A finite binary64 number. There are 2047 exponents, each with `2 ^ 52` fractions. -/
structure Double where
  negative : Bool
  rank : Fin (2047 * 0x10000000000000)
  deriving DecidableEq

namespace Double

/-- The pattern of 64 bits: sign, exponent and fraction. -/
def bits (x : Double) : Nat :=
  (if x.negative then 0x8000000000000000 else 0) + x.rank

/-- The power of two, in units, of the last place of the magnitude of a rank. -/
def lastPlace (rank : Nat) : Nat :=
  rank / 0x10000000000000 - 1

/-- The integer significand of the magnitude of a rank; the leading bit is implied from rank
`2 ^ 52` on. -/
def significand (rank : Nat) : Nat :=
  if rank < 0x10000000000000 then rank else 0x10000000000000 + rank % 0x10000000000000

/-- The magnitude of a rank in units of `2 ^ -1074`. -/
def units (rank : Nat) : Nat :=
  significand rank <<< lastPlace rank

/-- How many units make one. -/
def unitsPerOne : Nat := 1 <<< 1074

/-- The integer nearest to a quotient; of two equally near the even one. -/
def roundHalfEven (num den : Nat) : Nat :=
  if 2 * (num % den) < den ∨ (2 * (num % den) = den ∧ num / den % 2 = 0) then num / den
  else num / den + 1

/-- The rank of the magnitude nearest to a number of units given as a quotient. -/
def nearestRank (num den : Nat) : Nat :=
  -- Below 53 binary digits a unit is the last place; each digit more doubles it.
  let place := (num / den).log2 - 52
  place * 0x10000000000000 + roundHalfEven num (den <<< place)

/-- The double of a sign that is nearest to a quotient of naturals, if it is not too large. -/
def nearest? (negative : Bool) (num den : Nat) : Option Double :=
  -- Rounding up from the greatest magnitude gives a rank that no finite double has.
  let rank := nearestRank (num * unitsPerOne) den
  if h : rank < 2047 * 0x10000000000000 then some ⟨negative, rank, h⟩ else none

/-- Positive zero. -/
def zero : Double := ⟨false, 0, by decide⟩

/-- The largest finite double. -/
def greatest : Double := ⟨false, 2047 * 0x10000000000000 - 1, by decide⟩

/-- The magnitude in units. -/
def size (x : Double) : Nat := units x.rank

/-- Whether the double is one of the two zeros. -/
def isZero (x : Double) : Bool := x.rank.val == 0

/-- The double nearest to a natural, or the largest one. -/
def ofNat (n : Nat) : Double := (nearest? false n 1).getD greatest

/-- The product, rounded, if it is not too large. -/
def mul? (x y : Double) : Option Double :=
  nearest? (x.negative != y.negative) (x.size * y.size) (unitsPerOne * unitsPerOne)

/-- The quotient, rounded, if it is not too large. -/
def div? (x y : Double) : Option Double :=
  nearest? (x.negative != y.negative) x.size y.size

/-- Equality of values: the two zeros are one value. -/
def same (x y : Double) : Bool :=
  (x.isZero && y.isZero) || x == y

/-! ### The order of the ranks -/

theorem lastPlace_succ_le (rank : Nat) :
    lastPlace (rank + 1) = lastPlace rank ∨
      (lastPlace (rank + 1) = lastPlace rank + 1 ∧ (rank + 1) % 0x10000000000000 = 0 ∧
        0x10000000000000 ≤ rank) := by
  unfold lastPlace
  omega

theorem units_lt_succ (rank : Nat) : units rank < units (rank + 1) := by
  have pos : 0 < 2 ^ lastPlace rank := Nat.two_pow_pos _
  rcases lastPlace_succ_le rank with same | ⟨next, whole, normal⟩
  -- The last place stays, and the significand grows.
  · have lt : significand rank < significand (rank + 1) := by
      unfold significand lastPlace at *
      split <;> split <;> omega
    rw [units, units, same, Nat.shiftLeft_eq, Nat.shiftLeft_eq]
    exact Nat.mul_lt_mul_of_pos_right lt pos
  -- The last place doubles, and the new significand is more than half of the old one.
  · have lt : significand rank < 2 * significand (rank + 1) := by
      unfold significand
      split <;> split <;> omega
    rw [units, units, next, Nat.shiftLeft_eq, Nat.shiftLeft_eq, Nat.pow_succ, ← Nat.mul_assoc,
      Nat.mul_right_comm]
    rw [Nat.mul_comm 2] at lt
    exact Nat.mul_lt_mul_of_pos_right lt pos

/-- Magnitudes ascend with their ranks. -/
theorem units_strictMono {a b : Nat} (h : a < b) : units a < units b := by
  induction h with
  | refl => exact units_lt_succ a
  | step _ ih => exact Nat.lt_trans ih (units_lt_succ _)

/-! ### Rounding -/

/-- Rounding a quotient moves it by half a unit at most. -/
theorem roundHalfEven_near {num den : Nat} (pos : 0 < den) :
    2 * num ≤ (2 * roundHalfEven num den + 1) * den ∧
      2 * roundHalfEven num den * den ≤ 2 * num + den := by
  have whole := Nat.div_add_mod num den
  have rest := Nat.mod_lt num pos
  unfold roundHalfEven
  -- With quotient `q` and rest `r` the two bounds are about products of `q` and `den`.
  generalize num / den = q at *
  generalize num % den = r at *
  subst whole
  split <;> constructor <;> grind

end Double

end TemplateCoverage
