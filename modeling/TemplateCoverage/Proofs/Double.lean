import Mathlib.Algebra.Order.Ring.Nat
import TemplateCoverage.Double

/-!
# `TemplateCoverage.Proofs.Double`: the doubles of naturals and of their quotients

Rounding looks at the value of a quotient only, not at how it is written, and naturals below
`2 ^ 53` are doubles. The theorems:

* `nearest?_scale`: a quotient with both parts multiplied is rounded alike;
* `isSome_nearest?`: a quotient that is not too large is rounded to a double;
* `nearest?_natural`, `size_ofNat`: a natural below `2 ^ 53` is a double;
* `mul?_ofNat`, `div?_ofNat`: products of such naturals are exact and quotients rounded once.
-/

set_option autoImplicit false

namespace TemplateCoverage.Double

/-! ### Quotients -/

/-- Rounding looks at the value of a quotient only: both parts may be multiplied. -/
theorem roundHalfEven_scale {num den k : Nat} (pos : 0 < k) :
    roundHalfEven (num * k) (den * k) = roundHalfEven num den := by
  have double : 2 * (num % den * k) = 2 * (num % den) * k := (Nat.mul_assoc _ _ _).symm
  simp only [roundHalfEven, Nat.mul_mod_mul_right, Nat.mul_div_mul_right _ _ pos, double,
    Nat.mul_lt_mul_right pos, Nat.mul_left_inj pos.ne']

/-- A whole number is left as it is, since there is nothing to round. -/
theorem roundHalfEven_mul {q den : Nat} (pos : 0 < den) : roundHalfEven (q * den) den = q := by
  have scaled : roundHalfEven (q * den) (1 * den) = roundHalfEven q 1 := roundHalfEven_scale pos
  rw [Nat.one_mul] at scaled
  rw [scaled, roundHalfEven]
  simp [Nat.mod_one]

/-- The rank that is nearest to a quotient depends on its value only. -/
theorem nearestRank_scale {num den k : Nat} (pos : 0 < k) :
    nearestRank (num * k) (den * k) = nearestRank num den := by
  simp only [nearestRank, Nat.mul_div_mul_right _ _ pos, Nat.shiftLeft_eq]
  rw [Nat.mul_right_comm, roundHalfEven_scale pos]

/-- A quotient with both parts multiplied is rounded alike. Products and quotients of doubles come
as such multiples, since doubles are counted in units. -/
theorem nearest?_scale {negative : Bool} {num den k : Nat} (pos : 0 < k) :
    nearest? negative (num * k) (den * k) = nearest? negative num den := by
  simp only [nearest?, Nat.mul_right_comm num k, nearestRank_scale pos]

/-- A quotient takes 53 binary digits at most in front of the last place, and one more by rounding
up. -/
theorem nearestRank_le (num den : Nat) :
    nearestRank num den ≤ ((num / den).log2 - 52 + 2) * 0x10000000000000 := by
  unfold nearestRank
  dsimp only
  generalize place_eq : (num / den).log2 - 52 = place
  have below : num / den < 2 ^ (place + 53) := by
    refine Nat.lt_of_lt_of_le Nat.lt_log2_self (Nat.pow_le_pow_right (by decide) ?_)
    omega
  -- The place is chosen so that 53 digits are left.
  have digits : num / (den <<< place) < 2 ^ 53 := by
    rw [Nat.shiftLeft_eq, ← Nat.div_div_eq_div_mul]
    refine Nat.div_lt_of_lt_mul ?_
    rwa [← Nat.pow_add]
  have rounded : roundHalfEven num (den <<< place) ≤ num / (den <<< place) + 1 := by
    unfold roundHalfEven
    split <;> omega
  omega

/-- One is a power of two in units, whose exponent is named here lest it is computed. Unfolded, it
would be a number of a thousand digits. -/
theorem exists_unitsPerOne : ∃ places, places = 1074 ∧ unitsPerOne = 2 ^ places := by
  obtain ⟨places, least⟩ : ∃ places, places = 1074 := ⟨_, rfl⟩
  exact ⟨places, least, by rw [unitsPerOne, ← least, Nat.one_shiftLeft]⟩

/-- One is some units, so that a division by them is a division. -/
theorem unitsPerOne_pos : 0 < unitsPerOne := by
  obtain ⟨places, -, units⟩ := exists_unitsPerOne
  rw [units]
  exact Nat.two_pow_pos _

/-- A quotient that is not too large is rounded to a double. The bound is far below the greatest
double, and enough for counts and shares. -/
theorem isSome_nearest? {negative : Bool} {num den : Nat} (small : num < 2 ^ 100 * den) :
    (nearest? negative num den).isSome := by
  obtain ⟨places, least, units⟩ := exists_unitsPerOne
  have quotient : num * unitsPerOne / den < 2 ^ (100 + places) := by
    refine Nat.div_lt_of_lt_mul ?_
    rw [units, Nat.pow_add, ← Nat.mul_assoc, Nat.mul_comm den]
    exact Nat.mul_lt_mul_of_pos_right small (Nat.two_pow_pos _)
  have digits : (num * unitsPerOne / den).log2 < 100 + places := by
    by_cases zero : num * unitsPerOne / den = 0
    · rw [zero, least]
      decide
    · exact (Nat.log2_lt zero).2 quotient
  -- A rank above the greatest double would need more digits than the quotient has.
  have rank := nearestRank_le (num * unitsPerOne) den
  unfold nearest?
  dsimp only
  rw [dif_pos (by omega)]
  rfl

/-! ### Naturals -/

/-- The magnitude of a rank whose leading bit is implied: its digits at their place. -/
theorem units_of_normal {place m : Nat} (low : 2 ^ 52 ≤ m) (high : m < 2 ^ 53) :
    units (place * 0x10000000000000 + m) = m * 2 ^ place := by
  have exponent : (place * 0x10000000000000 + m) / 0x10000000000000 = place + 1 := by omega
  have fraction : (place * 0x10000000000000 + m) % 0x10000000000000 = m - 2 ^ 52 := by omega
  have whole : 0x10000000000000 + (m - 2 ^ 52) = m := by omega
  rw [units, lastPlace, significand, exponent, fraction, if_neg (by omega), Nat.shiftLeft_eq,
    Nat.add_sub_cancel, whole]

/-- Multiplied by a power of two a number has as many binary digits more. -/
theorem log2_mul_two_pow {n k : Nat} (pos : 0 < n) : (n * 2 ^ k).log2 = n.log2 + k := by
  have positive : n * 2 ^ k ≠ 0 := (Nat.mul_pos pos (Nat.two_pow_pos k)).ne'
  refine (Nat.log2_eq_iff positive).2 ⟨?_, ?_⟩
  · rw [Nat.pow_add]
    exact Nat.mul_le_mul_right _ (Nat.log2_self_le pos.ne')
  · rw [Nat.add_right_comm, Nat.pow_add]
    exact Nat.mul_lt_mul_of_pos_right Nat.lt_log2_self (Nat.two_pow_pos k)

/-- One in units, as the places of a number's digits up to the 53rd and those after it. -/
theorem unitsPerOne_eq {log : Nat} (digits : log ≤ 52) :
    unitsPerOne = 2 ^ (52 - log + (log + 1022)) := by
  obtain ⟨places, least, units⟩ := exists_unitsPerOne
  have sum : 52 - log + (log + 1022) = places := by omega
  rw [units, sum]

/-- The rank of a natural with at most 53 binary digits, and not zero. Its digits are moved up to
the 53rd place, where nothing is cut off. -/
theorem nearestRank_natural {n : Nat} (pos : 0 < n) (small : n < 2 ^ 53) :
    nearestRank (n * unitsPerOne) 1 =
      (n.log2 + 1022) * 0x10000000000000 + n * 2 ^ (52 - n.log2) := by
  have digits : n.log2 < 53 := (Nat.log2_lt pos.ne').2 small
  have units := unitsPerOne_eq (Nat.le_of_lt_succ digits)
  have place : n.log2 + (52 - n.log2 + (n.log2 + 1022)) - 52 = n.log2 + 1022 := by omega
  simp only [nearestRank, Nat.div_one, units, log2_mul_two_pow pos, place, Nat.one_shiftLeft]
  rw [Nat.pow_add, ← Nat.mul_assoc, roundHalfEven_mul (Nat.two_pow_pos _)]

/-- A natural below `2 ^ 53` is a double: rounding gives one of its very size. -/
theorem exists_nearest?_natural {n : Nat} (small : n < 2 ^ 53) :
    ∃ x : Double, nearest? false n 1 = some x ∧ x.negative = false ∧ x.size = n * unitsPerOne := by
  -- Zero has no digits, so that it has no rank of this form.
  by_cases zero : n = 0
  · subst zero
    have rank : nearestRank (0 * unitsPerOne) 1 = 0 := by
      rw [Nat.zero_mul]
      decide
    refine ⟨Double.zero, ?_, rfl, ?_⟩
    · simp only [nearest?, rank]
      rfl
    · rw [Nat.zero_mul]
      rfl
  · have pos : 0 < n := Nat.pos_of_ne_zero zero
    have digits : n.log2 < 53 := (Nat.log2_lt zero).2 small
    have low : 2 ^ 52 ≤ n * 2 ^ (52 - n.log2) := by
      have whole : 52 = n.log2 + (52 - n.log2) := by omega
      calc 2 ^ 52 = 2 ^ n.log2 * 2 ^ (52 - n.log2) := by rw [← Nat.pow_add, ← whole]
        _ ≤ n * 2 ^ (52 - n.log2) := Nat.mul_le_mul_right _ (Nat.log2_self_le zero)
    have high : n * 2 ^ (52 - n.log2) < 2 ^ 53 := by
      have whole : 53 = n.log2 + 1 + (52 - n.log2) := by omega
      calc n * 2 ^ (52 - n.log2) < 2 ^ (n.log2 + 1) * 2 ^ (52 - n.log2) :=
            Nat.mul_lt_mul_of_pos_right Nat.lt_log2_self (Nat.two_pow_pos _)
        _ = 2 ^ 53 := by rw [← Nat.pow_add, ← whole]
    have rank := nearestRank_natural pos small
    have fits : nearestRank (n * unitsPerOne) 1 < 2047 * 0x10000000000000 := by omega
    refine ⟨⟨false, _, fits⟩, dif_pos fits, rfl, ?_⟩
    show units (nearestRank (n * unitsPerOne) 1) = n * unitsPerOne
    rw [rank, units_of_normal low high, unitsPerOne_eq (Nat.le_of_lt_succ digits), Nat.mul_assoc,
      ← Nat.pow_add]

/-- A natural below `2 ^ 53` is a double, the one nearest to it. -/
theorem nearest?_natural {n : Nat} (small : n < 2 ^ 53) :
    nearest? false n 1 = some (ofNat n) := by
  obtain ⟨x, nearest, -⟩ := exists_nearest?_natural small
  rw [ofNat, nearest, Option.getD_some]

/-- The double of a natural has no sign, also that of zero. -/
theorem negative_ofNat {n : Nat} (small : n < 2 ^ 53) : (ofNat n).negative = false := by
  obtain ⟨x, nearest, sign, -⟩ := exists_nearest?_natural small
  rw [ofNat, nearest, Option.getD_some, sign]

/-- The double of a natural is of the size of the natural. The naturals here are counts, which are
far below the limit of exact ones. -/
theorem size_ofNat {n : Nat} (small : n < 2 ^ 53) : (ofNat n).size = n * unitsPerOne := by
  obtain ⟨x, nearest, -, size⟩ := exists_nearest?_natural small
  rw [ofNat, nearest, Option.getD_some, size]

/-! ### Products and quotients of naturals -/

variable {m n : Nat}

/-- The product of naturals is exact if it is below `2 ^ 53`. -/
theorem mul?_ofNat (hm : m < 2 ^ 53) (hn : n < 2 ^ 53) (small : m * n < 2 ^ 53) :
    (ofNat m).mul? (ofNat n) = some (ofNat (m * n)) := by
  have unit : 0 < unitsPerOne * unitsPerOne := Nat.mul_pos unitsPerOne_pos unitsPerOne_pos
  have scaled : nearest? false (m * n * (unitsPerOne * unitsPerOne))
      (1 * (unitsPerOne * unitsPerOne)) = nearest? false (m * n) 1 := nearest?_scale unit
  rw [Nat.one_mul, nearest?_natural small] at scaled
  rw [mul?, negative_ofNat hm, negative_ofNat hn, size_ofNat hm, size_ofNat hn,
    Nat.mul_mul_mul_comm]
  exact scaled

/-- The quotient of naturals is rounded once, as both are exact as doubles. -/
theorem div?_ofNat (hm : m < 2 ^ 53) (hn : n < 2 ^ 53) :
    (ofNat m).div? (ofNat n) = nearest? false m n := by
  rw [div?, negative_ofNat hm, negative_ofNat hn, size_ofNat hm, size_ofNat hn]
  exact nearest?_scale unitsPerOne_pos

end TemplateCoverage.Double
