/-!
# `TemplateCoverage.Sorted.Order`: strict total orders

The order by which sets and maps are kept. Texts are ordered by their characters' code points, and
lists item by item.
-/

set_option autoImplicit false

namespace TemplateCoverage

/-- The order `<` of a type is strict and total. -/
class StrictOrder (α : Type) [LT α] : Prop where
  irrefl : ∀ a : α, ¬a < a
  trans : ∀ {a b c : α}, a < b → b < c → a < c
  total : ∀ a b : α, a < b ∨ a = b ∨ b < a

namespace StrictOrder

variable {α : Type} [LT α] [StrictOrder α]

theorem asymm {a b : α} (h : a < b) : ¬b < a := fun h' => irrefl a (trans h h')

theorem ne_of_lt {a b : α} (h : a < b) : a ≠ b := fun eq => irrefl b (eq ▸ h)

theorem lt_of_not_lt {a b : α} (h : ¬a < b) (ne : a ≠ b) : b < a := by
  rcases total a b with lt | eq | gt
  · exact absurd lt h
  · exact absurd eq ne
  · exact gt

/-- Two strictly ascending lists with the same members are equal. -/
theorem eq_of_mem_iff {as bs : List α} (ha : as.Pairwise (· < ·)) (hb : bs.Pairwise (· < ·))
    (same : ∀ x, x ∈ as ↔ x ∈ bs) : as = bs := by
  induction as generalizing bs with
  | nil =>
    cases bs with
    | nil => rfl
    | cons b bs => simpa using same b
  | cons a as ih =>
    cases bs with
    | nil => simpa using same a
    | cons b bs =>
      rw [List.pairwise_cons] at ha hb
      -- Both heads are least, so each of them is in the other list only as its head.
      have eq : a = b := by
        rcases List.mem_cons.1 ((same a).1 (by simp)) with eq | inB
        · exact eq
        · rcases List.mem_cons.1 ((same b).2 (by simp)) with eq | inA
          · exact eq.symm
          · exact absurd (hb.1 a inB) (asymm (ha.1 b inA))
      subst eq
      congr 1
      -- The tails have the same members, since neither holds the common head.
      refine ih ha.2 hb.2 fun x => ?_
      have := same x
      simp only [List.mem_cons] at this
      constructor
      · intro h
        rcases this.1 (.inr h) with rfl | h'
        · exact absurd (ha.1 _ h) (irrefl _)
        · exact h'
      · intro h
        rcases this.2 (.inr h) with rfl | h'
        · exact absurd (hb.1 _ h) (irrefl _)
        · exact h'

end StrictOrder

instance : StrictOrder String where
  irrefl := String.lt_irrefl
  trans := String.lt_trans
  total a b := Std.lt_trichotomy a b

instance : StrictOrder (List String) where
  irrefl := List.lt_irrefl
  trans := List.lt_trans
  total a b := Std.lt_trichotomy a b

end TemplateCoverage
