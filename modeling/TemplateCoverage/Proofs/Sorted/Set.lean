import Mathlib.Data.List.Nodup
import Mathlib.Data.List.Perm.Subperm
import TemplateCoverage.Sorted.Set

/-!
# `TemplateCoverage.Proofs.Sorted.Set`: the order and the number of a set's members

The theorems:

* `SortedSet.mem_before_iff`: which members stand before one in the order;
* `SortedSet.size_le_of_subset`: a set within another one is no larger;
* `SortedSet.size_eq_add`: a set that two others without a common member make up is as large as both
  together;
* `SortedSet.size_ofList_eq_length_iff`: the set of a list is as large as the list if no item is
  there twice.
-/

set_option autoImplicit false

namespace TemplateCoverage.SortedSet

variable {α : Type} [LT α] {s t u : SortedSet α}

/-- Membership in a sorted set is decided along its list, so that it can be computed for sets that
are given. -/
instance [DecidableEq α] {x : α} : Decidable (x ∈ s) :=
  inferInstanceAs (Decidable (x ∈ s.toList))

/-- A set is empty if and only if nothing is in it, so that emptiness is a statement on members. -/
theorem isEmpty_iff : s.isEmpty ↔ ∀ x, x ∉ s := by
  rw [isEmpty, List.isEmpty_iff]
  exact List.eq_nil_iff_forall_not_mem

/-- A set with a member is not of size zero, which divisions by the size ask for. -/
theorem size_pos_of_mem {x : α} (mem : x ∈ s) : 0 < s.size := List.length_pos_of_mem mem

variable [StrictOrder α]

/-- No member is listed twice, as the members ascend in a strict order. -/
theorem nodup_toList (s : SortedSet α) : s.toList.Nodup :=
  s.ascending.imp StrictOrder.ne_of_lt

/-- Before a member stand the members that are less. So the place of a member in the list of a set
says which members come first. -/
theorem mem_before_iff {x y : α} {before after : List α}
    (listed : s.toList = before ++ x :: after) : y ∈ before ↔ y ∈ s ∧ y < x := by
  -- The list ascends as a whole, from which both its parts and what stands between them follow.
  have ascending : (before ++ x :: after).Pairwise (· < ·) := listed ▸ s.ascending
  obtain ⟨-, behind, less⟩ := List.pairwise_append.1 ascending
  rw [mem_def, listed]
  constructor
  · intro mem
    exact ⟨List.mem_append_left _ mem, less y mem x List.mem_cons_self⟩
  · rintro ⟨mem, lt⟩
    rcases List.mem_append.1 mem with early | late
    · exact early
    · rcases List.mem_cons.1 late with rfl | late
      · exact absurd lt (StrictOrder.irrefl y)
      · exact absurd lt (StrictOrder.asymm ((List.pairwise_cons.1 behind).1 y late))

/-- A set within another one is no larger. The lists have no repetitions, so that the one is a part
of the other up to order. -/
theorem size_le_of_subset (sub : ∀ x ∈ s, x ∈ t) : s.size ≤ t.size :=
  (List.subperm_of_subset s.nodup_toList sub).length_le

/-- Two sets without a common member make up a set that is as large as both together. The union is
given by its members only, so that it may have come about in any way. -/
theorem size_eq_add (union : ∀ x, x ∈ u ↔ x ∈ s ∨ x ∈ t) (apart : ∀ x ∈ s, x ∉ t) :
    u.size = s.size + t.size := by
  have distinct : (s.toList ++ t.toList).Nodup := by
    refine List.nodup_append.2 ⟨s.nodup_toList, t.nodup_toList, ?_⟩
    rintro x inS _ inT rfl
    exact apart x inS inT
  have same : u.toList.Perm (s.toList ++ t.toList) := by
    rw [List.perm_ext_iff_of_nodup u.nodup_toList distinct]
    intro x
    rw [List.mem_append]
    exact union x
  rw [size, same.length_eq, List.length_append]
  rfl

/-- The set of a list is as large as the list if and only if no item is there twice. It is the test
by which repeated tags are found. -/
theorem size_ofList_eq_length_iff [DecidableEq α] [DecidableLT α] {as : List α} :
    (ofList as).size = as.length ↔ as.Nodup := by
  have distinct : (ofList as).toList.Nodup := (ofList as).nodup_toList
  have same : ∀ x, x ∈ (ofList as).toList ↔ x ∈ as := fun _ => mem_ofList
  constructor
  · intro size
    -- The members are some of the items, and of the same number they are all of them.
    have sub : (ofList as).toList.Subperm as :=
      List.subperm_of_subset distinct fun x => (same x).1
    exact (sub.perm_of_length_le (Nat.le_of_eq size.symm)).nodup_iff.1 distinct
  · intro nodup
    exact ((List.perm_ext_iff_of_nodup distinct nodup).2 same).length_eq

end TemplateCoverage.SortedSet
