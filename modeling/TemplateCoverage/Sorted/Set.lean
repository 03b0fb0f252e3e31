import TemplateCoverage.Sorted.Order

/-!
# `TemplateCoverage.Sorted.Set`: finite sets in ascending order

A set is the strictly ascending list of its members, so equal sets are equal lists. Main statements:

* `SortedSet.ext`: sets with the same members are equal;
* `SortedSet.mem_insert`, `SortedSet.mem_ofList`, `SortedSet.mem_diff`, `SortedSet.mem_inter`: what
  each operation does to the members.
-/

set_option autoImplicit false

namespace TemplateCoverage

/-- A finite set as the ascending list of its members. -/
structure SortedSet (α : Type) [LT α] where
  toList : List α
  ascending : toList.Pairwise (· < ·)

namespace SortedSet

variable {α : Type} [LT α]

instance : Membership α (SortedSet α) := ⟨fun s a => a ∈ s.toList⟩

theorem mem_def {s : SortedSet α} {a : α} : a ∈ s ↔ a ∈ s.toList := Iff.rfl

theorem toList_inj {s t : SortedSet α} (h : s.toList = t.toList) : s = t := by
  cases s; cases t; simp_all

instance [DecidableEq α] : DecidableEq (SortedSet α) := fun s t =>
  if h : s.toList = t.toList then isTrue (toList_inj h) else isFalse fun eq => h (eq ▸ rfl)

/-- The set without members. -/
def empty : SortedSet α := ⟨[], List.Pairwise.nil⟩

/-- The number of members. -/
def size (s : SortedSet α) : Nat := s.toList.length

/-- Whether the set has no members. -/
def isEmpty (s : SortedSet α) : Bool := s.toList.isEmpty

/-- The members for which a test holds. -/
def filter (p : α → Bool) (s : SortedSet α) : SortedSet α :=
  ⟨s.toList.filter p, s.ascending.sublist List.filter_sublist⟩

theorem mem_filter {p : α → Bool} {s : SortedSet α} {a : α} :
    a ∈ s.filter p ↔ a ∈ s ∧ p a := List.mem_filter

section Total

variable [StrictOrder α]

/-- Sets with the same members are equal. -/
theorem ext {s t : SortedSet α} (h : ∀ a, a ∈ s ↔ a ∈ t) : s = t :=
  toList_inj (StrictOrder.eq_of_mem_iff s.ascending t.ascending h)

variable [DecidableEq α] [DecidableLT α]

/-- Whether a value is a member. -/
def contains (s : SortedSet α) (a : α) : Bool := s.toList.contains a

omit [StrictOrder α] [DecidableLT α] in
theorem contains_iff {s : SortedSet α} {a : α} : s.contains a ↔ a ∈ s := by
  simp [contains, mem_def]

/-- Puts a value into an ascending list at its place, unless it is there. -/
def insertList (a : α) : List α → List α
  | [] => [a]
  | b :: bs => if a < b then a :: b :: bs else if a = b then b :: bs else b :: insertList a bs

omit [StrictOrder α] in
theorem mem_insertList {a x : α} {bs : List α} : x ∈ insertList a bs ↔ x = a ∨ x ∈ bs := by
  induction bs with
  | nil => simp [insertList]
  | cons b bs ih =>
    simp only [insertList]
    repeat' split
    · simp
    · rename_i eq
      simp [eq]
    · simp only [List.mem_cons, ih]
      grind

theorem ascending_insertList {a : α} {bs : List α} (h : bs.Pairwise (· < ·)) :
    (insertList a bs).Pairwise (· < ·) := by
  induction bs with
  | nil => simp [insertList]
  | cons b bs ih =>
    have hb := List.pairwise_cons.1 h
    simp only [insertList]
    split
    · rename_i lt
      refine List.pairwise_cons.2 ⟨fun x hx => ?_, h⟩
      rcases List.mem_cons.1 hx with rfl | hx
      · exact lt
      · exact StrictOrder.trans lt (hb.1 x hx)
    · split
      · exact h
      · rename_i not ne
        refine List.pairwise_cons.2 ⟨fun x hx => ?_, ih hb.2⟩
        rcases mem_insertList.1 hx with rfl | hx
        · exact StrictOrder.lt_of_not_lt not ne
        · exact hb.1 x hx

/-- The set with one more member. -/
def insert (s : SortedSet α) (a : α) : SortedSet α :=
  ⟨insertList a s.toList, ascending_insertList s.ascending⟩

/-- The set of the items of a list. -/
def ofList (as : List α) : SortedSet α := as.foldl insert empty

/-- The members that are not in another set. -/
def diff (s t : SortedSet α) : SortedSet α := s.filter fun a => !t.contains a

/-- The members that are also in another set. -/
def inter (s t : SortedSet α) : SortedSet α := s.filter t.contains

theorem mem_insert {s : SortedSet α} {a x : α} : x ∈ s.insert a ↔ x = a ∨ x ∈ s :=
  mem_insertList

theorem mem_foldl_insert {as : List α} {s : SortedSet α} {x : α} :
    x ∈ as.foldl insert s ↔ x ∈ as ∨ x ∈ s := by
  induction as generalizing s with
  | nil => simp
  | cons a as ih =>
    rw [List.foldl_cons, ih, mem_insert, List.mem_cons]
    grind

theorem mem_ofList {as : List α} {x : α} : x ∈ ofList as ↔ x ∈ as := by
  rw [ofList, mem_foldl_insert]
  simp [mem_def, empty]

omit [StrictOrder α] [DecidableLT α] in
theorem mem_diff {s t : SortedSet α} {x : α} : x ∈ s.diff t ↔ x ∈ s ∧ x ∉ t := by
  rw [diff, mem_filter, Bool.not_eq_true', ← contains_iff (s := t), Bool.eq_false_iff]

omit [StrictOrder α] [DecidableLT α] in
theorem mem_inter {s t : SortedSet α} {x : α} : x ∈ s.inter t ↔ x ∈ s ∧ x ∈ t := by
  rw [inter, mem_filter, contains_iff]

end Total

end SortedSet

end TemplateCoverage
