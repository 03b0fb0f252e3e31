import TemplateCoverage.Sorted.Order

/-!
# `TemplateCoverage.Sorted.Map`: finite maps in ascending order of their keys

A map is the list of its entries with strictly ascending keys, so equal maps are equal lists. Main
statements:

* `SortedMap.ext`: maps with the same values under the same keys are equal;
* `SortedMap.get?_insert`, `SortedMap.get?_erase`: what each operation does to the values.
-/

set_option autoImplicit false

namespace TemplateCoverage

/-- A finite map as the list of its entries in ascending order of the keys. -/
structure SortedMap (κ β : Type) [LT κ] where
  toList : List (κ × β)
  ascending : toList.Pairwise (·.1 < ·.1)

namespace SortedMap

variable {κ β γ : Type} [LT κ]

theorem toList_inj {m n : SortedMap κ β} (h : m.toList = n.toList) : m = n := by
  cases m; cases n; simp_all

/-- The map without entries. -/
def empty : SortedMap κ β := ⟨[], List.Pairwise.nil⟩

/-- The number of entries. -/
def size (m : SortedMap κ β) : Nat := m.toList.length

/-- Whether the map has no entries. -/
def isEmpty (m : SortedMap κ β) : Bool := m.toList.isEmpty

/-- The keys in ascending order. -/
def keys (m : SortedMap κ β) : List κ := m.toList.map (·.1)

/-- The values in ascending order of their keys. -/
def values (m : SortedMap κ β) : List β := m.toList.map (·.2)

/-- Every entry's value replaced by a function of the entry. -/
def map (f : κ → β → γ) (m : SortedMap κ β) : SortedMap κ γ :=
  ⟨m.toList.map fun e => (e.1, f e.1 e.2), by simpa [List.pairwise_map] using m.ascending⟩

theorem ascending_keys (m : SortedMap κ β) : m.keys.Pairwise (· < ·) := by
  simpa [keys, List.pairwise_map] using m.ascending

variable [DecidableEq κ]

/-- The value of a key. -/
def get? (m : SortedMap κ β) (k : κ) : Option β := m.toList.lookup k

/-- Whether a key has a value. -/
def contains (m : SortedMap κ β) (k : κ) : Bool := (m.get? k).isSome

/-- The map without the entry of a key. -/
def erase (m : SortedMap κ β) (k : κ) : SortedMap κ β :=
  ⟨m.toList.filter (·.1 ≠ k), m.ascending.sublist List.filter_sublist⟩

omit [LT κ] in
theorem lookup_eq_none_iff {es : List (κ × β)} {k : κ} :
    es.lookup k = none ↔ ∀ e ∈ es, e.1 ≠ k := by
  induction es with
  | nil => simp
  | cons e es ih =>
    obtain ⟨k', v⟩ := e
    rw [List.lookup_cons]
    by_cases h : k = k'
    · simp [h]
    · simp [beq_false_of_ne h, ih, Ne.symm h]

section Total

variable [StrictOrder κ]

theorem lookup_eq_some_iff {es : List (κ × β)} (h : es.Pairwise (·.1 < ·.1)) {k : κ} {v : β} :
    es.lookup k = some v ↔ (k, v) ∈ es := by
  induction es with
  | nil => simp
  | cons e es ih =>
    obtain ⟨k', v'⟩ := e
    have he := List.pairwise_cons.1 h
    rw [List.lookup_cons]
    by_cases eq : k = k'
    · subst eq
      simp only [beq_self_eq_true, Option.some.injEq, List.mem_cons, Prod.mk.injEq, true_and]
      constructor
      · exact fun eq => .inl eq.symm
      · rintro (eq | mem)
        · exact eq.symm
        · exact absurd (he.1 _ mem) (StrictOrder.irrefl k)
    · simp [beq_false_of_ne eq, ih he.2, eq]

theorem get?_eq_some_iff {m : SortedMap κ β} {k : κ} {v : β} :
    m.get? k = some v ↔ (k, v) ∈ m.toList := lookup_eq_some_iff m.ascending

omit [StrictOrder κ] in
theorem get?_eq_none_iff {m : SortedMap κ β} {k : κ} :
    m.get? k = none ↔ k ∉ m.keys := by
  rw [get?, lookup_eq_none_iff, keys, List.mem_map]
  grind

omit [StrictOrder κ] in
theorem contains_iff {m : SortedMap κ β} {k : κ} : m.contains k ↔ k ∈ m.keys := by
  rw [contains, Option.isSome_iff_ne_none, ne_eq, get?_eq_none_iff, Classical.not_not]

/-- Maps with the same values under the same keys are equal. -/
theorem ext {m n : SortedMap κ β} (h : ∀ k, m.get? k = n.get? k) : m = n := by
  obtain ⟨as, ha⟩ := m
  obtain ⟨bs, hb⟩ := n
  apply toList_inj
  simp only [get?] at h
  simp only
  induction as generalizing bs with
  | nil =>
    cases bs with
    | nil => rfl
    | cons b bs =>
      obtain ⟨kb, vb⟩ := b
      simpa using h kb
  | cons a as ih =>
    obtain ⟨ka, va⟩ := a
    cases bs with
    | nil => simpa using h ka
    | cons b bs =>
      obtain ⟨kb, vb⟩ := b
      have pa := List.pairwise_cons.1 ha
      have pb := List.pairwise_cons.1 hb
      -- Each head is an entry of the other map, and there it can only be the head.
      have inB : (ka, va) ∈ (kb, vb) :: bs :=
        (lookup_eq_some_iff hb).1 ((h ka).symm.trans (by simp))
      have inA : (kb, vb) ∈ (ka, va) :: as :=
        (lookup_eq_some_iff ha).1 ((h kb).trans (by simp))
      have eq : (ka, va) = (kb, vb) := by
        rcases List.mem_cons.1 inB with eq | inB
        · exact eq
        · rcases List.mem_cons.1 inA with eq | inA
          · exact eq.symm
          · exact absurd (pb.1 _ inB) (StrictOrder.asymm (pa.1 _ inA))
      rw [Prod.mk.injEq] at eq
      obtain ⟨rfl, rfl⟩ := eq
      congr 1
      -- Under the common key the tails hold nothing; under other keys the heads do not count.
      refine ih pa.2 bs pb.2 fun k => ?_
      by_cases eq : k = ka
      · subst eq
        rw [lookup_eq_none_iff.2 fun e he => (StrictOrder.ne_of_lt (pa.1 e he)).symm,
          lookup_eq_none_iff.2 fun e he => (StrictOrder.ne_of_lt (pb.1 e he)).symm]
      · have := h k
        simpa [List.lookup_cons, beq_false_of_ne eq] using this

variable [DecidableLT κ]

/-- Puts an entry into an ascending list at its place, instead of the one with its key. -/
def insertList (k : κ) (v : β) : List (κ × β) → List (κ × β)
  | [] => [(k, v)]
  | e :: es =>
    if k < e.1 then (k, v) :: e :: es
    else if k = e.1 then (k, v) :: es
    else e :: insertList k v es

omit [StrictOrder κ] in
theorem mem_insertList {k : κ} {v : β} {x : κ × β} {es : List (κ × β)}
    (h : x ∈ insertList k v es) : x = (k, v) ∨ x ∈ es := by
  induction es with
  | nil => simpa [insertList] using h
  | cons e es ih =>
    simp only [insertList] at h
    split at h
    · simpa using h
    · split at h
      · rcases List.mem_cons.1 h with eq | h
        · exact .inl eq
        · exact .inr (by simp [h])
      · rcases List.mem_cons.1 h with eq | h
        · exact .inr (by simp [eq])
        · rcases ih h with eq | h
          · exact .inl eq
          · exact .inr (by simp [h])

theorem ascending_insertList {k : κ} {v : β} {es : List (κ × β)}
    (h : es.Pairwise (·.1 < ·.1)) : (insertList k v es).Pairwise (·.1 < ·.1) := by
  induction es with
  | nil => simp [insertList]
  | cons e es ih =>
    have he := List.pairwise_cons.1 h
    simp only [insertList]
    split
    · rename_i lt
      refine List.pairwise_cons.2 ⟨fun x hx => ?_, h⟩
      rcases List.mem_cons.1 hx with rfl | hx
      · exact lt
      · exact StrictOrder.trans lt (he.1 x hx)
    · split
      · rename_i eq
        refine List.pairwise_cons.2 ⟨fun x hx => ?_, he.2⟩
        simpa [eq] using he.1 x hx
      · rename_i not ne
        refine List.pairwise_cons.2 ⟨fun x hx => ?_, ih he.2⟩
        rcases mem_insertList hx with rfl | hx
        · exact StrictOrder.lt_of_not_lt not ne
        · exact he.1 x hx

omit [StrictOrder κ] in
theorem lookup_insertList {k k' : κ} {v : β} {es : List (κ × β)} :
    (insertList k v es).lookup k' = if k' = k then some v else es.lookup k' := by
  induction es with
  | nil =>
    rw [insertList, List.lookup_cons]
    by_cases h : k' = k
    · simp [h]
    · simp [beq_false_of_ne h, h]
  | cons e es ih =>
    obtain ⟨ke, ve⟩ := e
    simp only [insertList]
    split
    · rw [List.lookup_cons]
      by_cases h : k' = k
      · simp [h]
      · simp [beq_false_of_ne h, h]
    · split
      · rename_i eq
        subst eq
        rw [List.lookup_cons, List.lookup_cons]
        by_cases h : k' = k
        · simp [h]
        · simp [beq_false_of_ne h, h]
      · rename_i ne
        rw [List.lookup_cons, List.lookup_cons, ih]
        by_cases h : k' = ke
        · subst h
          simp [Ne.symm ne]
        · simp [beq_false_of_ne h]

/-- The map with an entry put in, instead of the one with its key. -/
def insert (m : SortedMap κ β) (k : κ) (v : β) : SortedMap κ β :=
  ⟨insertList k v m.toList, ascending_insertList m.ascending⟩

/-- The map of a list's pairs, the last one winning under each key. -/
def ofList (pairs : List (κ × β)) : SortedMap κ β :=
  pairs.foldl (fun m p => m.insert p.1 p.2) empty

theorem get?_insert {m : SortedMap κ β} {k k' : κ} {v : β} :
    (m.insert k v).get? k' = if k' = k then some v else m.get? k' := lookup_insertList

omit [StrictOrder κ] [DecidableLT κ] in
theorem get?_erase {m : SortedMap κ β} {k k' : κ} :
    (m.erase k).get? k' = if k' = k then none else m.get? k' := by
  obtain ⟨es, h⟩ := m
  simp only [erase, get?]
  clear h
  induction es with
  | nil => simp
  | cons e es ih =>
    obtain ⟨ke, ve⟩ := e
    by_cases eq : ke = k
    · subst eq
      rw [List.filter_cons_of_neg (by simp), ih, List.lookup_cons]
      by_cases h : k' = ke
      · simp [h]
      · simp [h, beq_false_of_ne h]
    · rw [List.filter_cons_of_pos (by simpa using eq), List.lookup_cons, List.lookup_cons, ih]
      by_cases h : k' = ke
      · subst h
        simp [eq]
      · simp [beq_false_of_ne h]

omit [StrictOrder κ] [DecidableLT κ] in
theorem get?_empty {k : κ} : (empty : SortedMap κ β).get? k = none := rfl

end Total

end SortedMap

end TemplateCoverage
