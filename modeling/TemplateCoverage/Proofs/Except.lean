/-!
# `TemplateCoverage.Proofs.Except`: results of steps

What it takes for a computation in steps, or over a list, to succeed. The theorems:

* `bind_eq_ok_iff`: two steps succeed if and only if both do;
* `mapError_eq_ok_iff`, `mapError_eq_error_iff`: what succeeds and fails after a change of errors;
* `mapM_eq_ok_iff`: a computation over a list succeeds if and only if it does so on every item, with
  the results in order;
* `mapM_eq_error_iff`: it fails if and only if it does so on some item and on none before it;
* `exists_of_mapM_eq_ok`, `exists_result_of_mapM_eq_ok`: every result comes from an item, and every
  item has a result;
* `exists_mapM_eq_ok_iff`: there are results of a kind if and only if every item has one;
* `map_eq_map_of_mapM_eq_ok`, `forall_mem_iff_of_mapM_eq_ok`: what items have in common with their
  results;
* `mapM_map_eq_ok`: undoing item by item undoes the list.
-/

set_option autoImplicit false

namespace TemplateCoverage

variable {α β ε ε' : Type}

/-- Two steps succeed if and only if the first does and the second does on its result. Most
`_eq_ok_iff` lemmas of readers and runs peel their steps off with it, one after the other. -/
theorem bind_eq_ok_iff {x : Except ε α} {f : α → Except ε β} {b : β} :
    (x >>= f) = .ok b ↔ ∃ a, x = .ok a ∧ f a = .ok b := by
  cases x <;> simp [bind, Except.bind]

/-- A change of errors leaves successes as they are: whatever the change does to an error, a result
is there after it if and only if it was there before. -/
theorem mapError_eq_ok_iff {x : Except ε α} {f : ε → ε'} {a : α} :
    x.mapError f = .ok a ↔ x = .ok a := by
  cases x with
  | ok b =>
    show Except.ok b = .ok a ↔ Except.ok b = .ok a
    rw [Except.ok.injEq, Except.ok.injEq]
  | error err =>
    show Except.error (f err) = .ok a ↔ _
    simp

/-- A failure after a change of errors comes from a failure before it. The error is the changed one,
so that what a caller reports determines only the changed form. -/
theorem mapError_eq_error_iff {x : Except ε α} {f : ε → ε'} {e' : ε'} :
    x.mapError f = .error e' ↔ ∃ e, x = .error e ∧ e' = f e := by
  cases x with
  | ok b =>
    show Except.ok b = .error e' ↔ _
    simp
  | error err =>
    show Except.error (f err) = .error e' ↔ _
    simp [eq_comm]

/-- A computation over a list succeeds if and only if it does so on every item. Both lists are
compared as lists of results, which states the order and the number of the results at once. -/
theorem mapM_eq_ok_iff {f : α → Except ε β} {as : List α} {bs : List β} :
    as.mapM f = .ok bs ↔ as.map f = bs.map .ok := by
  induction as generalizing bs with
  | nil =>
    cases bs with
    | nil => simp [pure, Except.pure]
    | cons b bs => simp [pure, Except.pure]
  | cons a as ih =>
    rw [List.mapM_cons, List.map_cons]
    cases head : f a with
    | error err => cases bs <;> simp [bind, Except.bind]
    | ok b =>
      simp only [bind, Except.bind]
      cases tail : as.mapM f with
      | error err =>
        have failed : ∀ bs : List β, as.map f ≠ bs.map .ok := fun bs eq => by
          rw [ih.2 eq] at tail
          cases tail
        -- An item behind the first fails, so that no list of results fits.
        cases bs <;> simp [failed]
      | ok rest =>
        have mapped : as.map f = rest.map .ok := ih.1 tail
        have inj : ∀ {xs ys : List β},
            xs.map (fun x => (.ok x : Except ε β)) = ys.map .ok ↔ xs = ys :=
          List.map_inj_right fun _ _ => Except.ok.inj
        cases bs <;> simp [pure, Except.pure, mapped, inj]

/-- A computation over a list fails at its first item, or it has a result there and fails on the
rest. The result at the first item is forgotten: the items behind it do not depend on it. -/
theorem mapM_cons_eq_error_iff {f : α → Except ε β} {a : α} {as : List α} {e : ε} :
    (a :: as).mapM f = .error e ↔ f a = .error e ∨ (∃ r, f a = .ok r) ∧ as.mapM f = .error e := by
  rw [List.mapM_cons]
  cases f a <;> cases as.mapM f <;> simp [bind, Except.bind, pure, Except.pure]

/-- A computation over a list fails if and only if it does on an item before which it succeeds. The
error is the one of that item: items behind it are never looked at. -/
theorem mapM_eq_error_iff {f : α → Except ε β} {as : List α} {e : ε} :
    as.mapM f = .error e ↔ ∃ before a after, as = before ++ a :: after ∧
      (∀ b ∈ before, ∃ r, f b = .ok r) ∧ f a = .error e := by
  induction as with
  | nil => simp [pure, Except.pure]
  | cons a as ih =>
    rw [mapM_cons_eq_error_iff, ih]
    constructor
    · rintro (failed | ⟨first, before, b, after, rfl, fine, failed⟩)
      · exact ⟨[], a, as, rfl, by simp, failed⟩
      · exact ⟨a :: before, b, after, rfl, List.forall_mem_cons.2 ⟨first, fine⟩, failed⟩
    · rintro ⟨before, b, after, eq, fine, failed⟩
      -- The item that fails is the first one or lies behind it.
      cases before with
      | nil =>
        obtain ⟨rfl, -⟩ := List.cons.inj eq
        exact .inl failed
      | cons first before =>
        obtain ⟨rfl, rfl⟩ := List.cons.inj eq
        obtain ⟨ok, fine⟩ := List.forall_mem_cons.1 fine
        exact .inr ⟨ok, before, b, after, rfl, fine, failed⟩

/-- Every result of a computation over a list is the result on one of its items. Nothing is said
about which one, as two items may have equal results. -/
theorem exists_of_mapM_eq_ok {f : α → Except ε β} {as : List α} {bs : List β}
    (h : as.mapM f = .ok bs) {b : β} (mem : b ∈ bs) : ∃ a ∈ as, f a = .ok b := by
  have result : Except.ok b ∈ as.map f := mapM_eq_ok_iff.1 h ▸ List.mem_map_of_mem mem
  exact List.mem_map.1 result

/-- Every item of a computation over a list has a result among those of the list, which is the
result on the item itself. -/
theorem exists_result_of_mapM_eq_ok {f : α → Except ε β} {as : List α} {bs : List β}
    (h : as.mapM f = .ok bs) {a : α} (mem : a ∈ as) : ∃ b ∈ bs, f a = .ok b := by
  have result : f a ∈ bs.map .ok := mapM_eq_ok_iff.1 h ▸ List.mem_map_of_mem mem
  obtain ⟨b, inResults, eq⟩ := List.mem_map.1 result
  exact ⟨b, inResults, eq.symm⟩

/-- A computation over a list has results of a kind if and only if it has one on every item. The
lists of a decoder are accepted so: item by item, whatever stands beside. -/
theorem exists_mapM_eq_ok_iff {f : α → Except ε β} {as : List α} {p : β → Prop} :
    (∃ bs, as.mapM f = .ok bs ∧ ∀ b ∈ bs, p b) ↔ ∀ a ∈ as, ∃ b, f a = .ok b ∧ p b := by
  simp only [mapM_eq_ok_iff]
  induction as with
  | nil => exact iff_of_true ⟨[], rfl, by simp⟩ (by simp)
  | cons a as ih =>
    rw [List.forall_mem_cons, ← ih]
    refine ⟨?_, ?_⟩
    · intro ⟨bs, mapped, all⟩
      -- The results are as many as the items, so that there is a first one.
      obtain ⟨b, rest, rfl, first, others⟩ := List.map_eq_cons_iff.1 mapped.symm
      rw [List.forall_mem_cons] at all
      exact ⟨⟨b, first.symm, all.1⟩, rest, others.symm, all.2⟩
    · intro ⟨⟨b, first, holds⟩, rest, others, all⟩
      exact ⟨b :: rest, by rw [List.map_cons, List.map_cons, first, others],
        List.forall_mem_cons.2 ⟨holds, all⟩⟩

/-- What items and their results have in common the lists have in common, in order. The keys of a
list that is decoded entry by entry are kept this way. -/
theorem map_eq_map_of_mapM_eq_ok {γ : Type} {f : α → Except ε β} {g : α → γ} {g' : β → γ}
    {as : List α} {bs : List β} (h : as.mapM f = .ok bs)
    (same : ∀ a b, f a = .ok b → g a = g' b) : as.map g = bs.map g' := by
  rw [mapM_eq_ok_iff] at h
  induction as generalizing bs with
  | nil =>
    rw [List.map_nil, List.nil_eq, List.map_eq_nil_iff] at h
    rw [h, List.map_nil, List.map_nil]
  | cons a as ih =>
    obtain ⟨b, rest, rfl, first, others⟩ := List.map_eq_cons_iff.1 h.symm
    rw [List.map_cons, List.map_cons, same a b first.symm, ih others.symm]

/-- What holds of an item if and only if it does of its result holds of all items if and only if it
does of all results. Neither list is walked here: each member of one has a partner in the other. -/
theorem forall_mem_iff_of_mapM_eq_ok {f : α → Except ε β} {as : List α} {bs : List β}
    {p : α → Prop} {q : β → Prop} (h : as.mapM f = .ok bs)
    (same : ∀ a b, f a = .ok b → (p a ↔ q b)) : (∀ a ∈ as, p a) ↔ ∀ b ∈ bs, q b := by
  constructor
  · intro all b mem
    obtain ⟨a, inItems, result⟩ := exists_of_mapM_eq_ok h mem
    exact (same a b result).1 (all a inItems)
  · intro all a mem
    obtain ⟨b, inResults, result⟩ := exists_result_of_mapM_eq_ok h mem
    exact (same a b result).2 (all b inResults)

/-- Undoing item by item undoes the list. The undoing need only succeed on what the items were made
into, not on everything. -/
theorem mapM_map_eq_ok {f : α → β} {g : β → Except ε α} {as : List α}
    (undo : ∀ a ∈ as, g (f a) = .ok a) : (as.map f).mapM g = .ok as := by
  rw [mapM_eq_ok_iff, List.map_map]
  exact List.map_congr_left undo

end TemplateCoverage
