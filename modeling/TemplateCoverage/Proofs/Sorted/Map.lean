import TemplateCoverage.Sorted.Map

/-!
# `TemplateCoverage.Proofs.Sorted.Map`: maps from lists of entries

The theorems:

* `SortedMap.get?_map`: what a map with changed values finds under a key;
* `SortedMap.foldl_keyed`: what is seen under a key after steps with distinct keys;
* `SortedMap.get?_ofList_eq_reverse`: a map of pairs finds what the last pair of a key holds;
* `SortedMap.get?_ofList`: a map of pairs with distinct keys finds what the list finds;
* `SortedMap.mem_ofList`: and holds just these pairs;
* `SortedMap.ofList_toList`: a map is the map of its own entries;
* `SortedMap.perm_erase`: the entry of a key stands beside those of the other keys;
* `SortedMap.length_flatten_insertList`: how long the lists of a map are with a new one.
-/

set_option autoImplicit false

namespace TemplateCoverage.SortedMap

variable {κ β γ : Type} [LT κ] [DecidableEq κ]

/-- A map whose values are changed finds under a key the changed value of what it found before. The
keys stay, so that the order of the entries does too. -/
theorem get?_map {f : κ → β → γ} {m : SortedMap κ β} {k : κ} :
    (m.map f).get? k = (m.get? k).map (f k) := by
  simp only [get?, map]
  induction m.toList with
  | nil => rfl
  | cons e es ih =>
    obtain ⟨k', v⟩ := e
    rw [List.map_cons, List.lookup_cons, List.lookup_cons]
    by_cases eq : k = k'
    · simp [eq]
    · simp [beq_false_of_ne eq, ih]

/-! ### Steps with keys of their own -/

omit [LT κ] in
/-- What is seen under a key after steps that change only what is seen under their own keys, if no
two steps have the same one. The induction is on the steps; `see` may look at any state, not only at
a map. -/
theorem foldl_keyed {σ : Type} {step : σ → κ × β → σ} (see : σ → κ → γ) (update : κ → β → γ → γ)
    (steps : ∀ s e k, see (step s e) k = if k = e.1 then update k e.2 (see s k) else see s k)
    {es : List (κ × β)} (distinct : (es.map (·.1)).Nodup) {s : σ} {k : κ} :
    see (es.foldl step s) k =
      match es.lookup k with
      | some v => update k v (see s k)
      | none => see s k := by
  induction es generalizing s with
  | nil => rfl
  | cons e es ih =>
    obtain ⟨key, v⟩ := e
    rw [List.map_cons, List.nodup_cons] at distinct
    rw [List.foldl_cons, ih distinct.2, steps, List.lookup_cons]
    by_cases eq : k = key
    · -- No later step has the key, so that what this one changes is seen in the end.
      subst eq
      have absent : es.lookup k = none := lookup_eq_none_iff.2 fun e he same =>
        distinct.1 (List.mem_map.2 ⟨e, he, same⟩)
      simp [absent]
    · simp [beq_false_of_ne eq, eq]

omit [LT κ] in
/-- A list with distinct keys finds under each key what stands there. With repeated keys only one
direction would hold, as the first entry hides the later ones. -/
theorem lookup_eq_some_iff_mem {es : List (κ × β)} {k : κ} {v : β}
    (distinct : (es.map (·.1)).Nodup) : es.lookup k = some v ↔ (k, v) ∈ es := by
  constructor
  · intro found
    obtain ⟨before, after, rfl, _⟩ := List.lookup_eq_some_iff.1 found
    exact List.mem_append_right before List.mem_cons_self
  · intro mem
    obtain ⟨before, after, rfl⟩ := List.append_of_mem mem
    refine List.lookup_eq_some_iff.2 ⟨before, after, rfl, fun e earlier => ?_⟩
    rw [List.map_append, List.map_cons, List.nodup_append] at distinct
    -- An earlier entry with the key would make the keys repeat.
    have ne : e.1 ≠ k :=
      distinct.2.2 e.1 (List.mem_map_of_mem earlier) k List.mem_cons_self
    exact bne_iff_ne.2 ne.symm

section Total

variable [StrictOrder κ]

omit [DecidableEq κ] in
/-- The keys of a map are distinct, as they ascend in a strict order. -/
theorem nodup_keys (m : SortedMap κ β) : (m.toList.map (·.1)).Nodup :=
  m.ascending_keys.imp StrictOrder.ne_of_lt

omit [DecidableEq κ] in
/-- No entry of a map is there twice: two of them would have one key. -/
theorem nodup_toList (m : SortedMap κ β) : m.toList.Nodup :=
  m.ascending.imp fun lt eq => StrictOrder.ne_of_lt lt (congrArg Prod.fst eq)

/-- The entry of a key stands beside those of the other keys, up to the order. Sums over all entries
are compared with it when one entry is taken out. -/
theorem perm_erase {m : SortedMap κ β} {k : κ} {v : β} (found : m.get? k = some v) :
    m.toList.Perm ((k, v) :: (m.erase k).toList) := by
  have distinct : ((k, v) :: (m.erase k).toList).Nodup := by
    refine List.nodup_cons.2 ⟨?_, (m.erase k).nodup_toList⟩
    simp [erase]
  rw [List.perm_ext_iff_of_nodup m.nodup_toList distinct]
  rintro ⟨k', v'⟩
  rw [List.mem_cons, ← get?_eq_some_iff, ← get?_eq_some_iff, get?_erase]
  by_cases same : k' = k
  · simp [same, found, eq_comm]
  · simp [same]

variable [DecidableLT κ]

/-- After pairs with distinct keys have been inserted one by one, a map finds what the pairs say and
otherwise what it found before. It is `foldl_keyed` for insertions. -/
theorem get?_foldl_insert {pairs : List (κ × β)} {m : SortedMap κ β} {k : κ}
    (distinct : (pairs.map (·.1)).Nodup) :
    (pairs.foldl (fun m p => m.insert p.1 p.2) m).get? k = (pairs.lookup k).or (m.get? k) := by
  rw [foldl_keyed get? (fun _ v _ => some v) (fun _ _ _ => get?_insert) distinct]
  cases pairs.lookup k <;> rfl

/-- A map of pairs finds under each key what the last pair with it holds. So the pairs are looked up
from the end; keys may be repeated. -/
theorem get?_ofList_eq_reverse {pairs : List (κ × β)} {k : κ} :
    (ofList pairs).get? k = pairs.reverse.lookup k := by
  have last : ∀ m : SortedMap κ β, (pairs.foldl (fun m p => m.insert p.1 p.2) m).get? k =
      (pairs.reverse.lookup k).or (m.get? k) := by
    induction pairs with
    | nil => exact fun m => rfl
    | cons pair pairs ih =>
      intro m
      rw [List.foldl_cons, ih, get?_insert, List.reverse_cons, List.lookup_append, Option.or_assoc,
        List.lookup_cons]
      -- The first pair counts only if no later one has its key.
      by_cases eq : k = pair.1
      · simp [eq]
      · simp [beq_false_of_ne eq, eq]
  rw [ofList, last, get?_empty, Option.or_none]

/-- What a map of pairs finds under a key is one of the pairs, also if keys are repeated and only
the last pair of a key is kept. -/
theorem mem_of_get?_ofList {pairs : List (κ × β)} {k : κ} {v : β}
    (found : (ofList pairs).get? k = some v) : (k, v) ∈ pairs := by
  rw [get?_ofList_eq_reverse, List.lookup_eq_some_iff] at found
  obtain ⟨before, after, listed, _⟩ := found
  rw [← List.mem_reverse, listed]
  simp

/-- A map of pairs with distinct keys finds what the list finds. Then it does not matter that the
list is read from the front and the map keeps the last pair. -/
theorem get?_ofList {pairs : List (κ × β)} {k : κ} (distinct : (pairs.map (·.1)).Nodup) :
    (ofList pairs).get? k = pairs.lookup k := by
  rw [ofList, get?_foldl_insert distinct, get?_empty, Option.or_none]

/-- A map of pairs with distinct keys holds just these pairs. With repeated keys it would hold
fewer, the last of each key. -/
theorem mem_ofList {pairs : List (κ × β)} {e : κ × β} (distinct : (pairs.map (·.1)).Nodup) :
    e ∈ (ofList pairs).toList ↔ e ∈ pairs := by
  rw [← lookup_eq_some_iff_mem distinct, ← get?_ofList distinct]
  exact get?_eq_some_iff.symm

/-- A map is the map of its own entries, so that maps may be given by lists in statements without a
loss. -/
theorem ofList_toList (m : SortedMap κ β) : ofList m.toList = m :=
  ext fun _ => get?_ofList m.nodup_keys

/-- An entry that is erased right after it was put in leaves what there was beside it: both maps
lack the key and agree under every other one. -/
theorem erase_insert {m : SortedMap κ β} {k : κ} {v : β} : (m.insert k v).erase k = m.erase k := by
  refine ext fun k' => ?_
  rw [get?_erase, get?_erase, get?_insert]
  split <;> rfl

/-- Lists in a map: the new list of a key counts instead of its old one. It is said with a sum on
both sides, as the old list may be longer than the new one. -/
theorem length_flatten_insertList {k : κ} {v : List β} {es : List (κ × List β)}
    (ascending : es.Pairwise (·.1 < ·.1)) :
    ((insertList k v es).map (·.2)).flatten.length + ((es.lookup k).getD []).length =
      (es.map (·.2)).flatten.length + v.length := by
  induction es with
  | nil => simp [insertList]
  | cons e es ih =>
    obtain ⟨k', old⟩ := e
    rw [List.pairwise_cons] at ascending
    rw [insertList, List.lookup_cons]
    split
    · rename_i lt
      -- The key comes before every other one, so that it had no list.
      have absent : es.lookup k = none := lookup_eq_none_iff.2 fun e he =>
        (StrictOrder.ne_of_lt (StrictOrder.trans lt (ascending.1 e he))).symm
      rw [beq_false_of_ne (StrictOrder.ne_of_lt lt), absent]
      simp
      omega
    · split
      · -- The key stands here, and its list is replaced.
        rename_i eq
        simp [eq]
        omega
      · -- The key stands further behind or nowhere, so that the rest changes.
        rename_i ne
        rw [beq_false_of_ne ne]
        have rest := ih ascending.2
        simp only [List.map_cons, List.flatten_cons, List.length_append] at rest ⊢
        omega

end Total

end TemplateCoverage.SortedMap
