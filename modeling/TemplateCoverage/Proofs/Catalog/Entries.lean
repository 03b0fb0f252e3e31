import TemplateCoverage.Proofs.Catalog.Sections

/-!
# `TemplateCoverage.Proofs.Catalog.Entries`: the entries of a catalog

How many entries a catalog has and which of them cover a combination, for catalogs whose entries are
filed one after the other. The theorems:

* `entryCount_setEntries`: the new entries of an event count instead of its old ones;
* `mem_combinations_iff_covering`: a combination is covered if and only if some entry covers it;
* `getD_entries?_ofPairs`, `entryCount_ofPairs`: entries are filed in order, and each one counts.
-/

set_option autoImplicit false

namespace TemplateCoverage.Catalog

/-! ### How many entries there are -/

/-- The new entries of an event count instead of its old ones. The equation adds on both sides, as
nothing may be taken from a natural number. -/
theorem entryCount_setEntries {c : Catalog} {event : String} {entries : List Entry} :
    (c.setEntries event entries).entryCount + ((c.entries? event).getD []).length =
      c.entryCount + entries.length :=
  SortedMap.length_flatten_insertList c.events.ascending

/-- One more entry counts one more, whether its event was there or is new. -/
theorem entryCount_push {c : Catalog} {event : String} {e : Entry} :
    (c.push event e).entryCount = c.entryCount + 1 := by
  have counted : (c.push event e).entryCount + ((c.entries? event).getD []).length =
      c.entryCount + ((c.entries? event).getD [] ++ [e]).length := entryCount_setEntries
  rw [List.length_append, List.length_singleton] at counted
  omega

/-! ### Which entries cover a combination -/

/-- The entries that cover a combination, in their order under its event. The set of covered
combinations does not show how many there are. -/
def covering (c : Catalog) (x : Combination) : List Entry :=
  ((c.entries? x.event).getD []).filter fun e => e.normalizedTags.contains x.tag

/-- A combination is covered if and only if some entry covers it, be it one or several. -/
theorem mem_combinations_iff_covering {c : Catalog} {x : Combination} :
    x ∈ c.combinations ↔ c.covering x ≠ [] := by
  rw [mem_combinations, coveredTags, SortedSet.mem_ofList, List.mem_flatMap, covering, ne_eq,
    List.filter_eq_nil_iff]
  simp

/-! ### Entries filed in order -/

/-- One more entry goes behind those of its event and leaves the other events alone. -/
theorem getD_entries?_push {c : Catalog} {event event' : String} {e : Entry} :
    ((c.push event e).entries? event').getD [] =
      (c.entries? event').getD [] ++ if event = event' then [e] else [] := by
  rw [entries?_push]
  by_cases eq : event' = event
  · simp [eq]
  · simp [eq, Ne.symm eq]

/-- Entries that are pushed one after the other stand behind those of their event, in the order in
which they come. -/
theorem getD_entries?_foldl_push {pairs : List (Combination × Entry)} {c : Catalog}
    {event : String} :
    ((pairs.foldl (fun c pair => c.push pair.1.event pair.2) c).entries? event).getD [] =
      (c.entries? event).getD [] ++ (pairs.filter (·.1.event = event)).map (·.2) := by
  -- The catalog grows from pair to pair, hence the induction is over all catalogs.
  induction pairs generalizing c with
  | nil => simp
  | cons pair pairs ih =>
    rw [List.foldl_cons, ih, getD_entries?_push, List.filter_cons, List.append_assoc]
    by_cases eq : pair.1.event = event <;> simp [eq]

/-- The entries filed under an event are those of the pairs with this event, in order. -/
theorem getD_entries?_ofPairs {pairs : List (Combination × Entry)} {event : String} :
    ((ofPairs pairs).entries? event).getD [] = (pairs.filter (·.1.event = event)).map (·.2) := by
  rw [ofPairs, getD_entries?_foldl_push]
  rfl

/-- Filing entries leaves every event without fields, so that candidates made from gaps bring none
to a catalog. -/
theorem fields?_ofPairs {pairs : List (Combination × Entry)} {event : String} :
    (ofPairs pairs).fields? event = none := by
  have kept : ∀ (c : Catalog), c.fields? event = none →
      (pairs.foldl (fun c pair => c.push pair.1.event pair.2) c).fields? event = none := by
    induction pairs with
    | nil => exact fun _ none => none
    | cons pair pairs ih => exact fun c none => ih _ (fields?_push.trans none)
  exact kept empty rfl

/-- Every entry that is filed counts, also one without tags and one that is there twice. -/
theorem entryCount_ofPairs {pairs : List (Combination × Entry)} :
    (ofPairs pairs).entryCount = pairs.length := by
  have counted : ∀ (c : Catalog), (pairs.foldl (fun c pair => c.push pair.1.event pair.2)
      c).entryCount = c.entryCount + pairs.length := by
    induction pairs with
    | nil => exact fun _ => rfl
    | cons pair pairs ih =>
      intro c
      rw [List.foldl_cons, ih, entryCount_push, List.length_cons]
      omega
  exact (counted empty).trans (Nat.zero_add _)

end TemplateCoverage.Catalog
