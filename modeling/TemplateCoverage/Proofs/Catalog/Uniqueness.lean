import TemplateCoverage.Proofs.Catalog.Merge

/-!
# `TemplateCoverage.Proofs.Catalog.Uniqueness`: combinations that only one entry covers

A catalog covers a combination once if a single entry does. A merge compares each candidate entry
with the entries before the merge and not with the other candidates, so it keeps every combination
covered once just where it accepts no two candidate entries for the same one. The theorems:

* `covering_merge`: which entries cover a combination after a merge;
* `coversOnce_merge_iff`: what one merge has to accept to keep every combination covered once;
* `coversOnce_foldl_merge_iff`: and what a run of merges has to.
-/

set_option autoImplicit false

namespace TemplateCoverage.Catalog

variable {p c : Catalog} {x : Combination} {others : List Catalog}

/-- No combination is covered by two entries. An entry that repeats a tag counts once. -/
def CoversOnce (c : Catalog) : Prop := ∀ x, (c.covering x).length ≤ 1

/-- No two entries of the candidates that are accepted cover the same combination. It depends on the
catalog too: of two such entries one may be covered already. -/
def AcceptsApart (p c : Catalog) : Prop :=
  ∀ x : Combination, ((c.covering x).filter (p.accepts x.event)).length ≤ 1

/-- A catalog without entries covers nothing twice, and every sequence of merges may start from it.
-/
theorem coversOnce_empty : empty.CoversOnce := fun _ => Nat.zero_le 1

/-- Candidates that cover each combination once have no two accepted entries for it, whatever they
are merged into. -/
theorem CoversOnce.acceptsApart (once : c.CoversOnce) (p : Catalog) : p.AcceptsApart c :=
  fun x => Nat.le_trans (List.length_filter_le _ _) (once x)

/-! ### One merge -/

/-- The entries that cover a combination after a merge: the old ones and then the accepted ones. -/
theorem covering_merge :
    (p.merge c).covering x = p.covering x ++ (c.covering x).filter (p.accepts x.event) := by
  rw [covering, getD_entries?_merge, List.filter_append, additions, accepted]
  rw [covering, covering, List.filter_filter, List.filter_filter]
  simp only [Bool.and_comm]

/-- No entry is accepted for a combination that is covered already. That is why a merge cannot spoil
such a combination. -/
theorem filter_accepts_eq_nil (covered : p.covering x ≠ []) :
    (c.covering x).filter (p.accepts x.event) = [] := by
  rw [List.filter_eq_nil_iff]
  intro e mem accepts
  have covers : e.normalizedTags.contains x.tag := (List.mem_filter.1 mem).2
  have own : x ∈ e.combinations x.event :=
    Entry.mem_combinations.2 ⟨rfl, List.contains_iff_mem.1 covers⟩
  exact (accepts_iff.1 accepts).2 x own (mem_combinations_iff_covering.2 covered)

/-- A merge covers each combination once if and only if the catalog did and the merge accepts no two
entries for the same one. -/
theorem coversOnce_merge_iff : (p.merge c).CoversOnce ↔ p.CoversOnce ∧ p.AcceptsApart c := by
  unfold CoversOnce AcceptsApart
  rw [← forall_and]
  refine forall_congr' fun x => ?_
  rw [covering_merge, List.length_append]
  -- Either no old entry covers the combination or no candidate entry for it is accepted.
  by_cases free : p.covering x = []
  · rw [free, List.length_nil]
    omega
  · rw [filter_accepts_eq_nil free, List.length_nil]
    omega

/-! ### Runs of merges -/

/-- Of a run the first step and every later one is one of its steps, as the steps of the induction
below ask for it. -/
theorem forall_step_cons_iff {P : Catalog → Catalog → Prop} :
    (∀ before d after, c :: others = before ++ d :: after → P (before.foldl merge p) d) ↔
      P p c ∧ ∀ before d after, others = before ++ d :: after →
        P (before.foldl merge (p.merge c)) d := by
  refine ⟨fun all => ⟨all [] c others rfl, ?_⟩, ?_⟩
  · rintro before d after rfl
    exact all (c :: before) d after rfl
  · rintro ⟨first, rest⟩ before d after eq
    cases before with
    | nil =>
      obtain ⟨rfl, rfl⟩ := List.cons.inj eq
      exact first
    | cons b before =>
      obtain ⟨rfl, same⟩ := List.cons.inj eq
      exact rest before d after same

/-- A run of merges covers each combination once if and only if the catalog at its start did and no
merge of the run accepts two entries for the same one. -/
theorem coversOnce_foldl_merge_iff : (others.foldl merge p).CoversOnce ↔
    p.CoversOnce ∧ ∀ before c after, others = before ++ c :: after →
      (before.foldl merge p).AcceptsApart c := by
  -- The catalog is general, as every later merge goes into what the earlier ones have made.
  induction others generalizing p with
  | nil =>
    refine ⟨fun once => ⟨once, fun before c after eq => ?_⟩, fun ⟨once, _⟩ => once⟩
    exact absurd eq.symm (List.append_ne_nil_of_right_ne_nil before (List.cons_ne_nil c after))
  | cons d others ih =>
    rw [List.foldl_cons, ih, coversOnce_merge_iff, and_assoc, forall_step_cons_iff]

/-- From a catalog that covers each combination once, a run of merges leads to such a one if and
only if none of its merges accepts two entries of one candidate catalog for the same combination;
and so it always does if each candidate catalog covers each combination once. -/
theorem merges_coverOnce_iff (p : Catalog) (others : List Catalog) (once : p.CoversOnce) :
    ((others.foldl merge p).CoversOnce ↔ ∀ before c after, others = before ++ c :: after →
      (before.foldl merge p).AcceptsApart c) ∧
    ((∀ c ∈ others, c.CoversOnce) → (others.foldl merge p).CoversOnce) := by
  have run : (others.foldl merge p).CoversOnce ↔ _ := coversOnce_foldl_merge_iff
  refine ⟨run.trans (and_iff_right once), fun each => run.2 ⟨once, ?_⟩⟩
  intro before c after eq
  have mem : c ∈ others := eq ▸ List.mem_append_right before List.mem_cons_self
  exact (each c mem).acceptsApart _

/-- An entry for an event in its default variant, in either spelling, told apart by its payload. -/
def defaultEntry (spelling : String) (payload : Bool) : Combination × Entry :=
  (Combination.default "push", ⟨[spelling], Json.Value.bool payload, Json.Object.empty⟩)

/-- Two candidate catalogs with one entry each, of which the second comes too late: its entry is
rejected as covered. -/
theorem merges_coverOnce_spellings : empty.CoversOnce ∧
    ([ofPairs [defaultEntry "default" true], ofPairs [defaultEntry "" false]].foldl merge
      empty).CoversOnce := by
  refine ⟨coversOnce_empty, (merges_coverOnce_iff empty _ coversOnce_empty).2 ?_⟩
  have single : ∀ pair, (ofPairs [pair]).CoversOnce := by
    intro pair x
    rw [covering, getD_entries?_ofPairs]
    refine Nat.le_trans (List.length_filter_le _ _) ?_
    rw [List.length_map]
    exact List.length_filter_le _ _
  intro c mem
  rcases List.mem_cons.1 mem with rfl | mem
  · exact single _
  · rw [List.mem_singleton.1 mem]
    exact single _

/-- Two entries of one candidate catalog that cover the same combination are both accepted, since
neither is compared with the other. -/
theorem not_coversOnce_merge_spellings : empty.CoversOnce ∧
    ¬([ofPairs [defaultEntry "default" true, defaultEntry "" false]].foldl merge
      empty).CoversOnce := by
  refine ⟨coversOnce_empty, fun once => ?_⟩
  have two : ((empty.merge (ofPairs [defaultEntry "default" true, defaultEntry "" false])).covering
      (Combination.default "push")).length = 2 := by decide +kernel
  have le : List.length _ ≤ 1 := once (Combination.default "push")
  rw [List.foldl_cons, List.foldl_nil, two] at le
  omega

end TemplateCoverage.Catalog
