import Mathlib.Data.List.Perm.Basic
import TemplateCoverage.Proofs.Files.Order
import TemplateCoverage.Proofs.Run.Repetition

/-!
# `TemplateCoverage.Proofs.Run.Separation`: locales one at a time

A synthesis and a merge plan for all locales before they write for the first one. If the documents
lie apart, nothing that is written for one locale is read or written for another one, so that a run
for one locale after the other plans and writes the same, in whatever order the locales come. The
theorems:

* `WritesPlans.does_mapM_alone`: plans that are made together are carried out one at a time;
* `writesPlans_merge`, `writesPlans_synthesize`: merge and synthesis keep locales apart;
* `locales_independent`: a run for several locales at once comes to the runs for each of them alone.
-/

set_option autoImplicit false

namespace TemplateCoverage.Run

open FileTree (Writes)

variable {π β : Type} {layout : Layout} {locales : List Locale} {t t' : FileTree}

/-! ### Plans that are carried out one at a time -/

/-- A run that makes a plan for each locale from the files at the start and then writes the
documents of the plans. A plan of one locale is also carried out by a run for this locale alone, and
stays good when the documents of another locale are written. -/
structure WritesPlans (layout : Layout) (run : List Locale → Attempt RunError (List β))
    (locale : π → Locale) (documents : π → List (String × String)) (record : π → β)
    (IsReady : FileTree → π → Prop) : Prop where
  planned : ∀ {locales t results t'}, Does (run locales) t results t' →
    ∃ plans : List π, plans.map locale = locales ∧ (∀ p ∈ plans, IsReady t p) ∧
      Writes (plans.flatMap documents) t t' ∧ results = plans.map record
  alone : ∀ {p t t'}, IsReady t p → Writes (documents p) t t' →
    Does (run [locale p]) t [record p] t'
  apart : ∀ {p q t}, layout.Apart t → locale p ≠ locale q →
    ∀ v ∈ documents p, ∀ w ∈ documents q, t.target v.1 ≠ t.target w.1
  single : ∀ p, (documents p).length ≤ 1
  kept : ∀ {p q t t'}, layout.Apart t → locale p ≠ locale q → IsReady t p →
    Writes (documents q) t t' → IsReady t' p

section

variable {run : List Locale → Attempt RunError (List β)} {locale : π → Locale}
  {documents : π → List (String × String)} {record : π → β} {IsReady : FileTree → π → Prop}
  (writing : WritesPlans layout run locale documents record IsReady) {plans : List π}
include writing

/-- Plans that are made from the same files can be carried out one after the other, by runs for one
locale each. That the locales are distinct is needed: a plan need not stay good when its own
documents are written. -/
theorem WritesPlans.does_mapM_alone (apart : layout.Apart t) (distinct : (plans.map locale).Nodup)
    (ready : ∀ p ∈ plans, IsReady t p) (writes : Writes (plans.flatMap documents) t t') :
    Does ((plans.map locale).mapM fun l => run [l]) t (plans.map fun p => [record p]) t' := by
  induction plans generalizing t with
  | nil => exact does_pure_iff.2 ⟨rfl, writes⟩
  | cons p plans ih =>
    rw [List.flatMap_cons, FileTree.writes_append_iff] at writes
    obtain ⟨t₁, mine, others⟩ := writes
    obtain ⟨first, rest⟩ := List.forall_mem_cons.1 ready
    rw [List.map_cons, List.nodup_cons] at distinct
    -- What is written for the first locale leaves the plans of the others good.
    have ready₁ : ∀ q ∈ plans, IsReady t₁ q := fun q mem =>
      writing.kept apart (fun same => distinct.1 (same ▸ List.mem_map_of_mem mem)) (rest q mem) mine
    exact does_mapM_cons_iff.2 ⟨_, t₁, _, writing.alone first mine,
      ih (Layout.apart_of_writes apart mine) distinct.2 ready₁ others, rfl⟩

/-- The documents of different locales are at different places, so that it does not matter in which
order they are written. -/
theorem WritesPlans.nodup_targets (apart : layout.Apart t) (distinct : (plans.map locale).Nodup) :
    ((plans.flatMap documents).map (t.target ·.1)).Nodup := by
  refine List.pairwise_map.2 (List.pairwise_flatMap.2 ⟨fun p _ => ?_, ?_⟩)
  · match docs : documents p, writing.single p with
    | [], _ => exact .nil
    | [w], _ => exact List.pairwise_singleton _ w
  · exact (List.pairwise_map.1 distinct).imp fun ne => writing.apart apart ne

end

/-- A list with the keys of another one in another order is had by ordering that one. It turns an
order of locales into an order of plans. -/
theorem exists_perm_of_perm_map {α κ : Type} {key : α → κ} {as : List α} {order : List κ}
    (perm : order.Perm (as.map key)) : ∃ as' : List α, as'.Perm as ∧ as'.map key = order := by
  have each : List.Forall₂ (fun k a => k = key a) (as.map key) as := by
    rw [← List.forall₂_map_right_iff, List.forall₂_eq_eq_eq]
  obtain ⟨as', each', perm'⟩ := List.perm_comp_forall₂ perm each
  rw [← List.forall₂_map_right_iff, List.forall₂_eq_eq_eq] at each'
  exact ⟨as', perm', each'.symm⟩

/-! ### Runs for several locales at once -/

/-- Whenever a run for several locales at once succeeds, it reports on each of them, and runs for
one of them at a time succeed in any order, leave the same files, and report the same on each
locale. -/
def Separates (run : List Locale → Attempt RunError (List β)) (localeOf : β → Locale)
    (locales : List Locale) (m : Machine) : Prop :=
  ∀ results m₁, (run locales).run.run m = (.ok results, m₁) →
    results.map localeOf = locales ∧ ∀ order : List Locale, order.Perm locales →
      ∃ alone m₂, (order.mapM fun l => run [l]).run.run m = (.ok alone, m₂) ∧
        m₂.files = m₁.files ∧
        List.Forall₂ (fun l reports => ∃ r ∈ results, localeOf r = l ∧ reports = [r]) order alone

/-- A run that makes plans and then writes them keeps locales apart, where the documents of the
layout lie apart and no locale comes twice. -/
theorem WritesPlans.separates {run : List Locale → Attempt RunError (List β)} {locale : π → Locale}
    {documents : π → List (String × String)} {record : π → β} {IsReady : FileTree → π → Prop}
    {m : Machine} (writing : WritesPlans layout run locale documents record IsReady)
    {localeOf : β → Locale} (records : ∀ p, localeOf (record p) = locale p)
    (apart : layout.Apart m.files) (distinct : locales.Nodup) :
    Separates run localeOf locales m := by
  intro results m₁ batch
  obtain ⟨plans, rfl, ready, writes, rfl⟩ := writing.planned (Does.of_run batch)
  have reported : (plans.map record).map localeOf = plans.map locale := by
    rw [List.map_map]
    exact List.map_congr_left fun p _ => records p
  refine ⟨reported, fun order perm => ?_⟩
  obtain ⟨plans', perm', rfl⟩ := exists_perm_of_perm_map perm
  have distinct' : (plans'.map locale).Nodup := perm.nodup_iff.2 distinct
  -- The documents are written in another order, which comes to the same.
  have writes' : Writes (plans'.flatMap documents) m.files m₁.files :=
    writes.perm (perm'.symm.flatMap_right documents) (writing.nodup_targets apart distinct)
  have does := writing.does_mapM_alone apart distinct' (fun p mem => ready p (perm'.mem_iff.1 mem))
    writes'
  obtain ⟨m₂, alone, files⟩ := does.exists_run rfl
  refine ⟨_, m₂, alone, files, ?_⟩
  rw [List.forall₂_map_left_iff, List.forall₂_map_right_iff, List.forall₂_same]
  exact fun p mem => ⟨record p, List.mem_map_of_mem (perm'.mem_iff.1 mem), records p, rfl⟩

/-! ### Merge and synthesis -/

/-- What is loaded for a merge of one locale stays when the catalog of another one is written:
candidates are never written by a merge, and the catalogs are in different places. -/
theorem IsLoaded.of_merge {p q : PlannedMerge} (loaded : IsLoaded layout t p)
    (apart : layout.Apart t) (ne : p.locale ≠ q.locale)
    (writes : Writes [mergedDocument layout q] t t') : IsLoaded layout t' p := by
  have mapped : Writes ([q].map (mergedDocument layout)) t t' := writes
  refine ⟨loaded.1.of_read_imp fun text read => writes.read_of_ne (fun w mem same => ?_) read,
    candidates_of_merge apart mapped loaded.2⟩
  obtain rfl := List.mem_singleton.1 mem
  exact ne (apart.catalog_inj same)

/-- A merge plans by loading both documents of a locale, and writes one document for each plan. -/
theorem writesPlans_merge (layout : Layout) : WritesPlans layout (merge layout)
    PlannedMerge.locale (fun q => [mergedDocument layout q]) (mergeOf layout)
    (IsLoaded layout) where
  planned does := by
    obtain ⟨plans, keys, loaded, writes, rfl⟩ := does_merge_iff.1 does
    rw [List.map_eq_flatMap] at writes
    exact ⟨plans, keys, loaded, writes, rfl⟩
  alone {p} _ _ loaded writes :=
    does_merge_iff.2 ⟨[p], rfl, List.forall_mem_singleton.2 loaded, writes, rfl⟩
  apart apart ne v memV w memW same := by
    obtain rfl := List.mem_singleton.1 memV
    obtain rfl := List.mem_singleton.1 memW
    exact ne (apart.catalog_inj same)
  single _ := Nat.le_refl 1
  kept apart ne loaded writes := loaded.of_merge apart ne writes

/-- The document of a plan, if there is one, is at the path of the locale's candidates. -/
theorem eq_of_mem_candidateDocuments {p : Locale × Catalog} {w : String × String}
    (mem : w ∈ candidateDocuments layout p) : w.1 = (layout.paths p.1).candidates := by
  unfold candidateDocuments at mem
  split at mem
  · exact absurd mem List.not_mem_nil
  · rw [List.mem_singleton.1 mem]
    rfl

/-- A synthesis plans by making candidates, and writes one document for each plan that has some. A
plan is ready if the taxonomy and the catalog it was made from are those on files. -/
theorem writesPlans_synthesize (make : Synthesizer) (layout : Layout) :
    WritesPlans layout (synthesize make layout) Prod.fst (candidateDocuments layout)
      (synthesisOf layout) fun t p => ∃ taxonomy, HoldsTaxonomy t layout.taxonomy taxonomy ∧
        IsPlanned make layout taxonomy t p where
  planned does := by
    obtain ⟨taxonomy, plans, holds, keys, each, writes, rfl⟩ := does_synthesize_iff.1 does
    exact ⟨plans, keys, fun p mem => ⟨taxonomy, holds, each p mem⟩, writes, rfl⟩
  alone {p} _ _ := by
    rintro ⟨taxonomy, holds, plan⟩ writes
    refine does_synthesize_iff.2 ⟨taxonomy, [p], holds, rfl, List.forall_mem_singleton.2 plan, ?_,
      rfl⟩
    rwa [List.flatMap_singleton]
  apart apart ne v memV w memW same := by
    rw [eq_of_mem_candidateDocuments memV, eq_of_mem_candidateDocuments memW] at same
    exact ne (apart.candidates_inj same)
  single p := by
    unfold candidateDocuments
    split <;> simp
  kept {_ q} _ _ := by
    -- Neither the taxonomy nor a catalog is written, also not for the same locale.
    rintro apart - ⟨taxonomy, holds, old, held, made⟩ writes
    rw [← List.flatMap_singleton (candidateDocuments layout) q] at writes
    exact ⟨taxonomy, taxonomy_of_synthesis apart writes holds, old,
      catalog_of_synthesis apart writes held, made⟩

/-- Where the documents of a layout lie apart, a merge and a synthesis of distinct locales, whatever
the synthesizer, come to the same as runs for one locale at a time in any order. -/
theorem locales_independent {m : Machine} (apart : layout.Apart m.files)
    (distinct : locales.Nodup) :
    Separates (merge layout) LocaleMerge.locale locales m ∧
      ∀ make, Separates (synthesize make layout) LocaleSynthesis.locale locales m :=
  ⟨(writesPlans_merge layout).separates (fun _ => rfl) apart distinct, fun make =>
    (writesPlans_synthesize make layout).separates (fun _ => rfl) apart distinct⟩

/-- The sample can be merged, and candidates be made for it, for the Chinese and then for the
English locale alone, which leaves the files as a run for both at once. -/
theorem locales_independent_sample :
    (∃ merged m₁ alone m₂,
      (merge sampleLayout Locale.all).run.run ⟨sampleFiles', none, []⟩ = (.ok merged, m₁) ∧
      (Locale.all.reverse.mapM fun l => merge sampleLayout [l]).run.run ⟨sampleFiles', none, []⟩ =
        (.ok alone, m₂) ∧
      m₂.files = m₁.files) ∧
    ∃ made m₁ alone m₂,
      (synthesize Card.entry sampleLayout Locale.all).run.run ⟨sampleFiles', none, []⟩ =
        (.ok made, m₁) ∧
      (Locale.all.reverse.mapM fun l => synthesize Card.entry sampleLayout [l]).run.run
        ⟨sampleFiles', none, []⟩ = (.ok alone, m₂) ∧
      m₂.files = m₁.files := by
  obtain ⟨separateMerge, separateSynthesis⟩ :=
    locales_independent (m := ⟨sampleFiles', none, []⟩) apart_sample' (by decide : Locale.all.Nodup)
  refine ⟨?_, ?_⟩
  · obtain ⟨_, _, merges⟩ := exists_does_merge_sample
    obtain ⟨m₁, merged, _⟩ := merges.exists_run (m := ⟨sampleFiles', none, []⟩) rfl
    obtain ⟨alone, m₂, ran, files, _⟩ :=
      (separateMerge _ m₁ merged).2 Locale.all.reverse (List.reverse_perm _)
    exact ⟨_, m₁, alone, m₂, merged, ran, files⟩
  · have plans : ∀ p ∈ samplePlanned,
        IsPlanned Card.entry sampleLayout sampleTaxonomy sampleFiles' p := by
      intro p mem
      obtain ⟨l, inAll, rfl⟩ := List.mem_map.1 mem
      exact ⟨_, (isLoaded_sample _ (List.mem_map_of_mem inAll)).1, candidates_sample l⟩
    have writes : Writes (samplePlanned.flatMap (candidateDocuments sampleLayout)) sampleFiles' _ :=
      FileTree.writes_singleton_iff.2 ((isPlain_sample (by decide)).write (by decide) _)
    have synthesizes := does_synthesize_iff.2 ⟨sampleTaxonomy, samplePlanned,
      taxonomy_of_synthesis apart_sample writes_sample holds_sampleTaxonomy, rfl, plans, writes,
      rfl⟩
    obtain ⟨m₁, made, _⟩ := synthesizes.exists_run (m := ⟨sampleFiles', none, []⟩) rfl
    obtain ⟨alone, m₂, ran, files, _⟩ :=
      (separateSynthesis Card.entry _ m₁ made).2 Locale.all.reverse (List.reverse_perm _)
    exact ⟨_, m₁, alone, m₂, made, ran, files⟩

end TemplateCoverage.Run
