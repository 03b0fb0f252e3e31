import TemplateCoverage.Proofs.Run.Repetition

/-!
# `TemplateCoverage.Proofs.Run.Precedence`: which of several failures is reported

Every run takes steps in an order that its locales fix: it loads documents, makes candidates and
saves documents, and stops at the first step that fails. Whether a step fails is said here of the
files at the start of the run alone, since nothing is written before everything has been loaded; for
a save it also matters what the saves before it write. The theorems:

* `FailsLike.bind`, `failsLike_mapM_of_reads`, `failsLike_saves`: attempts in steps fail at the
  first one that does;
* `failsLike_analyze`, `failsLike_synthesize`, `failsLike_merge`, `failsLike_compare`: the steps of
  each run;
* `blames_of_failsWith`: the error of a step names its document and what became of it;
* `runs_fail_first`: a run fails if and only if one of its steps does, with the error of the first.
-/

set_option autoImplicit false

namespace TemplateCoverage

/-- A text has been read and found wanting. The other defects are those of files that no text could
be read from, or written to. -/
def Defect.IsRejection : Defect → Prop
  | .missing | .inaccessible _ => False
  | .notJson _ | .notYaml _ | .misshaped _ => True

namespace Document

/-- The taxonomy reader answers with rejections only: it is given a text, and does not look for a
file. -/
theorem isRejection_of_readTaxonomy (text : String) (defect : Defect)
    (h : readTaxonomy text = .error defect) : defect.IsRejection := by
  unfold readTaxonomy at h
  split at h <;> cases h
  trivial

/-- The catalog reader answers with rejections only, be it that the text is no JSON or that its
value has another shape. -/
theorem isRejection_of_readCatalog (text : String) (defect : Defect)
    (h : readCatalog text = .error defect) : defect.IsRejection := by
  unfold readCatalog at h
  split at h
  · cases h
    trivial
  · split at h <;> cases h
    trivial

end Document

namespace Run

open FileTree (Writes)

variable {α β ε σ : Type}

/-! ### The first failure -/

/-- The first of several steps that fails does so with an error. The steps before it do not fail
with any error, not just with another one. -/
def FirstFailure (fails : σ → ε → Prop) (steps : List σ) (e : ε) : Prop :=
  ∃ before s after, steps = before ++ s :: after ∧ (∀ b ∈ before, ∀ e', ¬fails b e') ∧ fails s e

section FirstFailure

variable {fails : σ → ε → Prop} {s : σ} {steps steps' : List σ} {e : ε}

/-- Where there are no steps none fails, and so there is no first failure either. -/
theorem not_firstFailure_nil : ¬FirstFailure fails [] e := by
  rintro ⟨before, s, after, eq, -⟩
  simp at eq

/-- The first failure is that of the first step or, if it does not fail, the first one among the
others. The inductions over steps below take their cases from it. -/
theorem firstFailure_cons_iff : FirstFailure fails (s :: steps) e ↔
    fails s e ∨ (∀ e', ¬fails s e') ∧ FirstFailure fails steps e := by
  constructor
  · rintro ⟨before, s', after, eq, fine, failed⟩
    cases before with
    | nil =>
      obtain ⟨rfl, -⟩ := List.cons.inj eq
      exact .inl failed
    | cons b before =>
      obtain ⟨rfl, rfl⟩ := List.cons.inj eq
      obtain ⟨first, fine⟩ := List.forall_mem_cons.1 fine
      exact .inr ⟨first, before, s', after, rfl, fine, failed⟩
  · rintro (failed | ⟨first, before, s', after, rfl, fine, failed⟩)
    · exact ⟨[], s, steps, rfl, by simp, failed⟩
    · exact ⟨s :: before, s', after, rfl, List.forall_mem_cons.2 ⟨first, fine⟩, failed⟩

/-- Some step fails if and only if one is the first to do so. Whether a step fails is not decided by
computation, as it may depend on a synthesizer, so the cases are classical. -/
theorem exists_firstFailure_iff :
    (∃ e, FirstFailure fails steps e) ↔ ∃ s ∈ steps, ∃ e, fails s e := by
  induction steps with
  | nil => simp [not_firstFailure_nil]
  | cons s steps ih =>
    simp only [firstFailure_cons_iff, exists_or, exists_and_left, ih, List.mem_cons,
      exists_eq_or_imp]
    constructor
    · rintro (here | ⟨-, later⟩)
      · exact .inl here
      · exact .inr later
    · rintro (here | later)
      · exact .inl here
      · by_cases here : ∃ e, fails s e
        · exact .inl here
        · exact .inr ⟨not_exists.1 here, later⟩

/-- The first failure of steps in two groups is that of the first group or, if none of these fails,
that of the second one. -/
theorem firstFailure_append_iff : FirstFailure fails (steps ++ steps') e ↔
    FirstFailure fails steps e ∨
      (∀ e', ¬FirstFailure fails steps e') ∧ FirstFailure fails steps' e := by
  induction steps with
  | nil => simp [not_firstFailure_nil]
  | cons s steps ih =>
    rw [List.cons_append]
    simp only [firstFailure_cons_iff, ih]
    by_cases fine : ∀ e', ¬fails s e'
    · simp only [fine, not_false_eq_true, implies_true, true_and, false_or]
    · -- The failure of the first step hides all others.
      simp only [fine, false_and, or_false]

end FirstFailure

/-! ### Attempts in steps -/

/-- From the files `t` an attempt fails as the first of several steps does. The steps are told of
`t` alone, although the attempt may change files before it fails. -/
def FailsLike (fails : σ → ε → Prop) (steps : List σ) (a : Attempt ε α) (t : FileTree) : Prop :=
  ∀ e, (∃ t', Fails a t e t') ↔ FirstFailure fails steps e

section FailsLike

variable {fails : σ → ε → Prop} {s : σ} {steps steps' : List σ} {a : Attempt ε α} {t : FileTree}

/-- An attempt that fails as one step does has this step only, in whatever run it is. -/
theorem failsLike_singleton (same : ∀ e, (∃ t', Fails a t e t') ↔ fails s e) :
    FailsLike fails [s] a t := by
  intro e
  rw [same, firstFailure_cons_iff]
  simp only [not_firstFailure_nil, and_false, or_false]

/-- An attempt that never fails has no steps, as telling what was found. -/
theorem failsLike_nil (sound : ∀ e t', ¬Fails a t e t') : FailsLike fails [] a t := by
  intro e
  simp only [sound, exists_false, not_firstFailure_nil]

/-- An attempt at nothing has no steps, so that the end of a run adds none. -/
theorem failsLike_pure (x : α) : FailsLike fails [] (pure x : Attempt ε α) t :=
  failsLike_nil fun _ _ => not_fails_pure

/-- Two attempts fail as the steps of the first one and, after its success, those of the second one
do. The steps of the second one must be the same whatever the first one succeeds with. -/
theorem FailsLike.bind {f : α → Attempt ε β} (first : FailsLike fails steps a t)
    (second : ∀ x t₁, Does a t x t₁ → FailsLike fails steps' (f x) t₁) :
    FailsLike fails (steps ++ steps') (a >>= f) t := by
  intro e
  rw [firstFailure_append_iff, ← first e]
  constructor
  · rintro ⟨t', failed⟩
    rcases fails_bind_iff.1 failed with failed | ⟨x, t₁, does, failed⟩
    · exact .inl ⟨t', failed⟩
    · refine .inr ⟨fun e' failed' => ?_, (second x t₁ does e).1 ⟨t', failed⟩⟩
      obtain ⟨t₂, failed'⟩ := (first e').2 failed'
      exact failed'.not_does does
  · rintro (⟨t', failed⟩ | ⟨fine, failed⟩)
    · exact ⟨t', fails_bind_iff.2 (.inl failed)⟩
    · -- The steps of the first attempt do not fail, so that it succeeds and the second one is
      -- reached.
      rcases does_or_fails a t with ⟨x, t₁, does⟩ | ⟨e', t₁, failed'⟩
      · obtain ⟨t', failed⟩ := (second x t₁ does e).2 failed
        exact ⟨t', fails_bind_iff.2 (.inr ⟨x, t₁, does, failed⟩)⟩
      · exact (fine e' ((first e').1 ⟨t₁, failed'⟩)).elim

/-- What cannot fail after an attempt adds no step; notes and results come in here. -/
theorem FailsLike.bind_nil {f : α → Attempt ε β} (first : FailsLike fails steps a t)
    (second : ∀ x t₁, Does a t x t₁ → FailsLike fails [] (f x) t₁) :
    FailsLike fails steps (a >>= f) t :=
  steps.append_nil ▸ first.bind second

/-- Attempts for the items of a list have the steps of the first item and then those of the others.
-/
theorem FailsLike.mapM_cons {f : α → Attempt ε β} {i : α} {is : List α}
    (first : FailsLike fails steps (f i) t)
    (others : ∀ y t₁, Does (f i) t y t₁ → FailsLike fails steps' (is.mapM f) t₁) :
    FailsLike fails (steps ++ steps') ((i :: is).mapM f) t := by
  rw [List.mapM_cons]
  exact first.bind fun y t₁ does =>
    (others y t₁ does).bind_nil fun ys _ _ => failsLike_pure (y :: ys)

/-- Attempts for the items of a list that change no file fail as the steps of all items do. Each
item finds the files at the start, so that its steps can be told of them. -/
theorem failsLike_mapM_of_reads {f : α → Attempt ε β} {stepsOf : α → List σ}
    (reads : ∀ i y t', Does (f i) t y t' → t' = t)
    (each : ∀ i, FailsLike fails (stepsOf i) (f i) t) (is : List α) :
    FailsLike fails (is.flatMap stepsOf) (is.mapM f) t := by
  induction is with
  | nil => exact failsLike_pure []
  | cons i is ih =>
    refine (each i).mapM_cons fun y t₁ does => ?_
    -- The others start from the same files as the first item.
    obtain rfl := reads i y t₁ does
    exact ih

end FailsLike

/-- A run has the steps of its body, as what is told to the log cannot fail. -/
theorem FailsLike.logged {fails : σ → RunError → Prop} {steps : List σ} {operation : Operation}
    {body : Attempt RunError α} {t : FileTree} (like : FailsLike fails steps body t) :
    FailsLike fails steps (logged operation body) t := by
  intro e
  simp only [fails_logged_iff]
  exact like e

/-! ### The steps of the runs -/

/-- A step of a run that may fail. A save knows the locales whose documents are saved before its
own, since these may be in its way. -/
inductive Step where
  /-- Loading the taxonomy. -/
  | taxonomy
  /-- Loading a locale's catalog. -/
  | catalog (locale : Locale)
  /-- Loading a locale's candidates. -/
  | candidates (locale : Locale)
  /-- Making candidates for what a locale's catalog misses. -/
  | synthesis (locale : Locale)
  /-- Saving a locale's candidates after those of earlier locales. -/
  | saveCandidates (earlier : List Locale) (locale : Locale)
  /-- Saving a locale's merged catalog after those of earlier locales. -/
  | saveCatalog (earlier : List Locale) (locale : Locale)

/-- The error of a text that a file does not take, with the fault of the write. -/
def IsUnwritten (t : FileTree) (w : String × String) (e : RunError) : Prop :=
  ∃ fault t', t.write w.1 w.2 = (.error fault, t') ∧ e = .document ⟨w.1, .inaccessible fault⟩

/-- All documents that are to be merged are loaded from the files as they are. It is the state of a
merge right before its first write. -/
def AreLoaded (layout : Layout) (locales : List Locale) (t : FileTree)
    (planned : List PlannedMerge) : Prop :=
  planned.map (·.locale) = locales ∧ ∀ p ∈ planned, IsLoaded layout t p

/-- A step fails with an error in a run that finds the files `t`. A save is told by what is planned
from `t` and what the saves before it make of `t`. -/
def Step.FailsWith (make : Synthesizer) (layout : Layout) (t : FileTree) :
    Step → RunError → Prop
  | .taxonomy, e => IsUnread Document.readTaxonomy t layout.taxonomy e
  | .catalog l, e => IsUnreadCatalog t (layout.paths l).catalog e
  | .candidates l, e => IsUnreadCatalog t (layout.paths l).candidates e
  | .synthesis l, e => ∃ taxonomy c why, HoldsTaxonomy t layout.taxonomy taxonomy ∧
      HoldsCatalog t (layout.paths l).catalog c ∧
      Synthesis.candidates make (taxonomy.expected.diff c.combinations) l = .error why ∧
      e = .refused l why
  | .saveCandidates earlier l, e => ∃ planned p t₁,
      ArePlanned make layout (earlier ++ [l]) t (planned ++ [p]) ∧
      Writes (planned.flatMap (candidateDocuments layout)) t t₁ ∧
      p.2.isEmpty = false ∧ IsUnwritten t₁ (candidateDocument layout p) e
  | .saveCatalog earlier l, e => ∃ planned p t₁,
      AreLoaded layout (earlier ++ [l]) t (planned ++ [p]) ∧
      Writes (planned.map (mergedDocument layout)) t t₁ ∧
      IsUnwritten t₁ (mergedDocument layout p) e

/-- The steps that save something for each of several locales, each with those before it, which grow
by one locale from step to step. -/
def saves (step : List Locale → Locale → Step) (earlier : List Locale) : List Locale → List Step
  | [] => []
  | l :: ls => step earlier l :: saves step (earlier ++ [l]) ls

/-- The steps of an analysis: the taxonomy comes first, and then the catalogs in the order of the
locales. -/
def analysisSteps (locales : List Locale) : List Step := .taxonomy :: locales.map .catalog

/-- The steps of a synthesis: the taxonomy, then a catalog and its candidates locale by locale, and
last all saves. -/
def synthesisSteps (locales : List Locale) : List Step :=
  .taxonomy :: locales.flatMap (fun l => [.catalog l, .synthesis l]) ++
    saves .saveCandidates [] locales

/-- The steps of a merge: catalog and candidates locale by locale, and then all saves. There is no
taxonomy among them. -/
def mergeSteps (locales : List Locale) : List Step :=
  locales.flatMap (fun l => [.catalog l, .candidates l]) ++ saves .saveCatalog [] locales

/-- The steps of a comparison: the two catalogs, the primary one first. It neither needs the
taxonomy nor saves anything. -/
def comparisonSteps (primary secondary : Locale) : List Step :=
  [.catalog primary, .catalog secondary]

section Runs

variable {make : Synthesizer} {layout : Layout} {locales : List Locale} {t : FileTree}

/-! ### Loading and planning -/

/-- Loading is one step, whichever document it is for. The hypothesis says which step it is. -/
theorem failsLike_load {decode : String → Except Defect α} {kind : DocumentKind}
    {sizes : α → Nat × Nat} {path : String} {s : Step}
    (same : ∀ e, IsUnread decode t path e ↔ s.FailsWith make layout t e) :
    FailsLike (Step.FailsWith make layout t) [s]
      (document (ExceptT.mk (load kind decode sizes path))) t := by
  refine failsLike_singleton fun e => ?_
  simp only [fails_load_iff, exists_and_left, exists_eq, and_true, same]

/-- Loading the taxonomy is the step of the taxonomy, be it missing or malformed. -/
theorem failsLike_loadTaxonomy : FailsLike (Step.FailsWith make layout t) [.taxonomy]
    (document (loadTaxonomy layout.taxonomy)) t :=
  failsLike_load fun _ => Iff.rfl

/-- Loading a locale's catalog is the step of this catalog, and the error names its path. -/
theorem failsLike_loadCatalog (l : Locale) : FailsLike (Step.FailsWith make layout t) [.catalog l]
    (document (loadCatalog (layout.paths l).catalog)) t :=
  failsLike_load fun _ => Iff.rfl

/-- Loading a locale's candidates is the step of these candidates, and the error names their path.
-/
theorem failsLike_loadCandidates (l : Locale) :
    FailsLike (Step.FailsWith make layout t) [.candidates l]
      (document (loadCatalog (layout.paths l).candidates)) t :=
  failsLike_load fun _ => Iff.rfl

/-- Measuring a locale fails as loading its catalog does; what comes after the load is a
computation. -/
theorem failsLike_measure {expected : SortedSet Combination} (l : Locale) :
    FailsLike (Step.FailsWith make layout t) [.catalog l] (measure layout expected l) t := by
  refine (failsLike_loadCatalog l).bind_nil fun c t₁ _ => ?_
  exact failsLike_nil fun e t' failed => by
    rcases fails_bind_iff.1 failed with told | ⟨_, _, _, last⟩
    · exact told.not_does (x := ()) (does_note_iff.2 rfl)
    · exact not_fails_pure last

/-- Planning fails as loading the catalog and then making the candidates do. The second step is told
of a taxonomy on files, hence the hypothesis. -/
theorem failsLike_plan {taxonomy : Taxonomy} (holds : HoldsTaxonomy t layout.taxonomy taxonomy)
    (l : Locale) : FailsLike (Step.FailsWith make layout t) [.catalog l, .synthesis l]
      (plan make layout taxonomy.expected l) t := by
  refine (failsLike_loadCatalog l).bind fun c t₁ loaded => ?_
  obtain ⟨held, rfl⟩ := does_loadCatalog_iff.1 loaded
  refine failsLike_singleton fun e => ?_
  have missing : (Coverage.measure taxonomy.expected c.combinations).missing =
    taxonomy.expected.diff c.combinations := rfl
  rw [missing]
  constructor
  · rintro ⟨t', failed⟩
    rcases fails_bind_iff.1 failed with told | ⟨_, t₂, noted, failed⟩
    · exact (not_fails_notes told).elim
    · split at failed
      · exact (not_fails_pure failed).elim
      · rename_i why refused
        cases failed
        exact ⟨taxonomy, c, why, holds, held, refused, rfl⟩
  · rintro ⟨taxonomy', c', why, holds', held', refused, rfl⟩
    -- The step finds its own documents in the files, and they are those that have been loaded.
    obtain rfl := holds.unique holds'
    obtain rfl := held.unique held'
    refine ⟨t₁, fails_bind_iff.2 (.inr ⟨(), t₁, does_notes_iff.2 rfl, ?_⟩)⟩
    rw [refused]
    rfl

/-- Loading for a merge fails as loading the catalog and then the candidates do. The notes behind
them add no step. -/
theorem failsLike_planMerge (l : Locale) :
    FailsLike (Step.FailsWith make layout t) [.catalog l, .candidates l]
      (planMerge layout l) t := by
  refine (failsLike_loadCatalog l).bind fun p t₁ loaded => ?_
  obtain ⟨_, rfl⟩ := does_loadCatalog_iff.1 loaded
  refine (failsLike_loadCandidates l).bind_nil fun c t₂ _ => ?_
  exact failsLike_nil fun e t' failed => by
    rcases fails_bind_iff.1 failed with told | ⟨_, _, _, last⟩
    · exact not_fails_notes told
    · exact not_fails_pure last

/-! ### Saving -/

/-- Locales are planned in one way, as files hold one document at most and a synthesizer gives one
answer. -/
theorem ArePlanned.unique {planned planned' : List (Locale × Catalog)}
    (are : ArePlanned make layout locales t planned)
    (are' : ArePlanned make layout locales t planned') : planned = planned' := by
  obtain ⟨taxonomy, holds, keys, each⟩ := are
  obtain ⟨taxonomy', holds', keys', each'⟩ := are'
  obtain rfl := holds.unique holds'
  refine (eq_map_of_map_eq_map (f := id) (keys.trans keys'.symm) ?_).trans planned'.map_id
  rintro ⟨l, c⟩ mem ⟨l', c'⟩ mem' rfl
  obtain ⟨p, held, made⟩ := each _ mem
  obtain ⟨p', held', made'⟩ := each' _ mem'
  obtain rfl := held.unique held'
  rw [made] at made'
  cases made'
  rfl

/-- Documents are loaded for a merge in one way, as files hold one document at most. -/
theorem AreLoaded.unique {planned planned' : List PlannedMerge}
    (are : AreLoaded layout locales t planned) (are' : AreLoaded layout locales t planned') :
    planned = planned' := by
  refine (eq_map_of_map_eq_map (f := id) (are.1.trans are'.1.symm) ?_).trans planned'.map_id
  rintro ⟨l, p, c⟩ mem ⟨l', p', c'⟩ mem' rfl
  obtain rfl := (are.2 _ mem).1.unique (are'.2 _ mem').1
  obtain rfl := (are.2 _ mem).2.unique (are'.2 _ mem').2
  rfl

/-- Saving fails as saving for one locale after the others does. It is stated for any kind of
document, since candidates and merged catalogs are saved alike. -/
theorem failsLike_saves {γ : Type} {f : γ → Attempt RunError β} {key : γ → Locale}
    {step : List Locale → Locale → Step} {fails : Step → RunError → Prop} {all : List γ}
    (documents : γ → List (String × String))
    (writes : ∀ p s y s', Does (f p) s y s' → Writes (documents p) s s')
    (each : ∀ done p later s, all = done ++ p :: later → Writes (done.flatMap documents) t s →
      FailsLike fails [step (done.map key) (key p)] (f p) s) :
    FailsLike fails (saves step [] (all.map key)) (all.mapM f) t := by
  -- The induction is on what is still to be saved, from the files after what has been.
  suffices general : ∀ (later done : List γ) (s : FileTree), all = done ++ later →
      Writes (done.flatMap documents) t s →
      FailsLike fails (saves step (done.map key) (later.map key)) (later.mapM f) s from
    general all [] t rfl rfl
  intro later
  induction later with
  | nil => exact fun done s _ _ => failsLike_pure []
  | cons p later ih =>
    intro done s eq written
    refine (each done p later s eq written).mapM_cons fun y s' does => ?_
    have written' : Writes ((done ++ [p]).flatMap documents) t s' := by
      rw [List.flatMap_append, FileTree.writes_append_iff, List.flatMap_singleton]
      exact ⟨s, written, writes p s y s' does⟩
    have others := ih (done ++ [p]) s' (by rw [eq, List.append_assoc]; rfl) written'
    rwa [List.map_append] at others

/-- What is planned up to one locale is what would be planned for the locales up to this one. -/
theorem ArePlanned.prefix {planned done later : List (Locale × Catalog)} {p : Locale × Catalog}
    (are : ArePlanned make layout locales t planned) (eq : planned = done ++ p :: later) :
    ArePlanned make layout (done.map (·.1) ++ [p.1]) t (done ++ [p]) := by
  obtain ⟨taxonomy, holds, _, each⟩ := are
  refine ⟨taxonomy, holds, List.map_append, fun q mem => each q ?_⟩
  -- The plans behind the locale are dropped.
  rw [eq, List.append_cons]
  exact List.mem_append_left later mem

/-- The candidates of planned locales are saved as their steps are taken, in the order of the
locales. -/
theorem failsLike_keeps {planned : List (Locale × Catalog)}
    (are : ArePlanned make layout locales t planned) :
    FailsLike (Step.FailsWith make layout t) (saves .saveCandidates [] locales)
      (planned.mapM (keep layout)) t := by
  obtain rfl : planned.map (·.1) = locales := are.choose_spec.2.1
  refine failsLike_saves (candidateDocuments layout)
    (fun p s y s' does => (does_keep_iff.1 does).1) fun done p later s eq written => ?_
  refine failsLike_singleton fun e => ?_
  simp only [fails_keep_iff]
  have planned := are.prefix eq
  constructor
  · rintro ⟨s', some, fault, unwritten, rfl⟩
    exact ⟨done, p, s, planned, written, some, fault, s', unwritten, rfl⟩
  · rintro ⟨done', p', s₁, planned', written', some, fault, s', unwritten, rfl⟩
    -- What the step plans is what has been planned, so that it is at the same files too.
    obtain ⟨rfl, eq⟩ := List.append_inj' (planned.unique planned') rfl
    cases eq
    obtain rfl := written.unique written'
    exact ⟨s', some, fault, unwritten, rfl⟩

/-- Saving a merge fails if its text is not written. The files are those that the write left, also
if it made directories. -/
theorem fails_keepMerge_iff {t' : FileTree} {e : RunError} {planned : PlannedMerge} :
    Fails (keepMerge layout planned) t e t' ↔ ∃ fault,
      t.write (mergedDocument layout planned).1 (mergedDocument layout planned).2 =
        (.error fault, t') ∧
      e = .document ⟨(mergedDocument layout planned).1, .inaccessible fault⟩ := by
  unfold keepMerge mergedDocument
  rw [fails_bind_iff]
  constructor
  · rintro (unsaved | ⟨_, _, _, rest⟩)
    · exact fails_save_iff.1 unsaved
    · rcases fails_bind_iff.1 rest with told | ⟨_, _, _, last⟩
      · exact (told.not_does (x := ()) (does_note_iff.2 rfl)).elim
      · exact (not_fails_pure last).elim
  · -- Only the save can fail; the note behind it cannot.
    exact fun unsaved => .inl (fails_save_iff.2 unsaved)

/-- The catalogs that have been merged are saved as their steps are taken, in the order of the
locales. -/
theorem failsLike_keepMerges {planned : List PlannedMerge}
    (are : AreLoaded layout locales t planned) :
    FailsLike (Step.FailsWith make layout t) (saves .saveCatalog [] locales)
      (planned.mapM (keepMerge layout)) t := by
  obtain ⟨rfl, loaded⟩ := are
  refine failsLike_saves (fun p => [mergedDocument layout p])
    (fun p s y s' does => (does_keepMerge_iff.1 does).1) fun done p later s eq written => ?_
  refine failsLike_singleton fun e => ?_
  simp only [fails_keepMerge_iff]
  rw [← List.map_eq_flatMap] at written
  have planned : AreLoaded layout (done.map (·.locale) ++ [p.locale]) t (done ++ [p]) := by
    refine ⟨List.map_append, fun q mem => loaded q ?_⟩
    rw [eq, List.append_cons]
    exact List.mem_append_left later mem
  constructor
  · rintro ⟨s', fault, unwritten, rfl⟩
    exact ⟨done, p, s, planned, written, fault, s', unwritten, rfl⟩
  · rintro ⟨done', p', s₁, planned', written', fault, s', unwritten, rfl⟩
    -- What the step loads is what has been loaded, so that it is at the same files too.
    obtain ⟨rfl, eq⟩ := List.append_inj' (planned.unique planned') rfl
    cases eq
    obtain rfl := written.unique written'
    exact ⟨s', fault, unwritten, rfl⟩

/-! ### The runs -/

/-- An analysis fails as the first of its steps does. The synthesizer is only there because the
steps of all runs are told of one; an analysis has no step for it. -/
theorem failsLike_analyze (make : Synthesizer) (layout : Layout) (locales : List Locale)
    (t : FileTree) : FailsLike (Step.FailsWith make layout t) (analysisSteps locales)
      (analyze layout locales) t := by
  refine FailsLike.logged (failsLike_loadTaxonomy.bind fun taxonomy t₁ loaded => ?_)
  obtain ⟨_, rfl⟩ := does_loadTaxonomy_iff.1 loaded
  rw [List.map_eq_flatMap]
  exact (failsLike_mapM_of_reads (fun l r t' does => (does_measure_iff.1 does).2) failsLike_measure
    locales).bind_nil fun _ _ _ => failsLike_pure _

/-- A synthesis fails as the first of its steps does: all loads and all candidates come before the
first save. -/
theorem failsLike_synthesize (make : Synthesizer) (layout : Layout) (locales : List Locale)
    (t : FileTree) : FailsLike (Step.FailsWith make layout t) (synthesisSteps locales)
      (synthesize make layout locales) t := by
  refine FailsLike.logged (failsLike_loadTaxonomy.bind fun taxonomy t₁ loaded => ?_)
  obtain ⟨holds, rfl⟩ := does_loadTaxonomy_iff.1 loaded
  refine (failsLike_mapM_of_reads (fun l p t' does => (reads_plan l _ p t' does).1)
    (failsLike_plan holds) locales).bind fun planned t₂ plans => ?_
  obtain ⟨rfl, keys, each⟩ := does_mapM_plan_iff.1 plans
  exact failsLike_keeps ⟨taxonomy, holds, keys, each⟩

/-- A merge fails as the first of its steps does. Its saves are steps like others, although no merge
fails at one. -/
theorem failsLike_merge (make : Synthesizer) (layout : Layout) (locales : List Locale)
    (t : FileTree) : FailsLike (Step.FailsWith make layout t) (mergeSteps locales)
      (merge layout locales) t := by
  refine FailsLike.logged ((failsLike_mapM_of_reads
    (fun l p t' does => (reads_planMerge l _ p t' does).1) failsLike_planMerge
    locales).bind fun planned t₁ plans => ?_)
  obtain ⟨rfl, keys, each⟩ := does_mapM_planMerge_iff.1 plans
  exact failsLike_keepMerges ⟨keys, each⟩

/-- A comparison fails as the first of its two loads does. What it finds is no failure. -/
theorem failsLike_compare (make : Synthesizer) (layout : Layout) (primary secondary : Locale)
    (t : FileTree) :
    FailsLike (Step.FailsWith make layout t) (comparisonSteps primary secondary)
      (compare layout primary secondary) t := by
  refine FailsLike.logged ((failsLike_loadCatalog primary).bind fun c t₁ loaded => ?_)
  obtain ⟨_, rfl⟩ := does_loadCatalog_iff.1 loaded
  exact (failsLike_loadCatalog secondary).bind_nil fun _ _ _ => failsLike_pure _

end Runs

/-! ### What an error tells -/

/-- A document is not to be had from a file: its error has its path and tells whether there is no
file, its text was rejected, or the file cannot be read for another reason. The three cases exclude
each other. -/
def IsReadError (decode : String → Except Defect α) (t : FileTree) (path : String) (e : RunError) :
    Prop :=
  ∃ defect, e = .document ⟨path, defect⟩ ∧
    (defect = .missing ↔ t.read path = .error .notFound) ∧
    (defect.IsRejection ↔ ∃ text, t.read path = .ok text ∧ decode text = .error defect) ∧
    ∀ fault, defect = .inaccessible fault ↔ t.read path = .error fault ∧ fault ≠ .notFound

/-- Loading tells these cases apart, for every decoder that answers with rejections only. What the
file system says of the path decides first, and then the decoder. -/
theorem IsUnread.isReadError {decode : String → Except Defect α} {t : FileTree} {path : String}
    {e : RunError} (unread : IsUnread decode t path e)
    (rejects : ∀ text defect, decode text = .error defect → defect.IsRejection) :
    IsReadError decode t path e := by
  obtain ⟨d, failed, rfl⟩ := unread
  cases read : t.read path with
  | error fault =>
    rw [read] at failed
    cases failed
    refine ⟨_, rfl, ?_⟩
    simp only [read, Except.error.injEq, reduceCtorEq, false_and, exists_false, iff_false]
    -- Of all faults of the file system one stands for a missing document.
    by_cases missing : fault = .notFound
    · subst missing
      rw [if_pos rfl]
      refine ⟨by simp, by simp [Defect.IsRejection], fun other => ⟨nofun, ?_⟩⟩
      rintro ⟨rfl, other⟩
      exact (other rfl).elim
    · rw [if_neg missing]
      refine ⟨by simp [missing], by simp [Defect.IsRejection], fun other => ?_⟩
      constructor
      · rintro ⟨rfl⟩
        exact ⟨rfl, missing⟩
      · rintro ⟨rfl, _⟩
        rfl
  | ok text =>
    rw [read] at failed
    cases decoding : decode text with
    | ok document => simp [decoded, decoding] at failed
    | error defect =>
      obtain rfl : ⟨path, defect⟩ = d := by simpa [decoded, decoding] using failed
      have rejected := rejects text defect decoding
      refine ⟨defect, rfl, ?_⟩
      simp only [read, reduceCtorEq, iff_false, Except.ok.injEq, exists_eq_left', decoding,
        iff_true, false_and]
      refine ⟨?_, rejected, ?_⟩
      · rintro rfl
        exact rejected
      · rintro fault rfl
        exact rejected

/-- What the error of a step tells: the document and what became of it, or the locale that the
synthesizer refused. -/
def Step.Blames (layout : Layout) (t : FileTree) : Step → RunError → Prop
  | .taxonomy, e => IsReadError Document.readTaxonomy t layout.taxonomy e
  | .catalog l, e => IsReadError Document.readCatalog t (layout.paths l).catalog e
  | .candidates l, e => IsReadError Document.readCatalog t (layout.paths l).candidates e
  | .synthesis l, e => ∃ why, e = .refused l why
  | .saveCandidates _ l, e => ∃ fault,
      e = .document ⟨(layout.paths l).candidates, .inaccessible fault⟩
  | .saveCatalog _ l, e => ∃ fault, e = .document ⟨(layout.paths l).catalog, .inaccessible fault⟩

/-- The error of a step names its document and what became of it, or the locale of its synthesis. So
a user knows from the error alone which document to look at. -/
theorem blames_of_failsWith {make : Synthesizer} {layout : Layout} {t : FileTree} {s : Step}
    {e : RunError} (fails : s.FailsWith make layout t e) : s.Blames layout t e := by
  cases s with
  | taxonomy => exact fails.isReadError Document.isRejection_of_readTaxonomy
  | catalog l => exact fails.isReadError Document.isRejection_of_readCatalog
  | candidates l => exact fails.isReadError Document.isRejection_of_readCatalog
  | synthesis l =>
    obtain ⟨_, _, why, _, _, _, eq⟩ := fails
    exact ⟨why, eq⟩
  | saveCandidates earlier l =>
    -- The last of the planned locales is that of the step.
    obtain ⟨planned, p, _, ⟨_, _, keys, _⟩, _, _, fault, _, _, eq⟩ := fails
    rw [List.map_append] at keys
    obtain ⟨_, last⟩ := List.append_inj' keys rfl
    cases last
    exact ⟨fault, eq⟩
  | saveCatalog earlier l =>
    obtain ⟨planned, p, _, ⟨keys, _⟩, _, fault, _, _, eq⟩ := fails
    rw [List.map_append] at keys
    obtain ⟨_, last⟩ := List.append_inj' keys rfl
    cases last
    exact ⟨fault, eq⟩

/-! ### All runs -/

/-- A run on a machine fails if and only if one of its steps does, and with the error of the first
step that does. The two parts are the case of one error and that of any. -/
def StopsAtFirst (make : Synthesizer) (layout : Layout) (m : Machine) (steps : List Step)
    (a : Attempt RunError α) : Prop :=
  (∀ e, (∃ m', a.run.run m = (.error e, m')) ↔
    FirstFailure (Step.FailsWith make layout m.files) steps e) ∧
  ((∃ e m', a.run.run m = (.error e, m')) ↔
    ∃ s ∈ steps, ∃ e, s.FailsWith make layout m.files e)

/-- What holds of the effect on files holds of runs on a machine, whatever its log. -/
theorem FailsLike.stopsAtFirst {make : Synthesizer} {layout : Layout} {m : Machine}
    {steps : List Step} {a : Attempt RunError α}
    (like : FailsLike (Step.FailsWith make layout m.files) steps a m.files) :
    StopsAtFirst make layout m steps a := by
  have first : ∀ e, (∃ m', a.run.run m = (.error e, m')) ↔
      FirstFailure (Step.FailsWith make layout m.files) steps e := by
    intro e
    rw [← like e]
    constructor
    · rintro ⟨m', run⟩
      exact ⟨m'.files, Fails.of_run run⟩
    · rintro ⟨t', fails⟩
      obtain ⟨m', run, _⟩ := fails.exists_run rfl
      exact ⟨m', run⟩
  refine ⟨first, ?_⟩
  simp only [first]
  exact exists_firstFailure_iff

/-- Every run fails if and only if a step of its order fails, with the error of the first step that
does. The error of a document has its path and tells whether it is missing, rejected or otherwise
not to be read or written; that of a synthesis has its locale. -/
theorem runs_fail_first (make : Synthesizer) (layout : Layout) (locales : List Locale)
    (primary secondary : Locale) (m : Machine) :
    StopsAtFirst make layout m (analysisSteps locales) (analyze layout locales) ∧
    StopsAtFirst make layout m (synthesisSteps locales) (synthesize make layout locales) ∧
    StopsAtFirst make layout m (mergeSteps locales) (merge layout locales) ∧
    StopsAtFirst make layout m (comparisonSteps primary secondary)
      (compare layout primary secondary) ∧
    ∀ (s : Step) e, s.FailsWith make layout m.files e → s.Blames layout m.files e :=
  ⟨(failsLike_analyze make layout locales m.files).stopsAtFirst,
    (failsLike_synthesize make layout locales m.files).stopsAtFirst,
    (failsLike_merge make layout locales m.files).stopsAtFirst,
    (failsLike_compare make layout primary secondary m.files).stopsAtFirst,
    fun _ _ => blames_of_failsWith⟩

end Run

end TemplateCoverage
