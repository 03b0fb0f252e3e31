import TemplateCoverage.Proofs.Run.Runs

/-!
# `TemplateCoverage.Proofs.Run.Failure`: how attempts fail

An attempt in steps fails where its first step does that fails, and keeps what was done to the files
before. So an attempt is known by its failures as it is by its successes. The theorems:

* `does_or_fails`, `Fails.not_does`: an attempt either succeeds or fails;
* `fails_bind_iff`, `fails_mapM_iff`: attempts in steps fail at one step after the others succeeded;
* `fails_load_iff`, `fails_save_iff`: how loading and saving fail;
* `files_eq_of_fails_plan`, `fails_planMerge_iff`: planning that fails changes no file;
* `fails_mapM_keep_iff`: saving candidates fails at one locale, after those of the locales before it
  have been written.
-/

set_option autoImplicit false

namespace TemplateCoverage.Run

variable {α β ε : Type}

/-- From the files `t` an attempt fails with `e` and leaves the files `t'`. What it did before it
failed is in `t'`, as nothing is taken back. -/
def Fails (a : Attempt ε α) (t : FileTree) (e : ε) (t' : FileTree) : Prop :=
  a.run.effect t = (.error e, t')

variable {a : Attempt ε α} {e : ε} {t t' : FileTree}

/-- A failure is one on every machine with the files. Only the machine after the run depends on the
log. -/
theorem Fails.exists_run (fails : Fails a t e t') {m : Machine} (files : m.files = t) :
    ∃ m', a.run.run m = (.error e, m') ∧ m'.files = t' := by
  have effect := a.run.effect_files m
  rw [files, fails] at effect
  have answer : (a.run.run m).1 = .error e := (congrArg Prod.fst effect).symm
  exact ⟨(a.run.run m).2, Prod.ext answer rfl, (congrArg Prod.snd effect).symm⟩

/-- A run on a machine that fails is a failure from the files of that machine. -/
theorem Fails.of_run {m m' : Machine} (h : a.run.run m = (.error e, m')) :
    Fails a m.files e m'.files := by
  rw [Fails, Script.effect_files, h]

/-- An attempt succeeds or fails: it always comes to an end, as scripts are finite. -/
theorem does_or_fails (a : Attempt ε α) (t : FileTree) :
    (∃ x t', Does a t x t') ∨ ∃ e t', Fails a t e t' := by
  cases result : a.run.effect t with
  | mk answer t' =>
    cases answer with
    | ok x => exact .inl ⟨x, t', result⟩
    | error e => exact .inr ⟨e, t', result⟩

/-- An attempt that fails does not succeed from the same files, as its effect is a function of them.
-/
theorem Fails.not_does (fails : Fails a t e t') {x : α} {t₁ : FileTree} : ¬Does a t x t₁ := by
  intro does
  have both := fails.symm.trans does
  cases both

/-- An attempt at nothing does not fail, so that a failure is always one of a step. -/
theorem not_fails_pure {x : α} : ¬Fails (pure x : Attempt ε α) t e t' := fun fails =>
  fails.not_does (does_pure_iff.2 ⟨rfl, rfl⟩)

/-- Two steps fail if the first one does or the second one does after it. In the second case the
files keep what the first one did. -/
theorem fails_bind_iff {f : α → Attempt ε β} : Fails (a >>= f) t e t' ↔
    Fails a t e t' ∨ ∃ x t₁, Does a t x t₁ ∧ Fails (f x) t₁ e t' := by
  unfold Fails Does
  rw [effect_bind]
  cases a.run.effect t with
  | mk answer files =>
    cases answer with
    -- The second step is not reached, so that the failure is the first one's.
    | error e' => simp
    | ok x =>
      constructor
      · exact fun second => .inr ⟨x, files, rfl, second⟩
      · rintro (first | ⟨_, _, eq, second⟩)
        · cases first
        · cases eq
          exact second

/-- An attempt for every item of a list fails at one item, after the items before it succeeded.
Those behind it are never tried, so that nothing is said of them. -/
theorem fails_mapM_iff {f : α → Attempt ε β} {is : List α} :
    Fails (is.mapM f) t e t' ↔ ∃ before i after ys t₁, is = before ++ i :: after ∧
      Does (before.mapM f) t ys t₁ ∧ Fails (f i) t₁ e t' := by
  -- The induction is on the items: either the first one fails, or it succeeds and the others fail
  -- from the files that it left.
  induction is generalizing t with
  | nil =>
    rw [List.mapM_nil]
    simp [not_fails_pure]
  | cons first is ih =>
    rw [List.mapM_cons, fails_bind_iff]
    constructor
    · rintro (failed | ⟨y, t₁, succeeded, rest⟩)
      · exact ⟨[], first, is, [], t, rfl, does_pure_iff.2 ⟨rfl, rfl⟩, failed⟩
      · rcases fails_bind_iff.1 rest with failed | ⟨_, _, _, last⟩
        · obtain ⟨before, i, after, ys, t₂, rfl, others, failed⟩ := ih.1 failed
          exact ⟨first :: before, i, after, y :: ys, t₂, rfl,
            does_mapM_cons_iff.2 ⟨y, t₁, ys, succeeded, others, rfl⟩, failed⟩
        · -- Putting the results together does not fail.
          exact (not_fails_pure last).elim
    · rintro ⟨before, i, after, ys, t₁, eq, others, failed⟩
      cases before with
      | nil =>
        obtain ⟨rfl, rfl⟩ := List.cons.inj eq
        obtain ⟨_, rfl⟩ := does_pure_iff.1 others
        exact .inl failed
      | cons _ before =>
        obtain ⟨rfl, rfl⟩ := List.cons.inj eq
        obtain ⟨y, t₂, ys, succeeded, others, _⟩ := does_mapM_cons_iff.1 others
        refine .inr ⟨y, t₂, succeeded, fails_bind_iff.2 (.inl (ih.2 ?_))⟩
        exact ⟨before, i, after, ys, t₁, rfl, others, failed⟩

section

variable {e : RunError}

/-- A run fails as its body does: what is told to the log neither saves nor spoils it. -/
theorem fails_logged_iff {operation : Operation} {body : Attempt RunError α} :
    Fails (logged operation body) t e t' ↔ Fails body t e t' := by
  unfold Fails
  rw [effect_logged]

/-- Notes do not fail, however many there are and whether or not a log has been started. -/
theorem not_fails_notes {rs : List Record} : ¬Fails (notes rs) t e t' := fun fails =>
  fails.not_does (x := ()) (does_notes_iff.2 rfl)

/-- An attempt at a document fails in a run as it does alone, with its error as one of the run. -/
theorem fails_document_iff {d : Attempt DocumentError α} :
    Fails (document d) t e t' ↔ ∃ e', Fails d t e' t' ∧ e = .document e' := by
  unfold Fails
  rw [effect_document]
  simp only [Prod.ext_iff, mapError_eq_error_iff]
  constructor
  · rintro ⟨⟨e', failed, changed⟩, left⟩
    exact ⟨e', ⟨failed, left⟩, changed⟩
  · rintro ⟨e', ⟨failed, left⟩, changed⟩
    exact ⟨⟨e', failed, changed⟩, left⟩

/-! ### Documents -/

/-- The error of a document that is not to be had from a file, be it that the file cannot be read or
that its text is no such document. -/
def IsUnread (decode : String → Except Defect α) (t : FileTree) (path : String) (e : RunError) :
    Prop :=
  ∃ d, decoded path decode (t.read path) = .error d ∧ e = .document d

/-- The error of a catalog that is not to be had from a file, for whichever of these reasons. -/
abbrev IsUnreadCatalog (t : FileTree) (path : String) (e : RunError) : Prop :=
  IsUnread Document.readCatalog t path e

variable {decode : String → Except Defect α} {path : String}

/-- A file that a document is not to be had from does not hold one. -/
theorem IsUnread.not_holds (unread : IsUnread decode t path e) {d : α} :
    ¬Holds decode t path d := by
  intro holds
  obtain ⟨d', failed, _⟩ := unread
  have loaded : decoded path decode (t.read path) = .ok d := decoded_eq_ok_iff.2 holds
  rw [failed] at loaded
  contradiction

/-- Loading fails if the document is not to be had, and changes no file. -/
theorem fails_load_iff {kind : DocumentKind} {sizes : α → Nat × Nat} :
    Fails (document (ExceptT.mk (load kind decode sizes path))) t e t' ↔
      IsUnread decode t path e ∧ t' = t := by
  rw [fails_document_iff]
  unfold Fails
  rw [ExceptT.run_mk, effect_load]
  constructor
  · rintro ⟨d, eq, rfl⟩
    obtain ⟨failed, rfl⟩ := Prod.mk.inj eq
    exact ⟨⟨d, failed, rfl⟩, rfl⟩
  · rintro ⟨⟨d, failed, rfl⟩, rfl⟩
    exact ⟨d, Prod.ext failed rfl, rfl⟩

/-- Loading the taxonomy fails if it is not to be had, and changes no file. -/
theorem fails_loadTaxonomy_iff : Fails (document (loadTaxonomy path)) t e t' ↔
    IsUnread Document.readTaxonomy t path e ∧ t' = t :=
  fails_load_iff

/-- Loading a catalog fails if it is not to be had, and changes no file. -/
theorem fails_loadCatalog_iff : Fails (document (loadCatalog path)) t e t' ↔
    IsUnreadCatalog t path e ∧ t' = t :=
  fails_load_iff

/-- Saving fails if the text is not written, with the fault of the write at the path of the
document. The directories that the write made stay. -/
theorem fails_save_iff {kind : DocumentKind} {text : String} {c : Catalog} :
    Fails (document (ExceptT.mk (save kind path text c))) t e t' ↔
      ∃ fault, t.write path text = (.error fault, t') ∧
        e = .document ⟨path, .inaccessible fault⟩ := by
  rw [fails_document_iff]
  unfold Fails
  rw [ExceptT.run_mk, effect_save]
  cases t.write path text with
  | mk answer files =>
    cases answer with
    | ok _ => simp [saved]
    | error fault =>
      simp only [saved, Prod.mk.injEq, Except.error.injEq]
      constructor
      · rintro ⟨_, ⟨rfl, rfl⟩, rfl⟩
        exact ⟨fault, ⟨rfl, rfl⟩, rfl⟩
      · rintro ⟨_, ⟨rfl, rfl⟩, rfl⟩
        exact ⟨_, ⟨rfl, rfl⟩, rfl⟩

/-! ### Planning -/

/-- Attempts that change no file fail together where one of them does, and that one fails from the
files at the start too. So the order of the items does not matter for whether it fails. -/
theorem fails_mapM_of_reads {f : α → Attempt RunError β} {key : β → α}
    (reads : ∀ i t y t', Does (f i) t y t' → t' = t ∧ key y = i)
    (failures : ∀ i t e t', Fails (f i) t e t' → t' = t) {is : List α}
    (fails : Fails (is.mapM f) t e t') : t' = t ∧ ∃ i ∈ is, Fails (f i) t e t := by
  obtain ⟨before, i, after, ys, t₁, rfl, others, failed⟩ := fails_mapM_iff.1 fails
  obtain ⟨rfl, _, _⟩ := (does_mapM_iff_of_reads reads).1 others
  obtain rfl := failures i _ _ _ failed
  exact ⟨rfl, i, List.mem_append_right before List.mem_cons_self, failed⟩

variable {make : Synthesizer} {layout : Layout} {locale : Locale}

/-- Planning candidates that fails changes no file, whether it was the loading that failed or the
synthesizer. -/
theorem files_eq_of_fails_plan {expected : SortedSet Combination}
    (fails : Fails (plan make layout expected locale) t e t') : t' = t := by
  have same : t = ((plan make layout expected locale).run.effect t).2 := staysWithin_plan locale t
  rw [fails] at same
  exact same.symm

/-- Loading for a merge fails if one of the two documents is not to be had, and changes no file. The
candidates are looked for only after the catalog has been loaded. -/
theorem fails_planMerge_iff : Fails (planMerge layout locale) t e t' ↔
    (IsUnreadCatalog t (layout.paths locale).catalog e ∨
      (∃ p, HoldsCatalog t (layout.paths locale).catalog p) ∧
        IsUnreadCatalog t (layout.paths locale).candidates e) ∧ t' = t := by
  unfold planMerge
  rw [fails_bind_iff]
  constructor
  · rintro (unread | ⟨p, t₁, loaded, rest⟩)
    · obtain ⟨unread, rfl⟩ := fails_loadCatalog_iff.1 unread
      exact ⟨.inl unread, rfl⟩
    · obtain ⟨holds, rfl⟩ := does_loadCatalog_iff.1 loaded
      rcases fails_bind_iff.1 rest with unread | ⟨c, t₂, loaded', noting⟩
      · obtain ⟨unread, rfl⟩ := fails_loadCatalog_iff.1 unread
        exact ⟨.inr ⟨⟨p, holds⟩, unread⟩, rfl⟩
      · -- The notes after the loads do not fail, and neither does handing over the result.
        rcases fails_bind_iff.1 noting with told | ⟨_, _, _, last⟩
        · exact (not_fails_notes told).elim
        · exact (not_fails_pure last).elim
  · rintro ⟨unread | ⟨⟨p, holds⟩, unread⟩, rfl⟩
    · exact .inl (fails_loadCatalog_iff.2 ⟨unread, rfl⟩)
    · refine .inr ⟨p, t', does_loadCatalog_iff.2 ⟨holds, rfl⟩, fails_bind_iff.2 (.inl ?_)⟩
      exact fails_loadCatalog_iff.2 ⟨unread, rfl⟩

/-! ### Saving candidates -/

/-- Saving a locale's candidates fails if there are some and their text is not written. A locale
without candidates has nothing to save and cannot fail. -/
theorem fails_keep_iff {planned : Locale × Catalog} : Fails (keep layout planned) t e t' ↔
    planned.2.isEmpty = false ∧ ∃ fault,
      t.write (layout.paths planned.1).candidates (Document.candidatesText planned.2) =
        (.error fault, t') ∧
      e = .document ⟨(layout.paths planned.1).candidates, .inaccessible fault⟩ := by
  unfold keep
  split
  · rename_i none
    simp [not_fails_pure, none]
  · rename_i some
    rw [fails_bind_iff, Bool.eq_false_iff.2 some]
    constructor
    · rintro (unsaved | ⟨_, _, _, last⟩)
      · exact ⟨rfl, fails_save_iff.1 unsaved⟩
      · exact (not_fails_pure last).elim
    · exact fun unsaved => .inl (fails_save_iff.2 unsaved.2)

/-- Saving the candidates of locales fails at one of them, after those of the locales before it have
been written. So a synthesis that fails here leaves documents behind. -/
theorem fails_mapM_keep_iff {planned : List (Locale × Catalog)} :
    Fails (planned.mapM (keep layout)) t e t' ↔ ∃ before p after t₁,
      planned = before ++ p :: after ∧
      FileTree.Writes (before.flatMap (candidateDocuments layout)) t t₁ ∧
      Fails (keep layout p) t₁ e t' := by
  rw [fails_mapM_iff]
  constructor
  · rintro ⟨before, p, after, made, t₁, eq, others, failed⟩
    exact ⟨before, p, after, t₁, eq, (does_mapM_keep_iff.1 others).1, failed⟩
  · rintro ⟨before, p, after, t₁, eq, written, failed⟩
    exact ⟨before, p, after, _, t₁, eq, does_mapM_keep_iff.2 ⟨written, rfl⟩, failed⟩

end

end TemplateCoverage.Run
