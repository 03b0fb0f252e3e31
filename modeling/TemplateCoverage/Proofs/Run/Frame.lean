import TemplateCoverage.Proofs.Files.Way
import TemplateCoverage.Proofs.Run.Runs
import TemplateCoverage.Proofs.Synthesis

/-!
# `TemplateCoverage.Proofs.Run.Frame`: what each run touches

Analysis and comparison only read. Synthesis and merge read first, so that the documents which they
write are determined by the files at the start, also where paths coincide and a run writes what it
has read or writes one file twice. Whether or not a run succeeds, it changes nothing but its own
documents and the directories on the way to them. The theorems:

* `IsSynthesized`, `IsMerged`: the documents that a synthesis and a merge may write;
* `changedBy_synthesize`, `changedBy_merge`: they change nothing else;
* `touches_own_documents`: what every run leaves alone.
-/

set_option autoImplicit false

namespace TemplateCoverage.Run

open FileTree (ChangedBy)

/-! ### The documents of a run -/

variable {make : Synthesizer} {layout : Layout} {locales : List Locale} {t : FileTree}

/-- A document that a synthesis from the files `t` may write: the candidates made for what the
catalog of one of the locales lacks, if it lacks anything. Path and text are determined by `t`, not
by files that the run itself wrote. -/
def IsSynthesized (make : Synthesizer) (layout : Layout) (locales : List Locale) (t : FileTree)
    (path text : String) : Prop :=
  ∃ l ∈ locales, ∃ taxonomy p c, HoldsTaxonomy t layout.taxonomy taxonomy ∧
    HoldsCatalog t (layout.paths l).catalog p ∧
    taxonomy.expected.diff p.combinations ≠ SortedSet.empty ∧
    Synthesis.candidates make (taxonomy.expected.diff p.combinations) l = .ok c ∧
    path = (layout.paths l).candidates ∧ text = Document.candidatesText c

/-- A document that a merge from the files `t` may write: the catalog of one of the locales merged
with its candidates, both as they were in `t`. -/
def IsMerged (layout : Layout) (locales : List Locale) (t : FileTree) (path text : String) : Prop :=
  ∃ l ∈ locales, ∃ p c, HoldsCatalog t (layout.paths l).catalog p ∧
    HoldsCatalog t (layout.paths l).candidates c ∧
    path = (layout.paths l).catalog ∧ text = Document.catalogText (p.merge c) l

/-- Files are changed by no document if nothing was done; the steps of runs ask for this by class.
-/
instance {IsDocument : String → String → Prop} : Std.Refl (ChangedBy IsDocument) := ⟨.refl _⟩

/-- What two steps change one after the other is changed by the same kind of documents. -/
instance {IsDocument : String → String → Prop} :
    Trans (ChangedBy IsDocument) (ChangedBy IsDocument) (ChangedBy IsDocument) := ⟨.trans⟩

/-- Candidates that were planned are among the documents of the synthesis if there are any, as there
are some only where the catalog lacks something. -/
theorem IsPlanned.isSynthesized {taxonomy : Taxonomy} {p : Locale × Catalog}
    (holds : HoldsTaxonomy t layout.taxonomy taxonomy) (mem : p.1 ∈ locales)
    (plan : IsPlanned make layout taxonomy t p) (some : p.2.isEmpty = false) :
    IsSynthesized make layout locales t (layout.paths p.1).candidates
      (Document.candidatesText p.2) := by
  obtain ⟨old, held, made⟩ := plan
  refine ⟨p.1, mem, taxonomy, old, p.2, holds, held, fun nothing => ?_, made, rfl, rfl⟩
  rw [(Synthesis.isEmpty_iff made).2 nothing] at some
  contradiction

/-- Candidates that are kept are written where there are any. The hypothesis is only asked for in
that case, since a locale without candidates names no document. -/
theorem staysWithin_keep {IsDocument : String → String → Prop} {p : Locale × Catalog}
    (isDocument : p.2.isEmpty = false →
      IsDocument (layout.paths p.1).candidates (Document.candidatesText p.2)) :
    StaysWithin (ChangedBy IsDocument) (keep layout p) := by
  unfold keep
  split
  · exact staysWithin_pure _
  · rename_i some
    have written := FileTree.changedBy_write (isDocument (Bool.eq_false_iff.2 some))
    exact (staysWithin_save written).bind fun _ => staysWithin_pure _

/-- A merged catalog is written in the place of the locale's catalog, and nothing else is. -/
theorem staysWithin_keepMerge {IsDocument : String → String → Prop} {q : PlannedMerge}
    (isDocument : IsDocument (layout.paths q.locale).catalog
      (Document.catalogText q.result q.locale)) :
    StaysWithin (ChangedBy IsDocument) (keepMerge layout q) :=
  (staysWithin_save (FileTree.changedBy_write isDocument)).bind fun _ =>
    (staysWithin_note _).bind fun _ => staysWithin_pure _

/-- A synthesis changes nothing but candidates of its locales, whether or not it succeeds and also
where it stops between two locales. -/
theorem changedBy_synthesize (make : Synthesizer) (layout : Layout) (locales : List Locale)
    (t : FileTree) : ChangedBy (IsSynthesized make layout locales t) t
      ((synthesize make layout locales).run.effect t).2 := by
  unfold synthesize
  rw [effect_logged]
  refine Reads.bind_of_does (staysWithin_loadTaxonomy _) fun taxonomy loaded => ?_
  refine Reads.bind_of_does (staysWithin_mapM fun l _ => staysWithin_plan l) fun planned plans => ?_
  -- Whatever has been planned when the first document is written comes from the files `t`.
  obtain ⟨_, rfl, each⟩ := does_mapM_plan_iff.1 plans
  refine staysWithin_mapM (fun p mem => staysWithin_keep ?_) t
  exact (each p mem).isSynthesized (does_loadTaxonomy_iff.1 loaded).1 (List.mem_map_of_mem mem)

/-- A merge changes nothing but catalogs of its locales, whether or not it succeeds and also where
it stops between two locales. -/
theorem changedBy_merge (layout : Layout) (locales : List Locale) (t : FileTree) :
    ChangedBy (IsMerged layout locales t) t ((merge layout locales).run.effect t).2 := by
  unfold merge
  rw [effect_logged]
  refine Reads.bind_of_does (staysWithin_mapM fun l _ => staysWithin_planMerge l)
    fun planned plans => ?_
  -- All loads come first, so that a merged catalog is not loaded again as the candidates of another
  -- locale.
  obtain ⟨_, rfl, each⟩ := does_mapM_planMerge_iff.1 plans
  refine staysWithin_mapM (fun q mem => staysWithin_keepMerge ?_) t
  exact ⟨q.locale, List.mem_map_of_mem mem, q.primary, q.candidates, (each q mem).1, (each q mem).2,
    rfl, rfl⟩

/-- Whether or not they succeed, and whatever the layout: an analysis and a comparison change no
file; a synthesis changes only candidates of its locales whose catalogs lack something, and a merge
only catalogs of its locales, to the whole texts of documents that the files at the start determine.
Besides, only missing directories on the way to these documents are made. -/
theorem touches_own_documents (layout : Layout) (locales : List Locale) (m : Machine) :
    ((analyze layout locales).run.run m).2.files = m.files ∧
    (∀ primary secondary,
      ((compare layout primary secondary).run.run m).2.files = m.files) ∧
    (∀ make, ChangedBy (IsSynthesized make layout locales m.files) m.files
      ((synthesize make layout locales).run.run m).2.files) ∧
    ChangedBy (IsMerged layout locales m.files) m.files
      ((merge layout locales).run.run m).2.files := by
  -- A run on a machine leaves the files that its effect does; the four runs are then looked at one
  -- by one.
  have files {α : Type} (s : Script α) : (s.run m).2.files = (s.effect m.files).2 :=
    (congrArg Prod.snd (s.effect_files m)).symm
  refine ⟨?_, fun primary secondary => ?_, fun make => ?_, ?_⟩
  · rw [files]
    exact (staysWithin_analyze layout locales m.files).symm
  · rw [files]
    exact (staysWithin_compare layout primary secondary m.files).symm
  · rw [files]
    exact changedBy_synthesize make layout locales m.files
  · rw [files]
    exact changedBy_merge layout locales m.files

end TemplateCoverage.Run
