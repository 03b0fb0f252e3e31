import TemplateCoverage.Proofs.Run.Effect

/-!
# `TemplateCoverage.Proofs.Run.Runs`: what each run needs and leaves

Each run loads its documents, computes, and then writes what came of it. The theorems:

* `staysWithin_analyze`, `staysWithin_compare`: an analysis and a comparison only read;
* `does_analyze_iff`: an analysis succeeds if the taxonomy and the catalogs load;
* `does_synthesize_iff`: a synthesis also needs that the candidates are made and written;
* `does_merge_iff`: a merge loads catalogs and candidates and writes the merged catalogs.
-/

set_option autoImplicit false

namespace TemplateCoverage.Run

variable {make : Synthesizer} {layout : Layout} {locales : List Locale} {t t' : FileTree}

/-! ### Analysis -/

/-- Measuring a locale only reads its catalog and notes what was found, so that it changes no file.
-/
theorem staysWithin_measure {expected : SortedSet Combination} (locale : Locale) :
    Reads (measure layout expected locale) :=
  (staysWithin_loadCatalog _).bind fun _ => (staysWithin_note _).bind fun _ => staysWithin_pure _

/-- An analysis changes no file, whether or not it succeeds: each of its steps only reads or notes.
-/
theorem staysWithin_analyze (layout : Layout) (locales : List Locale) :
    Reads (analyze layout locales) :=
  staysWithin_logged ((staysWithin_loadTaxonomy _).bind fun _ =>
    (staysWithin_mapM fun l _ => staysWithin_measure l).bind fun _ => staysWithin_pure _)

/-- Measuring a locale succeeds with the coverage of the catalog that its file holds. -/
theorem does_measure_iff {expected : SortedSet Combination} {locale : Locale}
    {r : LocaleCoverage} : Does (measure layout expected locale) t r t' ↔
      (∃ c, HoldsCatalog t (layout.paths locale).catalog c ∧
        r = ⟨locale, (layout.paths locale).catalog, Coverage.measure expected c.combinations⟩) ∧
      t' = t := by
  unfold measure
  rw [does_bind_iff]
  constructor
  · rintro ⟨c, t₁, loaded, rest⟩
    obtain ⟨holds, rfl⟩ := does_loadCatalog_iff.1 loaded
    obtain ⟨_, t₂, noted, last⟩ := does_bind_iff.1 rest
    obtain rfl := does_note_iff.1 noted
    obtain ⟨rfl, rfl⟩ := does_pure_iff.1 last
    exact ⟨⟨c, holds, rfl⟩, rfl⟩
  · rintro ⟨⟨c, holds, rfl⟩, rfl⟩
    refine ⟨c, t', does_loadCatalog_iff.2 ⟨holds, rfl⟩, does_bind_iff.2 ⟨(), t', ?_, ?_⟩⟩
    · exact does_note_iff.2 rfl
    · exact does_pure_iff.2 ⟨rfl, rfl⟩

/-- The coverage of a locale's catalog on files, with the path that the catalog was read from. -/
def IsMeasured (layout : Layout) (taxonomy : Taxonomy) (t : FileTree) (r : LocaleCoverage) :
    Prop :=
  ∃ c, HoldsCatalog t (layout.paths r.locale).catalog c ∧
    r = ⟨r.locale, (layout.paths r.locale).catalog,
      Coverage.measure taxonomy.expected c.combinations⟩

/-- An analysis succeeds if the taxonomy and the catalogs of all its locales load, and changes no
file. It reports on the locales in the order in which they were asked for. -/
theorem does_analyze_iff {a : Analysis} : Does (analyze layout locales) t a t' ↔
    ∃ taxonomy coverages, HoldsTaxonomy t layout.taxonomy taxonomy ∧
      coverages.map (·.locale) = locales ∧ (∀ r ∈ coverages, IsMeasured layout taxonomy t r) ∧
      a = ⟨taxonomy.eventCount, taxonomy.expected.size, coverages⟩ ∧ t' = t := by
  -- Each measurement changes no file and says which locale it is about, as `does_mapM_iff_of_reads`
  -- asks for.
  have reads : ∀ (taxonomy : Taxonomy) locale s r s',
      Does (measure layout taxonomy.expected locale) s r s' → s' = s ∧ r.locale = locale := by
    intro taxonomy locale s r s' does
    obtain ⟨⟨c, _, rfl⟩, same⟩ := does_measure_iff.1 does
    exact ⟨same, rfl⟩
  unfold analyze
  rw [does_logged_iff, does_bind_iff]
  constructor
  · rintro ⟨taxonomy, t₁, loaded, rest⟩
    obtain ⟨holds, rfl⟩ := does_loadTaxonomy_iff.1 loaded
    obtain ⟨coverages, t₂, measured, last⟩ := does_bind_iff.1 rest
    obtain ⟨rfl, keys, each⟩ := (does_mapM_iff_of_reads (reads taxonomy)).1 measured
    obtain ⟨rfl, rfl⟩ := does_pure_iff.1 last
    exact ⟨taxonomy, coverages, holds, keys, fun r mem => (does_measure_iff.1 (each r mem)).1, rfl,
      rfl⟩
  · rintro ⟨taxonomy, coverages, holds, keys, each, rfl, rfl⟩
    refine ⟨taxonomy, t', does_loadTaxonomy_iff.2 ⟨holds, rfl⟩, does_bind_iff.2 ?_⟩
    refine ⟨coverages, t', (does_mapM_iff_of_reads (reads taxonomy)).2 ⟨rfl, keys, ?_⟩, ?_⟩
    · exact fun r mem => does_measure_iff.2 ⟨each r mem, rfl⟩
    · exact does_pure_iff.2 ⟨rfl, rfl⟩

/-! ### Synthesis -/

/-- Planning candidates changes no file, whether or not it succeeds. The synthesizer may fail, but
it sees no files. -/
theorem staysWithin_plan {expected : SortedSet Combination} (locale : Locale) :
    Reads (plan make layout expected locale) := by
  refine (staysWithin_loadCatalog _).bind fun c => (staysWithin_notes _).bind fun _ => ?_
  split
  · exact staysWithin_pure _
  · exact staysWithin_throw _

/-- The candidates of a locale for what its catalog on files lacks, as the synthesizer makes them.
There may be none, if the catalog lacks nothing. -/
def IsPlanned (make : Synthesizer) (layout : Layout) (taxonomy : Taxonomy) (t : FileTree)
    (planned : Locale × Catalog) : Prop :=
  ∃ p, HoldsCatalog t (layout.paths planned.1).catalog p ∧
    Synthesis.candidates make (taxonomy.expected.diff p.combinations) planned.1 = .ok planned.2

/-- Planning succeeds with the candidates of the locale if its catalog loads and the synthesizer
makes them. -/
theorem does_plan_iff {taxonomy : Taxonomy} {locale : Locale} {planned : Locale × Catalog} :
    Does (plan make layout taxonomy.expected locale) t planned t' ↔
      (planned.1 = locale ∧ IsPlanned make layout taxonomy t planned) ∧ t' = t := by
  unfold plan
  rw [does_bind_iff]
  constructor
  · rintro ⟨p, t₁, loaded, rest⟩
    obtain ⟨holds, rfl⟩ := does_loadCatalog_iff.1 loaded
    obtain ⟨_, t₂, noted, last⟩ := does_bind_iff.1 rest
    obtain rfl := does_notes_iff.1 noted
    split at last
    · rename_i made
      obtain ⟨rfl, rfl⟩ := does_pure_iff.1 last
      exact ⟨⟨rfl, p, holds, made⟩, rfl⟩
    · exact (does_throw_iff.1 last).elim
  · rintro ⟨⟨rfl, p, holds, made⟩, rfl⟩
    refine ⟨p, t', does_loadCatalog_iff.2 ⟨holds, rfl⟩, does_bind_iff.2 ⟨(), t', ?_, ?_⟩⟩
    · exact does_notes_iff.2 rfl
    · -- What a measure calls missing is the difference of the two sets.
      have result : Synthesis.candidates make
          (Coverage.measure taxonomy.expected p.combinations).missing planned.1 = .ok planned.2 :=
        made
      rw [result]
      exact does_pure_iff.2 ⟨rfl, rfl⟩

/-- Planning changes no file and is about the locale, in the form in which `does_mapM_iff_of_reads`
asks for it. -/
theorem reads_plan {taxonomy : Taxonomy} (locale : Locale) (t : FileTree)
    (planned : Locale × Catalog) (t' : FileTree)
    (does : Does (plan make layout taxonomy.expected locale) t planned t') :
    t' = t ∧ planned.1 = locale :=
  ⟨(does_plan_iff.1 does).2, (does_plan_iff.1 does).1.1⟩

/-- The document of a locale's candidates: the path and the text that a synthesis writes there. -/
def candidateDocument (layout : Layout) (planned : Locale × Catalog) : String × String :=
  ((layout.paths planned.1).candidates, Document.candidatesText planned.2)

/-- The document of a locale's candidates, if there are any. A locale that lacks nothing has no such
document, and the file of an earlier synthesis stays as it is. -/
def candidateDocuments (layout : Layout) (planned : Locale × Catalog) : List (String × String) :=
  if planned.2.isEmpty then [] else [candidateDocument layout planned]

/-- What is reported about a locale's candidates: where they are, how many there are, and whether
they have been written. -/
def synthesisOf (layout : Layout) (planned : Locale × Catalog) : LocaleSynthesis :=
  ⟨planned.1, (layout.paths planned.1).candidates, planned.2.entryCount, !planned.2.isEmpty⟩

/-- Keeping a locale's candidates succeeds if their document, where there is one, is written. -/
theorem does_keep_iff {planned : Locale × Catalog} {r : LocaleSynthesis} :
    Does (keep layout planned) t r t' ↔
      FileTree.Writes (candidateDocuments layout planned) t t' ∧
        r = synthesisOf layout planned := by
  unfold keep candidateDocuments candidateDocument synthesisOf
  split
  · rename_i none
    rw [does_pure_iff, and_comm, none]
    rfl
  · -- There are candidates, and so there is one document.
    rename_i some
    rw [does_bind_iff, FileTree.writes_singleton_iff, Bool.eq_false_iff.2 some]
    constructor
    · rintro ⟨_, t₁, saved, last⟩
      obtain ⟨rfl, rfl⟩ := does_pure_iff.1 last
      exact ⟨does_save_iff.1 (does_document_iff.1 saved), rfl⟩
    · rintro ⟨written, rfl⟩
      exact ⟨(), t', does_document_iff.2 (does_save_iff.2 written), does_pure_iff.2 ⟨rfl, rfl⟩⟩

/-- The plans of locales change no file, so that all of them are made from the files at the start.
-/
theorem does_mapM_plan_iff {taxonomy : Taxonomy} {planned : List (Locale × Catalog)} :
    Does (locales.mapM (plan make layout taxonomy.expected)) t planned t' ↔
      t' = t ∧ planned.map (·.1) = locales ∧ ∀ p ∈ planned, IsPlanned make layout taxonomy t p := by
  rw [does_mapM_iff_of_reads reads_plan]
  refine and_congr_right fun _ => and_congr_right fun _ => forall₂_congr fun p _ => ?_
  rw [does_plan_iff]
  simp

/-- The candidates of locales are saved one after the other, in the order of the locales. -/
theorem does_mapM_keep_iff {planned : List (Locale × Catalog)} {made : List LocaleSynthesis} :
    Does (planned.mapM (keep layout)) t made t' ↔
      FileTree.Writes (planned.flatMap (candidateDocuments layout)) t t' ∧
        made = planned.map (synthesisOf layout) :=
  does_mapM_iff_of_writes fun _ _ _ _ => does_keep_iff

/-- A synthesis succeeds if everything loads, the candidates of all locales are made and then their
documents are written. If one of them cannot be made, none is written. -/
theorem does_synthesize_iff {made : List LocaleSynthesis} :
    Does (synthesize make layout locales) t made t' ↔
      ∃ taxonomy, ∃ planned : List (Locale × Catalog), HoldsTaxonomy t layout.taxonomy taxonomy ∧
        planned.map (·.1) = locales ∧ (∀ p ∈ planned, IsPlanned make layout taxonomy t p) ∧
        FileTree.Writes (planned.flatMap (candidateDocuments layout)) t t' ∧
        made = planned.map (synthesisOf layout) := by
  unfold synthesize
  rw [does_logged_iff, does_bind_iff]
  constructor
  · rintro ⟨taxonomy, t₁, loaded, rest⟩
    obtain ⟨holds, rfl⟩ := does_loadTaxonomy_iff.1 loaded
    -- Every locale is planned before any document is written, so all plans see the files `t`.
    obtain ⟨planned, t₂, plans, kept⟩ := does_bind_iff.1 rest
    obtain ⟨rfl, keys, each⟩ := does_mapM_plan_iff.1 plans
    exact ⟨taxonomy, planned, holds, keys, each, does_mapM_keep_iff.1 kept⟩
  · rintro ⟨taxonomy, planned, holds, keys, each, written⟩
    refine ⟨taxonomy, t, does_loadTaxonomy_iff.2 ⟨holds, rfl⟩, does_bind_iff.2 ?_⟩
    exact ⟨planned, t, does_mapM_plan_iff.2 ⟨rfl, keys, each⟩, does_mapM_keep_iff.2 written⟩

/-! ### Merging -/

/-- Loading for a merge changes no file, whether or not both documents are to be had. -/
theorem staysWithin_planMerge (locale : Locale) : Reads (planMerge layout locale) :=
  (staysWithin_loadCatalog _).bind fun _ => (staysWithin_loadCatalog _).bind fun _ =>
    (staysWithin_notes _).bind fun _ => staysWithin_pure _

/-- What is to be merged for a locale is what its two documents on files hold. -/
def IsLoaded (layout : Layout) (t : FileTree) (planned : PlannedMerge) : Prop :=
  HoldsCatalog t (layout.paths planned.locale).catalog planned.primary ∧
    HoldsCatalog t (layout.paths planned.locale).candidates planned.candidates

/-- Loading for a merge succeeds with the two documents of the locale if both of them are to be had.
-/
theorem does_planMerge_iff {locale : Locale} {planned : PlannedMerge} :
    Does (planMerge layout locale) t planned t' ↔
      (planned.locale = locale ∧ IsLoaded layout t planned) ∧ t' = t := by
  unfold planMerge
  rw [does_bind_iff]
  constructor
  · rintro ⟨p, t₁, loaded, rest⟩
    obtain ⟨holds, rfl⟩ := does_loadCatalog_iff.1 loaded
    -- Both documents are read from the same files, as the first load changes none.
    obtain ⟨c, t₂, loaded', noting⟩ := does_bind_iff.1 rest
    obtain ⟨holds', rfl⟩ := does_loadCatalog_iff.1 loaded'
    obtain ⟨_, t₃, noted, last⟩ := does_bind_iff.1 noting
    obtain rfl := does_notes_iff.1 noted
    obtain ⟨rfl, rfl⟩ := does_pure_iff.1 last
    exact ⟨⟨rfl, holds, holds'⟩, rfl⟩
  · rintro ⟨⟨rfl, holds, holds'⟩, rfl⟩
    refine ⟨_, t', does_loadCatalog_iff.2 ⟨holds, rfl⟩, does_bind_iff.2 ?_⟩
    refine ⟨_, t', does_loadCatalog_iff.2 ⟨holds', rfl⟩, does_bind_iff.2 ⟨(), t', ?_, ?_⟩⟩
    · exact does_notes_iff.2 rfl
    · exact does_pure_iff.2 ⟨rfl, rfl⟩

/-- Loading for a merge changes no file and is about the locale, in the form in which
`does_mapM_iff_of_reads` asks for it. -/
theorem reads_planMerge (locale : Locale) (t : FileTree) (planned : PlannedMerge) (t' : FileTree)
    (does : Does (planMerge layout locale) t planned t') : t' = t ∧ planned.locale = locale :=
  ⟨(does_planMerge_iff.1 does).2, (does_planMerge_iff.1 does).1.1⟩

/-- The merged catalog of a locale: its candidates are added to its own entries, never the other
way. -/
def PlannedMerge.result (planned : PlannedMerge) : Catalog :=
  planned.primary.merge planned.candidates

/-- The document of a locale's merged catalog, which takes the place of the catalog it was made
from. -/
def mergedDocument (layout : Layout) (planned : PlannedMerge) : String × String :=
  ((layout.paths planned.locale).catalog, Document.catalogText planned.result planned.locale)

/-- What is reported about a locale's merge: the catalog's path and how many candidates were added
and rejected. -/
def mergeOf (layout : Layout) (planned : PlannedMerge) : LocaleMerge :=
  ⟨planned.locale, (layout.paths planned.locale).catalog,
    planned.primary.mergeCounts planned.candidates⟩

/-- Keeping a merge succeeds if the merged catalog is written. Unlike candidates, it is written also
where nothing was added. -/
theorem does_keepMerge_iff {planned : PlannedMerge} {r : LocaleMerge} :
    Does (keepMerge layout planned) t r t' ↔
      FileTree.Writes [mergedDocument layout planned] t t' ∧ r = mergeOf layout planned := by
  unfold keepMerge mergedDocument mergeOf
  rw [does_bind_iff, FileTree.writes_singleton_iff]
  constructor
  · rintro ⟨_, t₁, saved, rest⟩
    obtain ⟨_, t₂, noted, last⟩ := does_bind_iff.1 rest
    obtain rfl := does_note_iff.1 noted
    obtain ⟨rfl, rfl⟩ := does_pure_iff.1 last
    exact ⟨does_save_iff.1 (does_document_iff.1 saved), rfl⟩
  · rintro ⟨written, rfl⟩
    refine ⟨(), t', does_document_iff.2 (does_save_iff.2 written), does_bind_iff.2 ⟨(), t', ?_, ?_⟩⟩
    · exact does_note_iff.2 rfl
    · exact does_pure_iff.2 ⟨rfl, rfl⟩

/-- The loads of locales change no file, so that all of them see the files at the start. -/
theorem does_mapM_planMerge_iff {planned : List PlannedMerge} :
    Does (locales.mapM (planMerge layout)) t planned t' ↔
      t' = t ∧ planned.map (·.locale) = locales ∧ ∀ p ∈ planned, IsLoaded layout t p := by
  rw [does_mapM_iff_of_reads reads_planMerge]
  refine and_congr_right fun _ => and_congr_right fun _ => forall₂_congr fun p _ => ?_
  rw [does_planMerge_iff]
  simp

/-- The merged catalogs of locales are saved one after the other, in the order of the locales. -/
theorem does_mapM_keepMerge_iff {planned : List PlannedMerge} {merged : List LocaleMerge} :
    Does (planned.mapM (keepMerge layout)) t merged t' ↔
      FileTree.Writes (planned.map (mergedDocument layout)) t t' ∧
        merged = planned.map (mergeOf layout) := by
  rw [List.map_eq_flatMap]
  exact does_mapM_iff_of_writes fun _ _ _ _ => does_keepMerge_iff

/-- A merge succeeds if everything loads for all locales and then the merged catalogs are written.
If one document is not to be had, none is written. -/
theorem does_merge_iff {merged : List LocaleMerge} :
    Does (merge layout locales) t merged t' ↔
      ∃ planned : List PlannedMerge, planned.map (·.locale) = locales ∧
        (∀ p ∈ planned, IsLoaded layout t p) ∧
        FileTree.Writes (planned.map (mergedDocument layout)) t t' ∧
        merged = planned.map (mergeOf layout) := by
  unfold merge
  rw [does_logged_iff, does_bind_iff]
  constructor
  · rintro ⟨planned, t₁, plans, kept⟩
    obtain ⟨rfl, keys, each⟩ := does_mapM_planMerge_iff.1 plans
    exact ⟨planned, keys, each, does_mapM_keepMerge_iff.1 kept⟩
  · rintro ⟨planned, keys, each, written⟩
    exact ⟨planned, t, does_mapM_planMerge_iff.2 ⟨rfl, keys, each⟩,
      does_mapM_keepMerge_iff.2 written⟩

/-! ### Comparison -/

/-- A comparison changes no file, whether or not it succeeds: it loads two catalogs and writes
nothing. -/
theorem staysWithin_compare (layout : Layout) (primary secondary : Locale) :
    Reads (compare layout primary secondary) :=
  staysWithin_logged ((staysWithin_loadCatalog _).bind fun _ =>
    (staysWithin_loadCatalog _).bind fun _ => staysWithin_pure _)

end TemplateCoverage.Run
