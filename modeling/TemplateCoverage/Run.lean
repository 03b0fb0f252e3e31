import TemplateCoverage.Catalog.Gaps
import TemplateCoverage.Run.Store
import TemplateCoverage.Synthesis

/-!
# `TemplateCoverage.Run`: the runs over a project's documents

Four runs work on the documents of a layout: one measures the catalogs against the taxonomy, one
makes candidates for what is missing, one merges candidates into the catalogs, and one compares two
catalogs. The runs that write do so only after everything has been loaded and made. Main statements:

* `run_logged`: a run does what it does between two records.
-/

set_option autoImplicit false

namespace TemplateCoverage

/-- How a locale's catalog covers the taxonomy. -/
structure LocaleCoverage where
  locale : Locale
  catalog : String
  coverage : Coverage

/-- How the catalogs cover the taxonomy. -/
structure Analysis where
  eventCount : Nat
  expectedCount : Nat
  locales : List LocaleCoverage

/-- Whether nothing is missing in any locale. -/
def Analysis.isComplete (a : Analysis) : Bool := a.locales.all (·.coverage.isComplete)

/-- What came of making a locale's candidates. -/
structure LocaleSynthesis where
  locale : Locale
  output : String
  entries : Nat
  written : Bool

/-- What came of merging a locale's candidates. -/
structure LocaleMerge where
  locale : Locale
  catalog : String
  counts : MergeCounts

namespace Run

/-- The record of the end of a run. -/
def endRecord {α : Type} (operation : Operation) (milliseconds : Nat) : Except RunError α → Record
  | .ok _ => .finished operation milliseconds
  | .error e => .failed operation milliseconds e

/-- Runs between two records. -/
def logged {α : Type} (operation : Operation) (body : Attempt RunError α) :
    Attempt RunError α := ExceptT.mk do
  let start ← Script.clock
  Script.record (.started operation)
  let result ← body.run
  let stop ← Script.clock
  Script.record (endRecord operation (stop - start) result)
  return result

/-- A failure to load or save ends a run. -/
def document {α : Type} (a : Attempt DocumentError α) : Attempt RunError α :=
  ExceptT.adapt RunError.document a

/-- Tells the log something within a run. -/
def note (r : Record) : Attempt RunError Unit := ExceptT.lift (Script.record r)

/-- Tells the log several things within a run. -/
def notes (rs : List Record) : Attempt RunError Unit := ExceptT.lift (Script.records rs)

/-! ### Analysis -/

/-- Measures a locale's catalog against the expected combinations. -/
def measure (layout : Layout) (expected : SortedSet Combination) (locale : Locale) :
    Attempt RunError LocaleCoverage := do
  let path := (layout.paths locale).catalog
  let c ← document (loadCatalog path)
  let coverage := Coverage.measure expected c.combinations
  note (.measured locale coverage)
  return ⟨locale, path, coverage⟩

/-- Measures the catalogs of locales against the taxonomy. -/
def analyze (layout : Layout) (locales : List Locale) : Attempt RunError Analysis :=
  logged .analyze do
    let t ← document (loadTaxonomy layout.taxonomy)
    let coverages ← locales.mapM (measure layout t.expected)
    return ⟨t.eventCount, t.expected.size, coverages⟩

/-! ### Synthesis -/

/-- The candidates for what a locale's catalog misses. -/
def plan (make : Synthesizer) (layout : Layout) (expected : SortedSet Combination)
    (locale : Locale) : Attempt RunError (Locale × Catalog) := do
  let c ← document (loadCatalog (layout.paths locale).catalog)
  let missing := (Coverage.measure expected c.combinations).missing
  -- The entries made before a refused one are told as well.
  notes ((Synthesis.acceptedFor make missing locale).map (Record.synthesized locale))
  match Synthesis.candidates make missing locale with
  | .ok candidates => return (locale, candidates)
  | .error e => throw (.refused locale e)

/-- Saves a locale's candidates, if there are any. -/
def keep (layout : Layout) (planned : Locale × Catalog) : Attempt RunError LocaleSynthesis := do
  let output := (layout.paths planned.1).candidates
  if planned.2.isEmpty then return ⟨planned.1, output, planned.2.entryCount, false⟩
  else
    document (saveCandidates output planned.2)
    return ⟨planned.1, output, planned.2.entryCount, true⟩

/-- Makes candidates for what the catalogs of locales miss. -/
def synthesize (make : Synthesizer) (layout : Layout) (locales : List Locale) :
    Attempt RunError (List LocaleSynthesis) :=
  logged .synthesize do
    -- Everything is loaded and made for all locales before the first document is saved.
    let t ← document (loadTaxonomy layout.taxonomy)
    let planned ← locales.mapM (plan make layout t.expected)
    planned.mapM (keep layout)

/-! ### Merging -/

/-- A locale's catalog and what is to be merged into it. -/
structure PlannedMerge where
  locale : Locale
  primary : Catalog
  candidates : Catalog

/-- Loads what is to be merged for a locale. -/
def planMerge (layout : Layout) (locale : Locale) : Attempt RunError PlannedMerge := do
  let primary ← document (loadCatalog (layout.paths locale).catalog)
  let candidates ← document (loadCatalog (layout.paths locale).candidates)
  notes ((Catalog.rejected primary candidates).map fun r => .rejected r.1 r.2.tags)
  return ⟨locale, primary, candidates⟩

/-- Saves a locale's merged catalog. -/
def keepMerge (layout : Layout) (planned : PlannedMerge) : Attempt RunError LocaleMerge := do
  let path := (layout.paths planned.locale).catalog
  document (saveCatalog path (planned.primary.merge planned.candidates) planned.locale)
  let counts := planned.primary.mergeCounts planned.candidates
  note (.merged planned.locale counts)
  return ⟨planned.locale, path, counts⟩

/-- Merges the candidates of locales into their catalogs. -/
def merge (layout : Layout) (locales : List Locale) : Attempt RunError (List LocaleMerge) :=
  logged .merge do
    -- As in synthesis, a document that does not load keeps every other one from being saved.
    let planned ← locales.mapM (planMerge layout)
    planned.mapM (keepMerge layout)

/-! ### Comparison -/

/-- What the second locale's catalog lacks beside the first one's. -/
def compare (layout : Layout) (primary secondary : Locale) : Attempt RunError Gaps :=
  logged .compare do
    let first ← document (loadCatalog (layout.paths primary).catalog)
    let second ← document (loadCatalog (layout.paths secondary).catalog)
    return first.gaps second

/-! ### Locales by name -/

/-- The locales that names select. -/
def locales (names : List String) : Attempt RunError (List Locale) :=
  match Locale.resolve names with
  | .ok ls => return ls
  | .error name => throw (.noLocale name)

/-- The locale of a name, which is the first of those that it selects. -/
def locale (name : String) : Attempt RunError Locale :=
  match selected : Locale.resolve [name] with
  | .ok ls => return ls.head (Locale.resolve_ne_nil selected)
  | .error other => throw (.noLocale other)

/-! ### On a machine -/

/-- The machine at the start of a run. -/
def started (m : Machine) (operation : Operation) : Machine := tell m (.started operation)

/-- A run does what it does between two records. -/
theorem run_logged {α : Type} {operation : Operation} {body : Attempt RunError α} {m : Machine} :
    (logged operation body).run.run m =
      let end_ := body.run.run (started m operation)
      (end_.1, tell end_.2 (endRecord operation 0 end_.1)) := by
  change ((body.run.bind _).run _) = _
  rw [Script.run_bind]
  rfl

end Run

end TemplateCoverage
