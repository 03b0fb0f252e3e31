import TemplateCoverage.Double.Places
import TemplateCoverage.Run

/-!
# `TemplateCoverage.Report`: reports on a console

The lines that each run prints when it succeeds. Main statements:

* `summary_length`: a report on the coverage of locales ends with one line for each of them and a
  verdict.
-/

set_option autoImplicit false

namespace TemplateCoverage.Report

/-- A title between two rules. -/
def heading (title : String) : List String :=
  let rule := String.ofList (List.replicate 80 '=')
  [rule, title, rule]

/-- Texts with a comma and a blank between them. -/
def listed (texts : List String) : String := ", ".intercalate texts

/-! ### Coverage -/

/-- The missing combinations of a locale. -/
def missingLines (r : Coverage) : List String :=
  if r.isComplete then ["  no missing templates"]
  else
    s!"  missing: {r.missing.size}" ::
      r.missingByEvent.toList.map fun e => s!"    - {e.1}: {listed (e.2.map Tag.shown)}"

/-- The combinations of a locale that are not expected. -/
def extraLines (r : Coverage) : List String :=
  if r.extra.isEmpty then ["  no extra templates"]
  else
    s!"  extra (not in taxonomy): {r.extra.size}" ::
      r.extra.toList.map fun c => s!"    - {c.shown}"

/-- The lines about a locale, after an empty one. -/
def localeLines (l : LocaleCoverage) : List String :=
  ["", s!"[{l.locale.code}] {l.catalog} ({l.coverage.actualCount} combinations)"] ++
    missingLines l.coverage ++ extraLines l.coverage

/-- The line of the summary about a locale. -/
def summaryLine (l : LocaleCoverage) : String :=
  let r := l.coverage
  s!"[{l.locale.code}] coverage {r.percent.oneDecimal}% ({r.coveredCount}/{r.expectedCount})"

/-- The summary of all locales. -/
def summary (a : Analysis) : List String :=
  a.locales.map summaryLine ++
    [if a.isComplete then "all templates covered" else "templates are still missing"]

/-- The report on the coverage of locales. -/
def analysis (a : Analysis) : List String :=
  heading "Template coverage" ++
    [s!"taxonomy: {a.eventCount} events, {a.expectedCount} expected combinations"] ++
    a.locales.flatMap localeLines ++ [""] ++ heading "Summary" ++ summary a

/-! ### Synthesis -/

/-- The line about a locale's candidates. -/
def synthesisLine (r : LocaleSynthesis) : String :=
  if r.written then s!"[{r.locale.code}] wrote {r.entries} candidate templates to {r.output}"
  else s!"[{r.locale.code}] nothing missing, skipped"

/-- The report on the candidates that were made. -/
def synthesis (rs : List LocaleSynthesis) : List String :=
  heading "Synthesize missing templates" ++ rs.map synthesisLine ++
    ["review the candidates, then run `tplcov merge`"]

/-! ### Merging -/

/-- The lines about a locale's merge. -/
def mergeLines (r : LocaleMerge) : List String := [
  s!"[{r.locale.code}] {r.catalog}",
  s!"  retained: {r.counts.retained}",
  s!"  added:    {r.counts.added}",
  s!"  rejected: {r.counts.rejected}",
  s!"  total:    {r.counts.total}"]

/-- The report on the candidates that were merged. -/
def merge (rs : List LocaleMerge) : List String :=
  heading "Merge candidate templates" ++ rs.flatMap mergeLines

/-! ### Comparison -/

/-- The lines about a list of gaps, under a title; none without gaps. -/
def gapLines (title : String) (gaps : List Gap) : List String :=
  if gaps.isEmpty then []
  else
    s!"{title}: {gaps.length}" :: gaps.map fun g => s!"  - {g.event}: {listed g.tags}"

/-- The report on what one catalog lacks beside another. -/
def comparison (primary secondary : Locale) (g : Gaps) : List String :=
  heading s!"Templates in [{primary.code}] missing from [{secondary.code}]" ++
    gapLines "events missing entirely" g.absent ++
    gapLines "events missing some tags" g.incomplete ++
    (if g.isEmpty then ["no differences"] else []) ++
    [s!"total: {g.absent.length} missing, {g.incomplete.length} partial " ++
      s!"(`{Tag.sentinel}` marks the default template)"]

/-- The summary has one line for each locale and a verdict. -/
theorem summary_length (a : Analysis) : (summary a).length = a.locales.length + 1 := by
  simp [summary]

/-- Lines as a text. -/
def text (lines : List String) : String := String.join (lines.map (· ++ "\n"))

end TemplateCoverage.Report
