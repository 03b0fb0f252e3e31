import TemplateCoverage.Catalog.Merge
import TemplateCoverage.Coverage
import TemplateCoverage.Document
import TemplateCoverage.Logging

/-!
# `TemplateCoverage.Record`: the records of a log

Every step of a run leaves a record. A record is written as fields, the first of which name what
happened, the part of the program and the outcome. Main statements:

* `text_eq`: a record is its fields with blanks between them.
-/

set_option autoImplicit false

namespace TemplateCoverage

/-- Why a run fails. -/
inductive RunError where
  | document (e : DocumentError)
  | refused (locale : Locale) (e : EntryError)
  | noLocale (name : String)

/-- The message about a failed run. -/
def RunError.message : RunError → String
  | .document e => e.message
  | .refused locale e => s!"synthesis failed for locale `{locale.code}`: {e.message}"
  | .noLocale name => Locale.unsupported name

/-- The runs. -/
inductive Operation where
  | analyze
  | synthesize
  | merge
  | compare
  deriving DecidableEq

/-- The name of a run. -/
def Operation.name : Operation → String
  | .analyze => "analyze"
  | .synthesize => "synthesize"
  | .merge => "merge"
  | .compare => "compare"

/-- The kinds of documents. -/
inductive DocumentKind where
  | taxonomy
  | catalog
  | candidates
  deriving DecidableEq

/-- The name of a kind of document. -/
def DocumentKind.name : DocumentKind → String
  | .taxonomy => "taxonomy"
  | .catalog => "catalog"
  | .candidates => "candidates"

/-- What a log is told. -/
inductive Record where
  | programStarted
  | logStarted (log : Log)
  | crashed (location payload : String)
  | loaded (kind : DocumentKind) (path : String) (events items : Nat)
  | notLoaded (kind : DocumentKind) (e : DocumentError)
  | written (kind : DocumentKind) (path : String) (events items : Nat)
  | notWritten (kind : DocumentKind) (e : DocumentError)
  | started (operation : Operation)
  | finished (operation : Operation) (milliseconds : Nat)
  | failed (operation : Operation) (milliseconds : Nat) (e : RunError)
  | measured (locale : Locale) (coverage : Coverage)
  | merged (locale : Locale) (counts : MergeCounts)
  | rejected (event : String) (tags : List String)
  | synthesized (locale : Locale) (combination : Combination)

/-- The version of the program. -/
def version : String := "0.1.0"

namespace Record

/-- How grave a record is. -/
def level : Record → Level
  | .crashed _ _ => .error
  | .notLoaded _ _ => .error
  | .notWritten _ _ => .error
  | .failed _ _ _ => .error
  | .rejected _ _ => .debug
  | .synthesized _ _ => .debug
  | _ => .info

/-- The part of the program that a record comes from. -/
def source : Record → String
  | .programStarted => "tplcov_core::logging"
  | .logStarted _ => "tplcov_core::logging"
  | .crashed _ _ => "tplcov_core::logging"
  | .loaded _ _ _ _ => "tplcov_core::document::loader"
  | .notLoaded _ _ => "tplcov_core::document::loader"
  | .written _ _ _ _ => "tplcov_core::document::writer"
  | .notWritten _ _ => "tplcov_core::document::writer"
  | .rejected _ _ => "tplcov_core::merge::merger"
  | .synthesized _ _ => "tplcov_core::synth"
  | _ => "tplcov_core::service::coverage_service"

/-- The fields that every record has. -/
def heading (event part status : String) : List (String × String) :=
  [("event", event), ("module", part), ("status", status)]

/-- The fields about a document. -/
def documentFields (kind : DocumentKind) (path : String) : List (String × String) :=
  [("kind", kind.name), ("path", path)]

/-- The fields that count what a document holds. -/
def countFields (events items : Nat) : List (String × String) :=
  [("events", toString events), ("items", toString items)]

/-- The fields of a record. -/
def fields : Record → List (String × String)
  | .programStarted =>
    heading "app_start" "core" "ok" ++
      [("platform", "linux"), ("build_mode", "debug"), ("version", version)]
  | .logStarted log =>
    heading "logging_init" "core" "ok" ++
      [("level", log.level.name), ("destination", log.destination.shown)]
  | .crashed location payload =>
    heading "panic_captured" "core" "error" ++ [("location", location), ("payload", payload)]
  | .loaded kind path events items =>
    heading "document_load" "document" "ok" ++ documentFields kind path ++ countFields events items
  | .notLoaded kind e =>
    heading "document_load" "document" "error" ++ documentFields kind e.path ++
      [("error", e.message)]
  | .written kind path events items =>
    heading "document_write" "document" "ok" ++ documentFields kind path ++ countFields events items
  | .notWritten kind e =>
    heading "document_write" "document" "error" ++ documentFields kind e.path ++
      [("error", e.message)]
  | .started operation => heading operation.name "service" "start"
  | .finished operation ms =>
    heading operation.name "service" "ok" ++ [("duration_ms", toString ms)]
  | .failed operation ms e =>
    heading operation.name "service" "error" ++
      [("duration_ms", toString ms), ("error", e.message)]
  | .measured locale r =>
    heading "coverage" "service" "ok" ++
      [("locale", locale.code), ("expected", toString r.expectedCount),
        ("covered", toString r.coveredCount), ("missing", toString r.missing.size),
        ("extra", toString r.extra.size)]
  | .merged locale n =>
    heading "merge" "service" "ok" ++
      [("locale", locale.code), ("retained", toString n.retained), ("added", toString n.added),
        ("rejected", toString n.rejected), ("total", toString n.total)]
  | .rejected event tags =>
    heading "merge_reject" "merge" "ok" ++ [("event_name", event), ("tags", Text.quotedList tags)]
  | .synthesized locale c =>
    heading "synthesize_entry" "synth" "ok" ++
      [("locale", locale.code), ("combination", c.shown)]

/-- Fields with blanks between them. -/
def textOfFields (fields : List (String × String)) : String :=
  " ".intercalate (fields.map fun f => f.1 ++ "=" ++ f.2)

/-- A record as a text. -/
def text (r : Record) : String := textOfFields r.fields

/-- A record as a line of a log. -/
def line (r : Record) : String := s!"{r.level.label} [{r.source}] {r.text}"

/-- A record is its fields with blanks between them. -/
theorem text_eq (r : Record) :
    r.text = " ".intercalate (r.fields.map fun f => f.1 ++ "=" ++ f.2) := rfl

/-! ### Crashes -/

/-- How many characters of a crash's message are kept. -/
def maxPayload : Nat := 160

/-- A crash's message on one line, cut where it is too long. -/
def payloadText (message : String) : String :=
  let flat := message.toList.map fun c => if c = '\n' ∨ c = '\x0d' then ' ' else c
  String.ofList (flat.take maxPayload ++ if maxPayload < flat.length then ['.', '.', '.'] else [])

end Record

end TemplateCoverage
