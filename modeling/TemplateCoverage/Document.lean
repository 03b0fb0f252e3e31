import TemplateCoverage.Catalog.Schema
import TemplateCoverage.Comment
import TemplateCoverage.Files.Tree
import TemplateCoverage.Json.Printer
import TemplateCoverage.Json.Reader
import TemplateCoverage.Locale
import TemplateCoverage.Taxonomy.Schema

/-!
# `TemplateCoverage.Document`: documents as texts

A catalog is read from JSON with comments and written as JSON; a taxonomy is read from YAML. Main
statements:

* `readCatalog_eq_ok_iff`: which texts are catalogs;
* `message_eq`: a message starts with its summary.
-/

set_option autoImplicit false

namespace TemplateCoverage

/-- Why a document cannot be used. -/
inductive Defect where
  | missing
  | inaccessible (fault : Fault)
  /-- The text is no JSON; reading stops at a line. -/
  | notJson (line : Nat)
  | notYaml (problem : Yaml.Problem)
  | misshaped (error : SchemaError)

/-- A document that cannot be used. -/
structure DocumentError where
  path : String
  defect : Defect

namespace DocumentError

/-- What is wrong, without the reason that a reader of files or texts gives. -/
def summary (e : DocumentError) : String :=
  match e.defect with
  | .missing => s!"document not found: `{e.path}`"
  | .inaccessible _ => s!"I/O error on `{e.path}`"
  | .notJson _ => s!"failed to parse `{e.path}`"
  | .notYaml _ => s!"failed to parse `{e.path}`"
  | .misshaped err => s!"invalid document `{e.path}`: {err.message}"

/-- The reason that a reader of files or texts gives. -/
def reason? (e : DocumentError) : Option String :=
  match e.defect with
  | .missing => none
  | .inaccessible fault => some fault.message
  | .notJson line => some s!"invalid JSON at line {line}"
  | .notYaml problem => some problem.message
  | .misshaped _ => none

/-- The message about a document. -/
def message (e : DocumentError) : String :=
  match e.reason? with
  | some reason => e.summary ++ ": " ++ reason
  | none => e.summary

/-- A message starts with its summary. -/
theorem message_eq (e : DocumentError) :
    e.message = e.summary ++ (e.reason?.map (": " ++ ·)).getD "" := by
  unfold message
  cases e.reason? <;> simp [String.append_assoc]

/-- The error of a document that cannot be read. -/
def unread (path : String) (fault : Fault) : DocumentError :=
  ⟨path, if fault = .notFound then .missing else .inaccessible fault⟩

end DocumentError

namespace Document

/-- The catalog of a text. -/
def readCatalog (text : String) : Except Defect Catalog :=
  match Json.read (Comment.strip text.toList) with
  | .error line => .error (.notJson line)
  | .ok v =>
    match Catalog.ofValue v with
    | .error err => .error (.misshaped err)
    | .ok c => .ok c

/-- The taxonomy of a text. -/
def readTaxonomy (text : String) : Except Defect Taxonomy :=
  match Taxonomy.ofText text with
  | .error problem => .error (.notYaml problem)
  | .ok t => .ok t

/-- The value of a catalog as a document. -/
def value (c : Catalog) : Json.Value :=
  Json.Value.object (Json.Object.ofList [(Catalog.templatesKey, Json.Value.object c.toObject)])

/-- A catalog of candidates as a text. -/
def candidatesText (c : Catalog) : String := Json.render .indented (value c) ++ "\n"

/-- The comments above a locale's catalog. -/
def headerText (locale : Locale) : String :=
  String.join (locale.header.map fun line => "// " ++ line ++ "\n") ++ "\n"

/-- A locale's catalog as a text. -/
def catalogText (c : Catalog) (locale : Locale) : String := headerText locale ++ candidatesText c

/-- Which texts are catalogs: those that are JSON of the right shape without the comments. -/
theorem readCatalog_eq_ok_iff {text : String} {c : Catalog} :
    readCatalog text = .ok c ↔
      ∃ v, Json.read (Comment.strip text.toList) = .ok v ∧ Catalog.ofValue v = .ok c := by
  unfold readCatalog
  split
  · rename_i stopped
    simp [stopped]
  · rename_i v read
    simp only [read, Except.ok.injEq, exists_eq_left']
    split <;> simp_all

end Document

end TemplateCoverage
