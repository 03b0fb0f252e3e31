import TemplateCoverage.Layout
import TemplateCoverage.Script

/-!
# `TemplateCoverage.Run.Store`: loading and saving documents

Every document loaded or saved leaves a record that says how it went. Main statements:

* `run_load`, `run_save`: what loading and saving do on a machine.
-/

set_option autoImplicit false

namespace TemplateCoverage.Run

/-- A script that may fail. -/
abbrev Attempt (ε α : Type) := ExceptT ε Script α

/-- The document that the answer of a reader gives. -/
def decoded {α : Type} (path : String) (decode : String → Except Defect α) :
    Except Fault String → Except DocumentError α
  | .error fault => .error (DocumentError.unread path fault)
  | .ok text =>
    match decode text with
    | .ok document => .ok document
    | .error defect => .error ⟨path, defect⟩

/-- The record of a load; `sizes` counts events and items of the document. -/
def loadRecord {α : Type} (kind : DocumentKind) (path : String) (sizes : α → Nat × Nat) :
    Except DocumentError α → Record
  | .ok document => .loaded kind path (sizes document).1 (sizes document).2
  | .error e => .notLoaded kind e

/-- Loads a document. -/
def load {α : Type} (kind : DocumentKind) (decode : String → Except Defect α)
    (sizes : α → Nat × Nat) (path : String) : Script (Except DocumentError α) := do
  let result := decoded path decode (← Script.read path)
  Script.record (loadRecord kind path sizes result)
  return result

/-- The events and expected combinations of a taxonomy. -/
def taxonomySizes (t : Taxonomy) : Nat × Nat := (t.eventCount, t.expected.size)

/-- The events and entries of a catalog. -/
def catalogSizes (c : Catalog) : Nat × Nat := (c.eventCount, c.entryCount)

/-- Loads a taxonomy. -/
def loadTaxonomy (path : String) : Attempt DocumentError Taxonomy :=
  ExceptT.mk (load .taxonomy Document.readTaxonomy taxonomySizes path)

/-- Loads a catalog, of candidates or not. -/
def loadCatalog (path : String) : Attempt DocumentError Catalog :=
  ExceptT.mk (load .catalog Document.readCatalog catalogSizes path)

/-- What becomes of a document that is written. -/
def saved (path : String) : Except Fault Unit → Except DocumentError Unit
  | .ok () => .ok ()
  | .error fault => .error ⟨path, .inaccessible fault⟩

/-- The record of a save. -/
def saveRecord (kind : DocumentKind) (path : String) (c : Catalog) :
    Except DocumentError Unit → Record
  | .ok () => .written kind path (catalogSizes c).1 (catalogSizes c).2
  | .error e => .notWritten kind e

/-- Saves a catalog as a text. -/
def save (kind : DocumentKind) (path text : String) (c : Catalog) :
    Script (Except DocumentError Unit) := do
  let result := saved path (← Script.write path text)
  Script.record (saveRecord kind path c result)
  return result

/-- Saves a locale's catalog. -/
def saveCatalog (path : String) (c : Catalog) (locale : Locale) : Attempt DocumentError Unit :=
  ExceptT.mk (save .catalog path (Document.catalogText c locale) c)

/-- Saves a catalog of candidates. -/
def saveCandidates (path : String) (c : Catalog) : Attempt DocumentError Unit :=
  ExceptT.mk (save .candidates path (Document.candidatesText c) c)

/-! ### On a machine -/

/-- A machine that has been told a record. -/
def tell (m : Machine) (r : Record) : Machine := (m.perform (.record r)).2

@[simp] theorem files_tell (m : Machine) (r : Record) : (tell m r).files = m.files := by
  unfold tell Machine.perform
  dsimp only
  split <;> rfl

@[simp] theorem log_tell (m : Machine) (r : Record) : (tell m r).log = m.log := by
  unfold tell Machine.perform
  dsimp only
  split <;> rfl

/-- Loading reads the file and changes none. -/
theorem run_load {α : Type} {kind : DocumentKind} {decode : String → Except Defect α}
    {sizes : α → Nat × Nat} {path : String} {m : Machine} :
    (load kind decode sizes path).run m =
      (decoded path decode (m.files.read path),
        tell m (loadRecord kind path sizes (decoded path decode (m.files.read path)))) := rfl

/-- Saving writes the file. -/
theorem run_save {kind : DocumentKind} {path text : String} {c : Catalog} {m : Machine} :
    (save kind path text c).run m =
      (saved path (m.files.write path text).1,
        tell { m with files := (m.files.write path text).2 }
          (saveRecord kind path c (saved path (m.files.write path text).1))) := rfl

end TemplateCoverage.Run
