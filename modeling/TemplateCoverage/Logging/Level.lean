import TemplateCoverage.Text.Blank

/-!
# `TemplateCoverage.Logging.Level`: how grave a record is

Records are written to a log from a level on. Main statements:

* `parse?_name`: a level is named by its own name;
* `admits_trans`: what a level admits, a more talkative one admits too.
-/

set_option autoImplicit false

namespace TemplateCoverage

/-- How grave a record is, or from where on a log takes records. -/
inductive Level where
  | trace
  | debug
  | info
  | warn
  | error
  deriving DecidableEq

namespace Level

/-- The name of a level in arguments and messages. -/
def name : Level → String
  | .trace => "trace"
  | .debug => "debug"
  | .info => "info"
  | .warn => "warn"
  | .error => "error"

/-- The name of a level in a log. -/
def label : Level → String
  | .trace => "TRACE"
  | .debug => "DEBUG"
  | .info => "INFO"
  | .warn => "WARN"
  | .error => "ERROR"

/-- The level from where on a log takes records unless told otherwise. -/
def standard : Level := .debug

/-- The place of a level among all, from the least grave on. -/
def rank : Level → Nat
  | .trace => 0
  | .debug => 1
  | .info => 2
  | .warn => 3
  | .error => 4

/-- Whether a log that takes records from one level on takes records of another. -/
def admits (least level : Level) : Bool := least.rank ≤ level.rank

/-- The level of a cleaned name. -/
def ofCleaned? (name : String) : Option Level :=
  [("trace", trace), ("debug", debug), ("info", info), ("warn", warn), ("warning", warn),
    ("error", error)].lookup name

/-- The level of a name in any case, with blanks around it. -/
def parse? (name : String) : Option Level := ofCleaned? (Text.cleaned name)

/-- A level is named by its own name. -/
theorem parse?_name (l : Level) : parse? l.name = some l := by
  cases l <;> decide

/-- What a level admits, a more talkative one admits too. -/
theorem admits_trans {a b c : Level} (h : a.admits b) (h' : b.admits c) : a.admits c := by
  simp only [admits, decide_eq_true_eq] at *
  omega

end Level

end TemplateCoverage
