import TemplateCoverage.CommandLine.Arguments
import TemplateCoverage.Report

/-!
# `TemplateCoverage.CommandLine`: the program

The program reads its arguments, sets the log up and runs. It ends with the code 0, with 1 if an
analysis finds templates missing, and with 2 on a failure, which it names. Main statements:

* `program_refused`: arguments that are not understood end the program at once.
-/

set_option autoImplicit false

namespace TemplateCoverage

/-- Why the program fails. -/
inductive Failure where
  | usage
  | logging (e : LoggingError)
  | run (e : RunError)

/-- What the program leaves behind when it ends. -/
structure Exit where
  code : Nat
  output : String
  failure : Option Failure

namespace CommandLine

/-- How the program is used. -/
def usage : String :=
  "Usage: tplcov [OPTIONS] <analyze|synthesize|merge|compare> [OPTIONS]\n" ++
    "Options: --config-dir --taxonomy --en-catalog --en-candidates --cn-catalog\n" ++
    "  --cn-candidates --log-level --log-dir, each with a value;\n" ++
    "  --locale for a run over locales, --primary and --secondary for compare\n"

/-- What the program says about a failure. -/
def complaint : Failure → String
  | .usage => "error: the arguments are not understood\n\n" ++ usage
  | .logging e => s!"error: {e.message}\n"
  | .run e => s!"error: {e.message}\n"

/-- A success with an exit code and a report. -/
def reported (code : Nat) (lines : List String) : Exit := ⟨code, Report.text lines, none⟩

/-- The exit after an analysis. -/
def afterAnalysis (a : Analysis) : Exit :=
  reported (if a.isComplete then 0 else 1) (Report.analysis a)

/-- A run with its options. -/
def perform (layout : Layout) (name : RunName) (after : Settings) : Run.Attempt RunError Exit :=
  match name with
  | .analyze => do
    let locales ← Run.locales (after.all .locale)
    return afterAnalysis (← Run.analyze layout locales)
  | .synthesize => do
    let locales ← Run.locales (after.all .locale)
    return reported 0 (Report.synthesis (← Run.synthesize Card.entry layout locales))
  | .merge => do
    let locales ← Run.locales (after.all .locale)
    return reported 0 (Report.merge (← Run.merge layout locales))
  | .compare => do
    let primary ← Run.locale ((after.get? .primary).getD "en")
    let secondary ← Run.locale ((after.get? .secondary).getD "cn")
    return reported 0 (Report.comparison primary secondary (← Run.compare layout primary secondary))

/-- Starts the log that is asked for and tells it so. -/
def startLog (level : String) (dir : Option String) : Script (Except LoggingError Unit) :=
  match Log.wanted level dir with
  | .error e => return .error e
  -- Only a log that can be asked for is started, and what comes of that decides.
  | .ok log => do
    let started ← Script.startLog log
    match (Log.setUp none level dir fun _ => started).1 with
    | .error e => return .error e
    | .ok () =>
      Script.records [.programStarted, .logStarted log]
      return .ok ()

/-- The exit of a run that may have failed. -/
def exitOf : Except RunError Exit → Exit
  | .ok exit => exit
  | .error e => ⟨2, "", some (.run e)⟩

/-- Sets the log up and runs. -/
def runWith (before : Settings) (name : RunName) (after : Settings) : Script Exit := do
  let level := (before.either after .logLevel).getD Level.standard.name
  match ← startLog level (before.either after .logDir) with
  | .error e => return ⟨2, "", some (.logging e)⟩
  | .ok () => return exitOf (← (perform (before.layout after) name after).run)

/-- The program for its arguments. -/
def program (args : List String) : Script Exit :=
  match Arguments.read args with
  | .run before name after => runWith before name after
  | .version => return ⟨0, s!"tplcov {version}\n", none⟩
  | .help => return ⟨0, usage, none⟩
  | .refused => return ⟨2, "", some .usage⟩

/-- Arguments that are not understood end the program at once. -/
theorem program_refused {args : List String} (h : Arguments.read args = .refused) :
    program args = .done ⟨2, "", some .usage⟩ := by
  unfold program
  rw [h]
  rfl

end CommandLine

end TemplateCoverage
