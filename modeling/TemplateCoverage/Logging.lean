import TemplateCoverage.Files.Tree
import TemplateCoverage.Logging.Level

/-!
# `TemplateCoverage.Logging`: setting up the log

A log is set up once, for a level and a destination; asking again for the same is fine and for
anything else an error. Main statements:

* `setUp_some`: a log that is set up stays as it is;
* `setUp_error`: what fails changes nothing.
-/

set_option autoImplicit false

namespace TemplateCoverage

/-- Where a log goes. -/
inductive Destination where
  | standardError
  | directory (path : String)
  deriving DecidableEq

namespace Destination

/-- The name of a destination in messages. -/
def shown : Destination → String
  | .standardError => "stderr"
  | .directory path => path

/-- Whether two destinations are the same place. -/
def same : Destination → Destination → Bool
  | .standardError, .standardError => true
  | .directory a, .directory b => (Path.parse a).same (Path.parse b)
  | _, _ => false

end Destination

/-- A log: from which level on it takes records, and where they go. -/
structure Log where
  level : Level
  destination : Destination
  deriving DecidableEq

/-- Why a log cannot be started. -/
inductive StartFault where
  | noDirectory (path : String) (fault : Fault)
  | noWriter (reason : String)
  deriving DecidableEq

/-- Why a log is not set up as asked for. -/
inductive LoggingError where
  | unsupportedLevel (name : String)
  | emptyDirectory
  | relativeDirectory (path : String)
  | notStarted (fault : StartFault)
  | otherDestination (present wanted : Destination)
  | otherLevel (present wanted : Level)
  deriving DecidableEq

/-- The message about a log. -/
def LoggingError.message : LoggingError → String
  | .unsupportedLevel name =>
    s!"unsupported log level `{Text.cleaned name}`; expected trace|debug|info|warn|error"
  | .emptyDirectory => "log_dir cannot be empty"
  | .relativeDirectory path => s!"log_dir must be an absolute path, got `{path}`"
  | .notStarted (.noDirectory path fault) =>
    s!"failed to create log directory `{path}`: {fault.message}"
  | .notStarted (.noWriter reason) => s!"failed to start logger: {reason}"
  | .otherDestination present wanted =>
    s!"logging already initialized at `{present.shown}`; refusing to switch to `{wanted.shown}`"
  | .otherLevel present wanted =>
    s!"logging already initialized with level `{present.name}`; refusing to switch to " ++
      s!"`{wanted.name}`"

namespace Log

/-- The destination of a directory's name: an absolute path, with blanks around it. -/
def directory (name : String) : Except LoggingError Destination :=
  let path := Text.trim name
  if path = "" then .error .emptyDirectory
  else if (Path.parse path).absolute then .ok (.directory path)
  else .error (.relativeDirectory path)

/-- The log that is asked for by the name of a level and perhaps of a directory. -/
def wanted (level : String) (dir : Option String) : Except LoggingError Log :=
  match Level.parse? level with
  | none => .error (.unsupportedLevel level)
  | some l =>
    match dir with
    | none => .ok ⟨l, .standardError⟩
    | some name =>
      match directory name with
      | .ok destination => .ok ⟨l, destination⟩
      | .error e => .error e

/-- Refuses a log other than the present one. -/
def agree (present wanted : Log) : Except LoggingError Unit :=
  -- A conflict of destinations is told before one of levels.
  if !present.destination.same wanted.destination then
    .error (.otherDestination present.destination wanted.destination)
  else if present.level ≠ wanted.level then .error (.otherLevel present.level wanted.level)
  else .ok ()

/-- Sets the log up unless that is done; `start` tells what becomes of starting it. -/
def setUp (present : Option Log) (level : String) (dir : Option String)
    (start : Log → Except StartFault Unit) : Except LoggingError Unit × Option Log :=
  match wanted level dir with
  | .error e => (.error e, present)
  | .ok log =>
    match present with
    | some p => (agree p log, some p)
    | none =>
      match start log with
      | .ok () => (.ok (), some log)
      | .error fault => (.error (.notStarted fault), none)

/-- Whether a log takes a record of a level. -/
def takes (log : Log) (level : Level) : Bool := log.level.admits level

/-- A log that is set up stays as it is. -/
theorem setUp_some {present : Log} {level : String} {dir : Option String}
    {start : Log → Except StartFault Unit} :
    (setUp (some present) level dir start).2 = some present := by
  unfold setUp
  split <;> rfl

/-- What fails changes nothing. -/
theorem setUp_error {present : Option Log} {level : String} {dir : Option String}
    {start : Log → Except StartFault Unit} {e : LoggingError}
    (h : (setUp present level dir start).1 = .error e) :
    (setUp present level dir start).2 = present := by
  unfold setUp at h ⊢
  split
  · rfl
  · rename_i log asked
    simp only [asked] at h
    cases present with
    | some p => rfl
    | none =>
      dsimp only at h ⊢
      split <;> simp_all

end Log

end TemplateCoverage
