import TemplateCoverage.Record

/-!
# `TemplateCoverage.Script`: programs that use files and a log

A script is a tree of requests to the world outside and of what is done with each answer. The same
script runs against the files of a machine and against a machine that is a value. Main statements:

* `run_bind`: a script that goes on with another runs them one after the other.
-/

set_option autoImplicit false

namespace TemplateCoverage

/-- What a script may ask for. -/
inductive Request where
  | read (path : String)
  | write (path text : String)
  | startLog (log : Log)
  | record (r : Record)
  /-- A number of milliseconds that grows with time. -/
  | clock

/-- What a request is answered with. -/
abbrev Request.Answer : Request → Type
  | .read _ => Except Fault String
  | .write _ _ => Except Fault Unit
  | .startLog _ => Except StartFault Unit
  | .record _ => Unit
  | .clock => Nat

/-- A program as a tree of requests. -/
inductive Script (α : Type) where
  | done (a : α)
  | ask (request : Request) (next : request.Answer → Script α)

namespace Script

variable {α β γ : Type}

/-- Goes on with the script that a result gives. -/
def bind : Script α → (α → Script β) → Script β
  | .done a, f => f a
  | .ask request next, f => .ask request fun answer => (next answer).bind f

instance : Monad Script where
  pure := done
  bind := bind

theorem pure_eq (a : α) : (pure a : Script α) = done a := rfl

theorem bind_eq (s : Script α) (f : α → Script β) : s >>= f = s.bind f := rfl

theorem bind_done (s : Script α) : s.bind done = s := by
  induction s with
  | done a => rfl
  | ask request next ih => simp [bind, ih]

theorem bind_assoc (s : Script α) (f : α → Script β) (g : β → Script γ) :
    (s.bind f).bind g = s.bind fun a => (f a).bind g := by
  induction s with
  | done a => rfl
  | ask request next ih => simp [bind, ih]

instance : LawfulMonad Script :=
  LawfulMonad.mk' Script (fun s => bind_done s) (fun _ _ => rfl) bind_assoc

/-! ### Single requests -/

/-- Reads a file. -/
def read (path : String) : Script (Except Fault String) := .ask (.read path) .done

/-- Writes a file. -/
def write (path text : String) : Script (Except Fault Unit) := .ask (.write path text) .done

/-- Starts the log. -/
def startLog (log : Log) : Script (Except StartFault Unit) := .ask (.startLog log) .done

/-- Tells the log something. -/
def record (r : Record) : Script Unit := .ask (.record r) .done

/-- Tells the log several things in order. -/
def records : List Record → Script Unit
  | [] => .done ()
  | r :: rs => .ask (.record r) fun () => records rs

/-- Looks at the clock. -/
def clock : Script Nat := .ask .clock .done

end Script

/-! ### A machine as a value -/

/-- Files, the log that is started, and what it has been told that it takes. -/
structure Machine where
  files : FileTree
  log : Option Log
  told : List Record

namespace Machine

/-- Starts a log: the directory that it goes to is made. -/
def startLog (m : Machine) (log : Log) : Except StartFault Unit × Machine :=
  match log.destination with
  | .standardError => (.ok (), { m with log := some log })
  | .directory path =>
    match m.files.makeDirectories (Path.parse path) with
    | (.ok (), files) => (.ok (), { m with files := files, log := some log })
    | (.error fault, files) => (.error (.noDirectory path fault), { m with files := files })

/-- Answers a request; the clock stands still. -/
def perform (m : Machine) : (request : Request) → request.Answer × Machine
  | .read path => (m.files.read path, m)
  | .write path text =>
    let result := m.files.write path text
    (result.1, { m with files := result.2 })
  | .startLog log => m.startLog log
  | .record r =>
    ((), if m.log.any (·.takes r.level) then { m with told := m.told ++ [r] } else m)
  | .clock => (0, m)

end Machine

namespace Script

variable {α β : Type}

/-- The result of a script and the machine after it. -/
def run : Script α → Machine → α × Machine
  | .done a, m => (a, m)
  | .ask request next, m => (next (m.perform request).1).run (m.perform request).2

/-- A script that goes on with another runs them one after the other. -/
theorem run_bind (s : Script α) (f : α → Script β) (m : Machine) :
    (s.bind f).run m = (f (s.run m).1).run (s.run m).2 := by
  induction s generalizing m with
  | done a => rfl
  | ask request next ih => exact ih _ _

end Script

end TemplateCoverage
