import TemplateCoverage.CommandLine

/-!
# `TemplateCoverage.Main`: the program on a real machine

The requests of the program are carried out on the files and the standard streams of the machine.
-/

set_option autoImplicit false

namespace TemplateCoverage.Main

/-- The log that is started, with the file that it is written to if it goes to a directory. -/
structure Writer where
  log : Log
  file : Option IO.FS.Handle

/-- The log while the program runs. -/
abbrev Session := IO.Ref (Option Writer)

/-- What a failed action tells. -/
def faultOf (e : IO.Error) : Fault :=
  match e with
  | .noFileOrDirectory _ _ _ => .notFound
  | e => .other e.toString

/-- The result of an action that may fail. -/
def attempt {α : Type} (action : IO α) : IO (Except Fault α) := do
  try return .ok (← action)
  catch e => return .error (faultOf e)

/-- Reads a file. -/
def readText (path : String) : IO (Except Fault String) := do
  match ← attempt (IO.FS.readBinFile path) with
  | .error fault => return .error fault
  | .ok bytes =>
    match String.fromUTF8? bytes with
    | some text => return .ok text
    | none => return .error .notText

/-- Puts a new file in place of what a path leads to, or leaves no trace. -/
def replaceFile (path directory text : String) : IO Unit := do
  IO.FS.createDirAll directory
  -- The draft lies in the same directory, so that renaming it replaces the file at once.
  let draft := Path.join directory s!".tplcov-{← IO.monoNanosNow}.tmp"
  try
    IO.FS.writeFile draft text
    IO.FS.rename draft path
  catch e =>
    try IO.FS.removeFile draft catch _ => pure ()
    throw e

/-- Writes a document. -/
def writeText (path text : String) : IO (Except Fault Unit) :=
  attempt (replaceFile path (FileTree.documentDirectory (Path.parse path)).text text)

/-- Starts the log. -/
def startLog (session : Session) (log : Log) : IO (Except StartFault Unit) := do
  match log.destination with
  | .standardError =>
    session.set (some ⟨log, none⟩)
    return .ok ()
  | .directory path =>
    match ← attempt (IO.FS.createDirAll path) with
    | .error fault => return .error (.noDirectory path fault)
    | .ok () =>
      match ← attempt (IO.FS.Handle.mk (Path.join path "tplcov.log") .append) with
      | .error fault => return .error (.noWriter fault.message)
      | .ok file =>
        session.set (some ⟨log, some file⟩)
        return .ok ()

/-- Tells the log something. -/
def record (session : Session) (r : Record) : IO Unit := do
  match ← session.get with
  | none => return
  | some writer =>
    if writer.log.takes r.level then
      match writer.file with
      | some file =>
        file.putStrLn r.line
        file.flush
      | none => (← IO.getStderr).putStrLn r.line

/-- Answers a request. -/
def answer (session : Session) : (request : Request) → IO request.Answer
  | .read path => readText path
  | .write path text => writeText path text
  | .startLog log => startLog session log
  | .record r => record session r
  | .clock => IO.monoMsNow

/-- Carries a script out. -/
def execute {α : Type} (session : Session) : Script α → IO α
  | .done a => return a
  | .ask request next => do execute session (next (← answer session request))

end TemplateCoverage.Main

open TemplateCoverage in
/-- Runs the program. -/
def main (args : List String) : IO UInt32 := do
  let session ← IO.mkRef none
  let exit ← Main.execute session (CommandLine.program args)
  (← IO.getStdout).putStr exit.output
  match exit.failure with
  | some failure => (← IO.getStderr).putStr (CommandLine.complaint failure)
  | none => pure ()
  return exit.code.toUInt32
