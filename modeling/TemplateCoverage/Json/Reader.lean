import TemplateCoverage.Json.Lexeme

/-!
# `TemplateCoverage.Json.Reader`: reading JSON texts

A text is read lexeme by lexeme against a stack of the arrays and objects that are still open. At
most 127 of them may be open at once. A failure is the line at which reading stops: the line of the
lexeme that cannot stand where it is, or, within a malformed lexeme that could stand there, the line
after the line ends consumed. Main statements:

* `run_append`: reading goes on after a part of the lexemes as after that part alone.
-/

set_option autoImplicit false

namespace TemplateCoverage.Json

/-- How many arrays and objects may be open at once. -/
def maxDepth : Nat := 127

/-- An array or object that is still open around a value: the items before it, the last one first,
or the members before it and its key. -/
inductive Frame where
  | item (before : List Value)
  | member (before : Object) (key : String)

/-- What has been read and what may follow. -/
inductive State where
  /-- A value has to follow. -/
  | value (outer : List Frame)
  /-- An array was opened: a value or its end follows. -/
  | items (outer : List Frame)
  /-- An object was opened: a key or its end follows. -/
  | members (outer : List Frame)
  /-- A key has to follow in an object. -/
  | key (before : Object) (outer : List Frame)
  /-- The colon after a key has to follow. -/
  | colon (before : Object) (key : String) (outer : List Frame)
  /-- A value is complete. -/
  | after (v : Value) (outer : List Frame)

namespace State

/-- Starts a value inside the frames given. A failure counts the line ends consumed. -/
def start (outer : List Frame) : Lexeme → Except Nat State
  | .scalar v => .ok (.after v outer)
  | .text s => .ok (.after (Value.string s) outer)
  | .beginArray => if outer.length < maxDepth then .ok (.items outer) else .error 0
  | .beginObject => if outer.length < maxDepth then .ok (.members outer) else .error 0
  | .brokenText lines => .error lines
  | .brokenScalar lines => .error lines
  | _ => .error 0

/-- Reads one lexeme. A failure counts the line ends consumed. -/
def step : State → Lexeme → Except Nat State
  | .value outer, lexeme => start outer lexeme
  | .items outer, .endArray => .ok (.after (Value.array []) outer)
  | .items outer, lexeme => start (.item [] :: outer) lexeme
  | .members outer, .endObject => .ok (.after (Value.object Object.empty) outer)
  | .members outer, .text name => .ok (.colon Object.empty name outer)
  -- A text may stand here, so reading goes on into it and stops inside.
  | .members _, .brokenText lines => .error lines
  | .key before outer, .text name => .ok (.colon before name outer)
  | .key _ _, .brokenText lines => .error lines
  | .colon before name outer, .colon => .ok (.value (.member before name :: outer))
  | .after v (.item before :: outer), .comma => .ok (.value (.item (v :: before) :: outer))
  | .after v (.item before :: outer), .endArray =>
    .ok (.after (Value.array (v :: before).reverse) outer)
  | .after v (.member before name :: outer), .comma => .ok (.key (before.insert name v) outer)
  | .after v (.member before name :: outer), .endObject =>
    .ok (.after (Value.object (before.insert name v)) outer)
  -- No other lexeme can stand here, and reading stops at its first character.
  | _, _ => .error 0

/-- Reads lexemes one after the other. A failure is the line at which reading stops. -/
def run (state : State) : List (Nat × Lexeme) → Except Nat State
  | [] => .ok state
  | (line, lexeme) :: rest =>
    match state.step lexeme with
    | .ok next => next.run rest
    | .error lines => .error (line + lines)

/-- Reading goes on after a part of the lexemes as after that part alone. -/
theorem run_append (state : State) (first second : List (Nat × Lexeme)) :
    state.run (first ++ second) =
      match state.run first with
      | .ok next => next.run second
      | .error line => .error line := by
  induction first generalizing state with
  | nil => rfl
  | cons l first ih =>
    obtain ⟨line, lexeme⟩ := l
    simp only [List.cons_append, run]
    split
    · exact ih _
    · rfl

end State

/-- The number of the line that a text ends on. -/
def lastLine (cs : List Char) : Nat := 1 + cs.count '\n'

/-- Reads a text. A failure is the number of the line at which reading stops. -/
def read (cs : List Char) : Except Nat Value :=
  match (State.value []).run (lexemes 1 cs) with
  | .ok (.after v []) => .ok v
  -- The text ends too early, when all its line ends are consumed.
  | .ok _ => .error (lastLine cs)
  | .error line => .error line

end TemplateCoverage.Json
