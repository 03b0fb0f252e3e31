import TemplateCoverage.Yaml.Spot

/-!
# `TemplateCoverage.Yaml.Block`: block scalars

A block scalar holds the lines below it that are indented far enough. A literal one keeps its line
ends; in a folded one a line end between two lines that do not start with a blank becomes a blank.
The line ends at its end are dropped, kept, or reduced to one. Main statements:

* `Block.finish_strip`: a scalar that drops the line ends at its end is its text alone.
-/

set_option autoImplicit false

namespace TemplateCoverage.Yaml

/-- What becomes of the line ends at the end of a block scalar. -/
inductive Chomping where
  | strip
  | clip
  | keep
  deriving DecidableEq

/-- A block scalar as far as it is read. -/
structure Block where
  folded : Bool
  chomping : Chomping
  /-- The column of its lines, once it is known. -/
  indent : Option Nat
  /-- The least column that its lines may have. -/
  least : Nat
  /-- The furthest column that blanks reach before the column of the lines is known. -/
  furthest : Nat
  text : List Char
  /-- Whether a line is being read. -/
  inLine : Bool
  /-- Whether the last line starts with a blank. -/
  blankLine : Bool
  /-- The line end of the last line. -/
  lineEnd : List Char
  /-- The line ends of the empty lines after it. -/
  emptyLines : List Char

namespace Block

/-- How a first line asks for the line ends at the end. -/
def chomping? (s : Spot) : Option Chomping :=
  if s.char = '+' then some .keep else if s.char = '-' then some .strip else none

/-- The indentation that a first line asks for. -/
def increment? (s : Spot) : Option Nat :=
  if '0' ≤ s.char ∧ s.char ≤ '9' then some (s.char.toNat - '0'.toNat) else none

/-- The indicators of a first line, in either order, and the rest of it. -/
def indicators (spots : List Spot) : Option Chomping × Option Nat × List Spot :=
  match spots with
  | [] => (none, none, [])
  | s :: rest =>
    match chomping? s, increment? s with
    | some chomping, _ =>
      match rest.head?.bind increment? with
      | some n => (some chomping, some n, rest.tail)
      | none => (some chomping, none, rest)
    | none, some n =>
      match rest.head?.bind chomping? with
      | some chomping => (some chomping, some n, rest.tail)
      | none => (none, some n, rest)
    | none, none => (none, none, s :: rest)

/-- The column of the lines if the first of them starts here. -/
def column (b : Block) : Nat := b.indent.getD (max b.furthest b.least)

/-- Starts a line with its first character. -/
def startLine (b : Block) (s : Spot) : Block :=
  let joined :=
    -- Lines that start with a blank are laid out on purpose, so the line ends around them stay.
    if b.folded && b.lineEnd == ['\n'] && !b.blankLine && !s.isBlank then
      if b.emptyLines.isEmpty then [' '] else []
    else b.lineEnd
  { b with
    indent := some b.column
    text := b.text ++ joined ++ b.emptyLines ++ [s.char]
    inLine := true
    blankLine := s.isBlank
    lineEnd := []
    emptyLines := [] }

/-- The text with the line ends at its end that are kept. -/
def finish (b : Block) : List Char :=
  match b.chomping with
  | .strip => b.text
  | .clip => b.text ++ b.lineEnd
  | .keep => b.text ++ b.lineEnd ++ b.emptyLines

/-- Reads the lines of a block scalar. -/
def lines (b : Block) : List Spot → Except Problem (List Char × List Spot)
  | [] => .ok (b.finish, [])
  | s :: rest =>
    if b.inLine then
      if s.isBreak then lines { b with inLine := false, lineEnd := [s.char] } rest
      else lines { b with text := b.text ++ [s.char] } rest
    else if s.isBlank && b.indent.all (s.column < ·) then
      if s.char = '\t' then .error .tab
      else lines { b with furthest := max b.furthest (s.column + 1) } rest
    else if s.isBreak then lines { b with emptyLines := b.emptyLines ++ [s.char] } rest
    -- The first line with content fixes the column of all; a line further out ends the scalar.
    else if s.column = b.column then lines (b.startLine s) rest
    else .ok (b.finish, s :: rest)

/-- Reads a block scalar after its first character, inside a block at a column or at none. -/
def read (folded : Bool) (outer : Option Nat) (spots : List Spot) :
    Except Problem (List Char × List Spot) :=
  let (chomping, increment, rest) := indicators spots
  if increment = some 0 then .error .header
  else
    match Spot.lineRest? rest with
    | none => .error .header
    | some rest =>
      lines {
        folded := folded
        chomping := chomping.getD .clip
        indent := increment.map (outer.getD 0 + ·)
        least := (outer.map (· + 1)).getD 1
        furthest := 0
        text := []
        inLine := false
        blankLine := false
        lineEnd := []
        emptyLines := [] } rest

/-- A scalar that drops the line ends at its end is its text alone. -/
theorem finish_strip {b : Block} (h : b.chomping = .strip) : b.finish = b.text := by
  simp [finish, h]

end Block

end TemplateCoverage.Yaml
