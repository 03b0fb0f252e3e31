import TemplateCoverage.Yaml.Spot

/-!
# `TemplateCoverage.Yaml.Scalar`: quoted and plain scalars

A scalar between quotes, or a plain one, may run over several lines. The blanks around a line end
and the line end itself are folded into one blank; further line ends are kept. Main statements:

* `Gap.text_blanks`: blanks within a line stay as they are.
-/

set_option autoImplicit false

namespace TemplateCoverage.Yaml

/-- Blanks and line ends between two pieces of a scalar. -/
structure Gap where
  /-- The blanks, while there is no line end. -/
  blanks : List Char
  /-- Whether there is a line end. -/
  broken : Bool
  /-- The first line end, unless it is escaped. -/
  first : List Char
  /-- The line ends after the first one. -/
  more : List Char

namespace Gap

/-- No blanks and no line ends. -/
def empty : Gap := ⟨[], false, [], []⟩

/-- A line end that is escaped. -/
def escaped : Gap := ⟨[], true, [], []⟩

/-- Whether there are neither blanks nor line ends. -/
def isEmpty (g : Gap) : Bool := g.blanks.isEmpty && !g.broken

/-- Adds a blank; blanks around line ends do not count. -/
def addBlank (g : Gap) (c : Char) : Gap :=
  if g.broken then g else { g with blanks := g.blanks ++ [c] }

/-- Adds a line end. -/
def addBreak (g : Gap) (c : Char) : Gap :=
  if g.broken then { g with more := g.more ++ [c] } else ⟨[], true, [c], []⟩

/-- What the gap stands for. -/
def text (g : Gap) : List Char :=
  if !g.broken then g.blanks
  -- Only a plain line end is folded; a line or paragraph separator stays.
  else if g.first ≠ ['\n'] then g.first ++ g.more
  else if g.more.isEmpty then [' '] else g.more

/-- Blanks within a line stay as they are. -/
theorem text_blanks {g : Gap} (h : g.broken = false) : g.text = g.blanks := by
  simp [text, h]

end Gap

namespace Scalar

/-! ### Between single quotes -/

/-- The rest of a scalar between single quotes, in which two quotes stand for one. -/
def single (text : List Char) (gap : Gap) : List Spot → Except Problem (List Char × List Spot)
  | [] => .error .unclosed
  | s :: rest =>
    if Spot.startsDocumentMark (s :: rest) then .error .unclosed
    else if s.isBlank then single text (gap.addBlank s.char) rest
    else if s.isBreak then single text (gap.addBreak s.char) rest
    else if s.char = '\x27' then
      match rest with
      | q :: rest =>
        if q.char = '\x27' then single (text ++ gap.text ++ ['\x27']) Gap.empty rest
        else .ok (text ++ gap.text, q :: rest)
      | [] => .ok (text ++ gap.text, [])
    else single (text ++ gap.text ++ [s.char]) Gap.empty rest

/-! ### Between double quotes -/

/-- Where the reader of a scalar between double quotes is. -/
inductive Escape where
  | outside
  /-- After a backslash. -/
  | started
  /-- Within a hexadecimal code. -/
  | code (left value : Nat)

/-- The character that a letter after a backslash stands for. -/
def escapes : List (Char × Char) := [
  ('0', '\x00'), ('a', '\x07'), ('b', '\x08'), ('t', '\t'), ('\t', '\t'), ('n', '\n'),
  ('v', '\x0b'), ('f', '\x0c'), ('r', '\x0d'), ('e', '\x1b'), (' ', ' '), ('"', '"'),
  ('/', '/'), ('\\', '\\'), ('N', '\u0085'), ('_', '\u00a0'), ('L', '\u2028'), ('P', '\u2029')]

/-- How many hexadecimal digits follow a letter after a backslash. -/
def codeLengths : List (Char × Nat) := [('x', 2), ('u', 4), ('U', 8)]

/-- The rest of a scalar between double quotes. -/
def double (text : List Char) (gap : Gap) (escape : Escape) :
    List Spot → Except Problem (List Char × List Spot)
  | [] => .error .unclosed
  | s :: rest =>
    match escape with
    | .outside =>
      if Spot.startsDocumentMark (s :: rest) then .error .unclosed
      else if s.isBlank then double text (gap.addBlank s.char) .outside rest
      else if s.isBreak then double text (gap.addBreak s.char) .outside rest
      else if s.char = '"' then .ok (text ++ gap.text, rest)
      else if s.char = '\\' then double (text ++ gap.text) Gap.empty .started rest
      else double (text ++ gap.text ++ [s.char]) Gap.empty .outside rest
    | .started =>
      -- An escaped line end leaves nothing behind, not even the blanks after it.
      if s.isBreak then double text Gap.escaped .outside rest
      else
        match escapes.lookup s.char, codeLengths.lookup s.char with
        | some c, _ => double (text ++ [c]) Gap.empty .outside rest
        | none, some length => double text Gap.empty (.code length 0) rest
        | none, none => .error .escape
    | .code left value =>
      match s.hexValue? with
      | none => .error .escape
      | some digit =>
        let value := value * 16 + digit
        if 1 < left then double text Gap.empty (.code (left - 1) value) rest
        -- Half of a surrogate pair is no character.
        else if value.isValidChar then
          double (text ++ [Char.ofNat value]) Gap.empty .outside rest
        else .error .escape

/-! ### Plain scalars -/

/-- Whether a colon stands before a character that it may not stand before in a flow collection. -/
def isBadColon (s : Spot) (rest : List Spot) : Bool :=
  s.char == ':' && (rest.head?.any fun t => [',', '?', '[', ']', '\x7b', '\x7d'].contains t.char)

/-- Whether a character ends a plain scalar. -/
def endsPlain (inFlow : Bool) (s : Spot) (rest : List Spot) : Bool :=
  Spot.isAlone ':' (s :: rest) ||
    (inFlow && [',', '[', ']', '\x7b', '\x7d'].contains s.char)

/-- Whether a line or a comment that ends a plain scalar starts here. -/
def endsPiece (inFlow : Bool) (indent : Nat) (s : Spot) (rest : List Spot) : Bool :=
  (!inFlow && decide (s.column < indent)) || s.char == '#' || Spot.startsDocumentMark (s :: rest)

/-- The rest of a plain scalar, with whether it ends behind a line end. -/
def plain (inFlow : Bool) (indent : Nat) (text : List Char) (gap : Gap) :
    List Spot → Except Problem (List Char × Bool × List Spot)
  | [] => .ok (text, gap.broken, [])
  | s :: rest =>
    if s.isBlank then
      -- A tab is no indentation, so it must not come before the column of the block.
      if gap.broken ∧ s.column < indent ∧ s.char = '\t' then .error .tab
      else plain inFlow indent text (gap.addBlank s.char) rest
    else if s.isBreak then plain inFlow indent text (gap.addBreak s.char) rest
    else if !gap.isEmpty && endsPiece inFlow indent s rest then .ok (text, gap.broken, s :: rest)
    else if inFlow && isBadColon s rest then .error .colon
    else if endsPlain inFlow s rest then .ok (text, gap.broken, s :: rest)
    else plain inFlow indent (text ++ gap.text ++ [s.char]) Gap.empty rest

end Scalar

end TemplateCoverage.Yaml
