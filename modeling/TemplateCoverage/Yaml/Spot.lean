import TemplateCoverage.Yaml.Problem

/-!
# `TemplateCoverage.Yaml.Spot`: characters in their places

A text as a list of characters that know their line and column. A line end of any spelling is one
character, and a character that the format does not allow is refused. Main statements:

* `isBlankEnd_nil`, `isBlankEnd_cons`: what ends a word.
-/

set_option autoImplicit false

namespace TemplateCoverage.Yaml

/-- A character with its place. -/
structure Spot where
  char : Char
  line : Nat
  column : Nat
  /-- How many characters of the text come before it. -/
  index : Nat

namespace Spot

/-- Whether a character may stand in a text. -/
def isAllowed (c : Char) : Bool :=
  c == '\t' || c == '\n' || c == '\x0d' || (' ' ≤ c && c ≤ '~') || c == '\u0085' ||
    ('\u00a0' ≤ c && c ≤ '\ud7ff') || ('\ue000' ≤ c && c ≤ '\ufffd') || '\uffff' < c

/-- The character that a line end is kept as, if the character is one. -/
def lineEnd? (c : Char) : Option Char :=
  if c = '\n' ∨ c = '\x0d' ∨ c = '\u0085' then some '\n'
  else if c = '\u2028' ∨ c = '\u2029' then some c
  else none

/-- The spots of a text that starts at a place. -/
def ofTextAt (line column index : Nat) : List Char → Except Problem (List Spot)
  | [] => .ok []
  | '\x0d' :: '\n' :: rest => do
    return ⟨'\n', line, column, index⟩ :: (← ofTextAt (line + 1) 0 (index + 2) rest)
  | c :: rest =>
    if !isAllowed c then .error .character
    else
      match lineEnd? c with
      | some kept => do
        return ⟨kept, line, column, index⟩ :: (← ofTextAt (line + 1) 0 (index + 1) rest)
      | none => do
        return ⟨c, line, column, index⟩ :: (← ofTextAt line (column + 1) (index + 1) rest)

/-- The spots of a text. -/
def ofText (cs : List Char) : Except Problem (List Spot) := ofTextAt 0 0 0 cs

/-- Whether the character is a line end. -/
def isBreak (s : Spot) : Bool := s.char == '\n' || s.char == '\u2028' || s.char == '\u2029'

/-- Whether the character is a blank or a tab. -/
def isBlank (s : Spot) : Bool := s.char == ' ' || s.char == '\t'

/-- Whether the character may stand in the name of an anchor, a handle or a directive. -/
def isWord (s : Spot) : Bool :=
  (s.char.isAlphanum && s.char.toNat < 0x80) || s.char == '_' || s.char == '-'

/-- The value of a hexadecimal digit. -/
def hexValue? (s : Spot) : Option Nat :=
  if '0' ≤ s.char ∧ s.char ≤ '9' then some (s.char.toNat - '0'.toNat)
  else if 'a' ≤ s.char ∧ s.char ≤ 'f' then some (s.char.toNat - 'a'.toNat + 10)
  else if 'A' ≤ s.char ∧ s.char ≤ 'F' then some (s.char.toNat - 'A'.toNat + 10)
  else none

/-- Whether the text ends, or a blank, a tab or a line end follows. -/
def isBlankEnd : List Spot → Bool
  | [] => true
  | s :: _ => s.isBlank || s.isBreak

/-- Whether a character and then a blank, a line end or the end follow. -/
def isAlone (c : Char) : List Spot → Bool
  | [] => false
  | s :: rest => s.char == c && isBlankEnd rest

/-- Whether a line starts with a mark of three characters that is a word of its own. -/
def startsMark (mark : Char) : List Spot → Bool
  | a :: b :: c :: rest =>
    a.column == 0 && a.char == mark && b.char == mark && c.char == mark && isBlankEnd rest
  | _ => false

/-- Whether a line starts with the mark of the start or the end of a document. -/
def startsDocumentMark (spots : List Spot) : Bool := startsMark '-' spots || startsMark '.' spots

/-- The rest of the text from the next character on that is neither blank nor tab. -/
def skipBlanks (spots : List Spot) : List Spot := spots.dropWhile isBlank

/-- The rest of the text from the next line end on. -/
def skipLine (spots : List Spot) : List Spot := spots.dropWhile (!·.isBreak)

/-- The text after blanks, a comment and a line end; nothing else may stand before it. -/
def lineRest? (spots : List Spot) : Option (List Spot) :=
  let rest := skipBlanks spots
  let rest := if (rest.head?.map (·.char)) == some '#' then skipLine rest else rest
  match rest with
  | [] => some []
  | s :: rest => if s.isBreak then some rest else none

@[simp] theorem isBlankEnd_nil : isBlankEnd [] = true := rfl

@[simp] theorem isBlankEnd_cons {s : Spot} {rest : List Spot} :
    isBlankEnd (s :: rest) = (s.isBlank || s.isBreak) := rfl

end Spot

end TemplateCoverage.Yaml
