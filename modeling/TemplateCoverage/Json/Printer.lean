import TemplateCoverage.Json

/-!
# `TemplateCoverage.Json.Printer`: writing JSON texts

A value is written on one line without blanks, or with every item and member on a line of its own,
indented by two blanks for each array or object around it. An empty array or object stays closed up.
Main statements:

* `printText_eq`: a text is its characters' escapes between two quotes.
-/

set_option autoImplicit false

namespace TemplateCoverage.Json

/-- How a value is laid out. -/
inductive Style where
  | compact
  | indented
  deriving DecidableEq

/-- What stands before an item, a member or a closing bracket at a depth. -/
def Style.line : Style → Nat → List Char
  | .compact, _ => []
  | .indented, depth => '\n' :: List.replicate (2 * depth) ' '

/-- What stands between a key and its value. -/
def Style.colon : Style → List Char
  | .compact => [':']
  | .indented => [':', ' ']

/-- A control character as an escape of four hexadecimal digits. -/
def controlEscape (c : Char) : List Char :=
  ['\\', 'u', '0', '0', Nat.digitChar (c.toNat / 16), Nat.digitChar (c.toNat % 16)]

/-- How a character is written in a text. -/
def printChar (c : Char) : List Char :=
  if c = '"' then ['\\', '"']
  else if c = '\\' then ['\\', '\\']
  else if c = '\x08' then ['\\', 'b']
  else if c = '\x0c' then ['\\', 'f']
  else if c = '\n' then ['\\', 'n']
  else if c = '\x0d' then ['\\', 'r']
  else if c = '\t' then ['\\', 't']
  else if c < ' ' then controlEscape c
  else [c]

/-- A text between quotes. -/
def printText (s : String) : List Char :=
  '"' :: (s.toList.flatMap printChar ++ ['"'])

mutual

/-- A value at a depth. -/
def print (style : Style) (depth : Nat) : Json → List Char
  | .null => ['n', 'u', 'l', 'l']
  | .bool true => ['t', 'r', 'u', 'e']
  | .bool false => ['f', 'a', 'l', 's', 'e']
  | .number n => n.text
  | .string s => printText s
  | .array [] => ['[', ']']
  | .array (item :: items) =>
    '[' :: (style.line (depth + 1) ++ print style (depth + 1) item ++
      printItems style (depth + 1) items ++ style.line depth ++ [']'])
  | .object [] => ['\x7b', '\x7d']
  | .object ((key, value) :: members) =>
    '\x7b' :: (style.line (depth + 1) ++ printText key ++ style.colon ++
      print style (depth + 1) value ++ printMembers style (depth + 1) members ++
      style.line depth ++ ['\x7d'])

/-- The items after the first. -/
def printItems (style : Style) (depth : Nat) : List Json → List Char
  | [] => []
  | item :: items =>
    ',' :: (style.line depth ++ print style depth item ++ printItems style depth items)

/-- The members after the first. -/
def printMembers (style : Style) (depth : Nat) : Members → List Char
  | [] => []
  | (key, value) :: members =>
    ',' :: (style.line depth ++ printText key ++ style.colon ++ print style depth value ++
      printMembers style depth members)

end

/-- A value as a text. -/
def render (style : Style) (v : Value) : String :=
  String.ofList (print style 0 v.1)

theorem printText_eq (s : String) :
    printText s = '"' :: (s.toList.flatMap printChar ++ ['"']) := rfl

end TemplateCoverage.Json
