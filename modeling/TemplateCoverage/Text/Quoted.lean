import TemplateCoverage.Text.HiddenTable

/-!
# `TemplateCoverage.Text.Quoted`: texts quoted for messages

A quoted text stands between double quotes on one line, and every character that would not be seen
as itself is written as an escape. Main statements:

* `quoted_toList`: a quoted text is its characters' escapes between two quotes.
-/

set_option autoImplicit false

namespace TemplateCoverage.Text

/-- Whether a character has no shape of its own on the page. -/
def isHidden (c : Char) : Bool :=
  if c.toNat < 0x80 then c.toNat < 0x20 || c.toNat == 0x7f
  else hiddenRuns.any fun run => run.1 ≤ c.toNat && c.toNat ≤ run.2

/-- How a character is written inside a quoted text. -/
def escaped (c : Char) : List Char :=
  if c == '\x00' then ['\\', '0']
  else if c == '\t' then ['\\', 't']
  else if c == '\r' then ['\\', 'r']
  else if c == '\n' then ['\\', 'n']
  else if c == '\\' then ['\\', '\\']
  else if c == '"' then ['\\', '"']
  else if isHidden c then
    ['\\', 'u', '\x7b'] ++ Nat.toDigits 16 c.toNat ++ ['\x7d']
  else [c]

/-- The text between double quotes, with escapes. -/
def quoted (s : String) : String :=
  String.ofList ('"' :: (s.toList.flatMap escaped ++ ['"']))

/-- The texts quoted, separated by commas and between square brackets. -/
def quotedList (texts : List String) : String :=
  "[" ++ String.intercalate ", " (texts.map quoted) ++ "]"

theorem quoted_toList (s : String) :
    (quoted s).toList = '"' :: (s.toList.flatMap escaped ++ ['"']) := by
  simp [quoted]

end TemplateCoverage.Text
