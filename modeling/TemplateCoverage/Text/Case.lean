import TemplateCoverage.Text.CaseTable

/-!
# `TemplateCoverage.Text.Case`: upper and lower case of a character

The full case mappings of Unicode, character by character and without regard to the neighbours or
to a language. Main statements:

* `upper_of_lt`, `lower_of_lt`: within ASCII they are the mappings of the letters `a` to `z`.
-/

set_option autoImplicit false

namespace TemplateCoverage.Text

/-- The other case of a character: its form of several characters if it has one, else the
character at the distance that its run gives, else the character itself. -/
def mapped (runs : List CaseRun) (forms : List (Nat × List Nat)) (c : Char) : List Char :=
  -- Forms of several characters come first: their characters may lie in a run as well.
  match forms.lookup c.toNat with
  | some form => form.map Char.ofNat
  | none =>
    match runs.find? (·.covers c.toNat) with
    | some run => [Char.ofNat (c.toNat + run.shift).toNat]
    | none => [c]

/-- The upper-case form of a character. -/
def upper (c : Char) : List Char :=
  if c.toNat < 0x80 then [c.toUpper] else mapped upperRuns upperForms c

/-- The lower-case form of a character. -/
def lower (c : Char) : List Char :=
  if c.toNat < 0x80 then [c.toLower] else mapped lowerRuns lowerForms c

theorem upper_of_lt {c : Char} (h : c.toNat < 0x80) : upper c = [c.toUpper] := by
  simp [upper, h]

theorem lower_of_lt {c : Char} (h : c.toNat < 0x80) : lower c = [c.toLower] := by
  simp [lower, h]

end TemplateCoverage.Text
