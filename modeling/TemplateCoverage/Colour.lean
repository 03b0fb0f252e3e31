/-!
# `TemplateCoverage.Colour`: the colours of cards

The head of a card is coloured by what its tag tells: good news are green, bad news red. A tag has
the colour of its own row in the table, or else of the first fragment that it contains, or else the
colour of the default tag. Main statements:

* `ofTag_of_lookup`: a row for the whole tag comes before every fragment.
-/

set_option autoImplicit false

namespace TemplateCoverage

/-- The colour of a card's head. -/
inductive Colour where
  | green
  | red
  | blue
  | orange
  | yellow
  | turquoise
  deriving DecidableEq

namespace Colour

/-- The name of a colour in a card. -/
def name : Colour → String
  | .green => "green"
  | .red => "red"
  | .blue => "blue"
  | .orange => "orange"
  | .yellow => "yellow"
  | .turquoise => "turquoise"

/-- The colours of whole tags. -/
def ofTags : List (String × Colour) := [
  ("", .turquoise), ("default", .turquoise), ("opened", .green), ("created", .green),
  ("published", .green), ("fixed", .green), ("resolved", .green), ("approved", .green),
  ("completed", .green), ("success", .green), ("unlocked", .green), ("closed", .red),
  ("deleted", .red), ("removed", .red), ("failure", .red), ("edited", .blue),
  ("updated", .blue), ("synchronize", .blue), ("locked", .orange), ("dismissed", .orange),
  ("requested", .orange), ("reopened", .orange)]

/-- The colours of tags that contain a fragment. -/
def ofFragments : List (String × Colour) := [
  ("success", .green), ("approved", .green), ("fixed", .green), ("fail", .red), ("error", .red),
  ("delete", .red), ("warning", .yellow), ("pending", .yellow), ("cancel", .orange),
  ("progress", .blue), ("running", .blue)]

/-- Whether a text contains a fragment. -/
def contains (fragment : List Char) : List Char → Bool
  | [] => fragment.isEmpty
  | c :: cs => fragment.isPrefixOf (c :: cs) || contains fragment cs

/-- The colour for a tag. -/
def ofTag (tag : String) : Colour :=
  match ofTags.lookup tag with
  | some colour => colour
  | none =>
    -- The fragments are tried in the order of the table, wherever in the tag they stand.
    match ofFragments.find? fun row => contains row.1.toList tag.toList with
    | some row => row.2
    | none => .turquoise

/-- A row for the whole tag comes before every fragment. -/
theorem ofTag_of_lookup {tag : String} {colour : Colour} (h : ofTags.lookup tag = some colour) :
    ofTag tag = colour := by
  simp [ofTag, h]

end Colour

end TemplateCoverage
