import TemplateCoverage.Double

/-!
# `TemplateCoverage.Double.Places`: a double with one decimal place

The exact value is rounded to tenths, a half going to the even neighbour.
-/

set_option autoImplicit false

namespace TemplateCoverage.Double

/-- The magnitude in tenths. -/
def tenths (x : Double) : Nat :=
  roundHalfEven (x.size * 10) unitsPerOne

/-- The text with one decimal place. -/
def oneDecimal (x : Double) : String :=
  (if x.negative then "-" else "") ++ toString (x.tenths / 10) ++ "." ++ toString (x.tenths % 10)

end TemplateCoverage.Double
