import TemplateCoverage.Double

/-!
# `TemplateCoverage.Double.Shortest`: the fewest digits that read back

A positive double stands for every real nearer to it than to its neighbours, the two ends of that
interval included when its rank is even. Its shortest decimal is the first of the grids of one, two,
… significant digits with a point in the interval: the nearest such point, of two equally near the
even one.
-/

set_option autoImplicit false

namespace TemplateCoverage.Double

/-- The decimal `coefficient * 10 ^ exponent`. -/
structure Decimal where
  coefficient : Nat
  exponent : Int
  deriving DecidableEq

/-- A power of ten that makes every grid of at most seventeen digits of a double whole. -/
def gridScale : Nat := 340

/-- Half units, scaled by `10 ^ gridScale`. -/
def scaled (halfUnits : Nat) : Nat := halfUnits * Nat.pow 10 gridScale

/-- Twice the lower end, the value and the upper end of the interval of a rank, in units. -/
def interval (rank : Nat) : Nat × Nat × Nat :=
  (units (rank - 1) + units rank, 2 * units rank, units rank + units (rank + 1))

/-- The position of the decimal point counted from the first digit: the value lies from
`10 ^ (position - 1)` up to `10 ^ position`. -/
def pointPosition (rank : Nat) : Int :=
  ((Nat.toDigits 10 (scaled (2 * units rank) / (2 * unitsPerOne))).length : Int) - gridScale

/-- The point nearest to the value, on the grid whose spacing is given in scaled half units, if it
lies in the interval. -/
def gridPoint? (rank spacing : Nat) : Option Nat :=
  let (low, value, high) := interval rank
  -- If any point of the grid lies in the interval, one of the value's two neighbours does.
  let below := scaled value / spacing
  let inside (point : Nat) : Bool :=
    -- The ends are ties, which go to the even rank.
    if rank % 2 = 0 then scaled low ≤ point * spacing && point * spacing ≤ scaled high
    else scaled low < point * spacing && point * spacing < scaled high
  match inside below, inside (below + 1) with
  | true, true => some (roundHalfEven (scaled value) spacing)
  | true, false => some below
  | false, true => some (below + 1)
  | false, false => none

/-- The spacing, in scaled half units, of the grid whose points are multiples of a power of ten. -/
def spacing (exponent : Int) : Nat :=
  Nat.pow 10 (exponent + gridScale).toNat * (2 * unitsPerOne)

/-- The first point found on the next `grids` grids, from the one of `digits` significant digits
on, and after them the nearest point of the grid that follows. -/
def shortestFrom (rank : Nat) (point : Int) : (digits grids : Nat) → Decimal
  | digits, 0 =>
    ⟨roundHalfEven (scaled (2 * units rank)) (spacing (point - digits)), point - digits⟩
  | digits, grids + 1 =>
    match gridPoint? rank (spacing (point - digits)) with
    | some coefficient => ⟨coefficient, point - digits⟩
    | none => shortestFrom rank point (digits + 1) grids

/-- The decimal with the fewest digits that stands for the magnitude of a positive rank: seventeen
digits are always enough. -/
def shortest (rank : Nat) : Decimal :=
  shortestFrom rank (pointPosition rank) 1 16

/-- The digits of the coefficient without zeros at the end. -/
def Decimal.digits (d : Decimal) : List Char :=
  ((Nat.toDigits 10 d.coefficient).reverse.dropWhile (· == '0')).reverse

/-- The position of the decimal point counted from the first digit. -/
def Decimal.point (d : Decimal) : Int :=
  (Nat.toDigits 10 d.coefficient).length + d.exponent

end TemplateCoverage.Double
