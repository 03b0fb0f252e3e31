import TemplateCoverage.Double.Shortest

/-!
# `TemplateCoverage.Json.Number`: the numbers of JSON texts

A number without fraction and exponent that fits into 64 bits is kept as an integer; every other one
is a double. A literal's digits are gathered into a significand of 64 bits: the first digit that
does not fit, and the digits of its part after it, only count as places. The double is the
significand, rounded, times or divided by a power of ten, rounded again. Main statements:

* `Literal.scanUnsigned_eq_ok_iff`: a literal is its three parts, one behind the other;
* `Literal.scan_length`: a literal takes at least one character.
-/

set_option autoImplicit false

namespace TemplateCoverage.Json

/-- A number: a natural of 64 bits, a negative integer of 64 bits, or a finite double. The integer
`negative n` is `-(n + 1)`. -/
inductive Number where
  | natural (n : Fin 0x10000000000000000)
  | negative (n : Fin 0x8000000000000000)
  | double (x : Double)
  deriving DecidableEq

namespace Number

/-- Equality of values within one kind of number. -/
def same : Number → Number → Bool
  | .natural a, .natural b => a == b
  | .negative a, .negative b => a == b
  | .double a, .double b => a.same b
  | _, _ => false

/-! ### Text -/

/-- A positive double from its digits and the position of its decimal point: positional from
`10 ^ -5` up to `10 ^ 16`, and with one digit before the point and an exponent elsewhere. -/
def decimalText (digits : List Char) (point : Int) : List Char :=
  if -4 ≤ point ∧ point ≤ 16 then
    if point ≤ 0 then
      ['0', '.'] ++ List.replicate (-point).toNat '0' ++ digits
    else if digits.length ≤ point.toNat then
      digits ++ List.replicate (point.toNat - digits.length) '0' ++ ['.', '0']
    else
      digits.take point.toNat ++ '.' :: digits.drop point.toNat
  else
    let exponent := point - 1
    digits.take 1 ++ (if digits.length ≤ 1 then [] else '.' :: digits.drop 1) ++
      ['e', if exponent < 0 then '-' else '+'] ++ Nat.toDigits 10 exponent.natAbs

/-- A double in the fewest digits that read back, with at least one decimal place or an exponent. -/
def doubleText (x : Double) : List Char :=
  (if x.negative then ['-'] else []) ++
    if x.isZero then ['0', '.', '0']
    else decimalText (Double.shortest x.rank).digits (Double.shortest x.rank).point

/-- The number as it is written. -/
def text : Number → List Char
  | .natural n => Nat.toDigits 10 n
  | .negative n => '-' :: Nat.toDigits 10 (n + 1)
  | .double x => doubleText x

end Number

/-! ### Literals -/

/-- The parts of a number literal. -/
structure Literal where
  negative : Bool
  whole : List Nat
  fraction : List Nat
  exponent : Int
  /-- Whether the literal has neither fraction nor exponent. -/
  plain : Bool

namespace Literal

/-- Appends digits to a significand as long as it fits into 64 bits; the second part counts the
digits left over. -/
def gather (significand : Fin 0x10000000000000000) : List Nat → Fin 0x10000000000000000 × Nat
  | [] => (significand, 0)
  | digit :: digits =>
    if h : significand * 10 + digit < 0x10000000000000000 then
      gather ⟨significand * 10 + digit, h⟩ digits
    else (significand, digits.length + 1)

/-- The largest power of ten among the doubles. -/
def greatestPower : Nat := 308

/-- A power of ten as a double. -/
def powerOfTen (exponent : Nat) : Double := Double.ofNat (Nat.pow 10 exponent)

/-- A double divided by the largest power of ten, which makes it smaller. -/
def lowered (x : Double) : Double := (x.div? (powerOfTen greatestPower)).getD Double.zero

/-- A double times a power of ten, if the product is not too large. A power below the least one that
can be divided by at once is taken in several steps. -/
def scale? (x : Double) (exponent : Int) : Option Double :=
  if 0 ≤ exponent ∧ exponent ≤ greatestPower then x.mul? (powerOfTen exponent.toNat)
  else if -greatestPower ≤ exponent ∧ exponent < 0 then x.div? (powerOfTen (-exponent).toNat)
  -- Beyond the powers of ten among the doubles a zero stays, and any other number is too large.
  else if x.isZero then some x
  else if 0 < exponent then none
  else scale? (lowered x) (exponent + greatestPower)
termination_by (-exponent).toNat
decreasing_by have : greatestPower = 308 := rfl; omega

/-- The number that a literal stands for; none if it is too large for a double. -/
def value? (l : Literal) : Option Number :=
  let (whole, left) := gather 0 l.whole
  if l.plain ∧ left = 0 then
    if l.negative then
      if h : 0 < whole.val ∧ whole.val ≤ 0x8000000000000000 then
        some (.negative ⟨whole - 1, by omega⟩)
      -- The negative zero is a double, and so is a number below the integers.
      else some (.double { Double.ofNat whole with negative := true })
    else some (.natural whole)
  else
    -- The digits of the fraction go on from the whole part's significand, whatever it left out.
    let (significand, unused) := gather whole l.fraction
    let places : Int := (l.fraction.length : Int) - unused
    (scale? (Double.ofNat significand) (l.exponent + left - places)).map fun x =>
      .double { x with negative := l.negative }

/-! ### Scanning -/

/-- How many line ends a character counts for. -/
def lineEnds (c : Char) : Nat := if c = '\n' then 1 else 0

/-- The line ends in the first character of a text. -/
def headLineEnds : List Char → Nat
  | [] => 0
  | c :: _ => lineEnds c

/-- The digits at the start of a text and the text after them. -/
def digits (cs : List Char) : List Nat × List Char :=
  ((cs.takeWhile Char.isDigit).map fun c => c.toNat - '0'.toNat, cs.dropWhile Char.isDigit)

/-- The digits before the point: a zero stands alone. A failure counts the line ends that were
consumed with the character at fault. -/
def scanWhole : List Char → Except Nat (List Nat × List Char)
  | [] => .error 0
  | c :: rest =>
    if c = '0' then
      if rest.head?.any Char.isDigit then .error 0 else .ok ([0], rest)
    else if c.isDigit then .ok (digits (c :: rest))
    else .error (lineEnds c)

/-- The digits after a point, if there is one, and whether there is one. -/
def scanFraction : List Char → Except Nat ((List Nat × Bool) × List Char)
  | '.' :: rest =>
    if rest.head?.any Char.isDigit then .ok (((digits rest).1, true), (digits rest).2)
    else .error (headLineEnds rest)
  | cs => .ok (([], false), cs)

/-- The digits of an exponent after its sign. -/
def scanPower (negative : Bool) (cs : List Char) : Except Nat ((Int × Bool) × List Char) :=
  if cs.head?.any Char.isDigit then
    let power : Nat := (digits cs).1.foldl (fun power digit => power * 10 + digit) 0
    .ok ((if negative then -(power : Int) else power, true), (digits cs).2)
  else .error (headLineEnds cs)

/-- The exponent, if there is one, and whether there is one. -/
def scanExponent : List Char → Except Nat ((Int × Bool) × List Char)
  | c :: rest =>
    if c = 'e' ∨ c = 'E' then
      match rest with
      | '+' :: rest => scanPower false rest
      | '-' :: rest => scanPower true rest
      | rest => scanPower false rest
    else .ok ((0, false), c :: rest)
  | [] => .ok ((0, false), [])

/-- The literal after its sign. -/
def scanUnsigned (negative : Bool) (cs : List Char) : Except Nat (Literal × List Char) := do
  let (whole, cs) ← scanWhole cs
  let ((fraction, hasFraction), cs) ← scanFraction cs
  let ((exponent, hasExponent), cs) ← scanExponent cs
  return (⟨negative, whole, fraction, exponent, !hasFraction && !hasExponent⟩, cs)

/-- The literal at the start of a text and the text after it. -/
def scan : List Char → Except Nat (Literal × List Char)
  | '-' :: rest => scanUnsigned true rest
  | cs => scanUnsigned false cs

/-! ### What a literal takes -/

theorem digits_length (cs : List Char) : (digits cs).2.length ≤ cs.length :=
  (List.dropWhile_sublist _).length_le

theorem scanWhole_length {cs rest : List Char} {ds : List Nat}
    (h : scanWhole cs = .ok (ds, rest)) : rest.length < cs.length := by
  cases cs with
  | nil => simp [scanWhole] at h
  | cons c cs =>
    simp only [scanWhole] at h
    split at h
    · split at h <;> simp at h
      simp [← h.2]
    · split at h
      · rename_i digit
        simp only [Except.ok.injEq] at h
        have left : rest = cs.dropWhile Char.isDigit := by
          rw [show rest = (digits (c :: cs)).2 by rw [h]]
          simp [digits, digit]
        rw [left, List.length_cons]
        have shorter := (cs.dropWhile_sublist Char.isDigit).length_le
        omega
      · simp at h

theorem scanFraction_length {cs rest : List Char} {r : List Nat × Bool}
    (h : scanFraction cs = .ok (r, rest)) : rest.length ≤ cs.length := by
  unfold scanFraction at h
  split at h
  · split at h
    · simp only [Except.ok.injEq, Prod.mk.injEq] at h
      rename_i tail _
      have := digits_length tail
      simp [← h.2]
      omega
    · simp at h
  · simp_all

theorem scanPower_length {negative : Bool} {cs rest : List Char} {r : Int × Bool}
    (h : scanPower negative cs = .ok (r, rest)) : rest.length ≤ cs.length := by
  unfold scanPower at h
  split at h
  · simp only [Except.ok.injEq, Prod.mk.injEq] at h
    rw [← h.2]
    exact digits_length cs
  · simp at h

theorem scanExponent_length {cs rest : List Char} {r : Int × Bool}
    (h : scanExponent cs = .ok (r, rest)) : rest.length ≤ cs.length := by
  unfold scanExponent at h
  split at h
  · split at h
    · split at h <;> have := scanPower_length h <;> simp_all <;> omega
    · simp_all
  · simp_all

/-- A literal after its sign is read if its three parts are, each from where the one before it ends.
What holds of the parts one behind the other holds of the literal. -/
theorem scanUnsigned_eq_ok_iff {negative : Bool} {cs rest : List Char} {l : Literal} :
    scanUnsigned negative cs = .ok (l, rest) ↔
      ∃ whole fraction exponent behindWhole behindFraction,
        scanWhole cs = .ok (whole, behindWhole) ∧
        scanFraction behindWhole = .ok (fraction, behindFraction) ∧
        scanExponent behindFraction = .ok (exponent, rest) ∧
        l = ⟨negative, whole, fraction.1, exponent.1, !fraction.2 && !exponent.2⟩ := by
  simp only [scanUnsigned, bind, Except.bind, pure, Except.pure]
  constructor
  · intro h
    split at h <;> try contradiction
    rename_i whole hw
    split at h <;> try contradiction
    rename_i fraction hf
    split at h <;> try contradiction
    rename_i exponent he
    cases h
    exact ⟨_, _, _, _, _, hw, hf, he, rfl⟩
  · rintro ⟨whole, fraction, exponent, behindWhole, behindFraction, hw, hf, he, rfl⟩
    simp only [hw, hf, he]

theorem scanUnsigned_length {negative : Bool} {cs rest : List Char} {l : Literal}
    (h : scanUnsigned negative cs = .ok (l, rest)) : rest.length < cs.length := by
  obtain ⟨_, _, _, _, _, hw, hf, he, _⟩ := scanUnsigned_eq_ok_iff.1 h
  have := scanWhole_length hw
  have := scanFraction_length hf
  have := scanExponent_length he
  omega

/-- A literal takes at least one character. -/
theorem scan_length {cs rest : List Char} {l : Literal}
    (h : scan cs = .ok (l, rest)) : rest.length < cs.length := by
  unfold scan at h
  split at h
  · have := scanUnsigned_length h
    simp only [List.length_cons]
    omega
  · exact scanUnsigned_length h

end Literal

end TemplateCoverage.Json
