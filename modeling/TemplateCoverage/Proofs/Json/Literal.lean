import TemplateCoverage.Json.Reader

/-!
# `TemplateCoverage.Proofs.Json.Literal`: what the reader takes as a number

The reader takes a number literal up to the first character that cannot belong to it. What it takes
therefore does not depend on the text behind the literal, as long as that text starts with another
character. The theorems:

* `Literal.scan_append`: a literal is read alike at the end of a text and in front of more text;
* `Literal.takes_scan`: a literal takes digits, signs, points and exponent marks only;
* `Literal.scanUnsigned_toDigits` / `Literal.gather_eq`: the digits of a number are read as that
  number, and 64 bits hold it if they can.
-/

set_option autoImplicit false

namespace TemplateCoverage.Json

namespace Literal

/-- A literal goes no further than to this text: its first character belongs to no literal. Signs
need no mention, as they stand in front of digits only. -/
def StopsAt (rest : List Char) : Prop :=
  ∀ c ∈ rest.head?, c.isDigit = false ∧ c ≠ '.' ∧ c ≠ 'e' ∧ c ≠ 'E'

/-- A literal goes no further than to the end of the text, where there is no character to go on
with. -/
theorem stopsAt_nil : StopsAt [] := by simp [StopsAt]

/-- Only the first character tells whether a literal goes on, and it can be a digit, a point or an
exponent mark. -/
theorem stopsAt_cons {c : Char} {rest : List Char} (digit : c.isDigit = false)
    (others : c ≠ '.' ∧ c ≠ 'e' ∧ c ≠ 'E') : StopsAt (c :: rest) := by
  intro d hd
  simp only [List.head?_cons, Option.mem_def, Option.some.injEq] at hd
  subst hd
  exact ⟨digit, others⟩

/-- Behind a literal no digit follows, in the form in which the reader asks for one. -/
theorem StopsAt.any_isDigit {rest : List Char} (stop : StopsAt rest) :
    rest.head?.any Char.isDigit = false := by
  cases rest with
  | nil => rfl
  | cons c rest => simpa using (stop c (by simp)).1

/-- The head of a text with something behind it is a digit only if it was one before: an empty text
gets no digit as its head from behind. -/
theorem any_isDigit_append {cs rest : List Char} (stop : StopsAt rest) :
    (cs ++ rest).head?.any Char.isDigit = cs.head?.any Char.isDigit := by
  cases cs with
  | nil => simpa using stop.any_isDigit
  | cons c cs => rfl

/-- The digits at the start of a text are the same in front of more text, and what was left of the
text is still left, with more behind it. -/
theorem digits_append {cs rest : List Char} (stop : StopsAt rest) :
    digits (cs ++ rest) = ((digits cs).1, (digits cs).2 ++ rest) := by
  -- The text behind starts with no digit, so that none of it is taken.
  have none : rest.takeWhile Char.isDigit = [] ∧ rest.dropWhile Char.isDigit = rest := by
    cases rest with
    | nil => exact ⟨rfl, rfl⟩
    | cons c rest =>
      have hc := (stop c (by simp)).1
      simp [hc]
  unfold digits
  induction cs with
  | nil => simp [none.1, none.2]
  | cons c cs ih =>
    simp only [List.cons_append, List.takeWhile_cons, List.dropWhile_cons]
    cases c.isDigit with
    | false => rfl
    | true =>
      simp only [if_true, List.map_cons, Prod.mk.injEq] at ih ⊢
      exact ⟨by rw [ih.1], ih.2⟩

/-! ### A literal in front of more text -/

/-- The digits in front of the point are read alike in front of more text. A zero has to be the last
digit there, and no digit is put behind it. -/
theorem scanWhole_append {cs tail rest : List Char} {ds : List Nat} (stop : StopsAt rest)
    (h : scanWhole cs = .ok (ds, tail)) :
    scanWhole (cs ++ rest) = .ok (ds, tail ++ rest) := by
  cases cs with
  | nil => simp [scanWhole] at h
  | cons c cs =>
    simp only [scanWhole, List.cons_append] at h ⊢
    split at h
    · rename_i zero
      rw [if_pos zero, any_isDigit_append stop]
      split at h
      · contradiction
      · rename_i last
        simp only [Except.ok.injEq, Prod.mk.injEq] at h
        rw [if_neg last, ← h.1, ← h.2]
    · -- Any other digit starts a run, which ends in front of the text behind.
      rename_i nonzero
      rw [if_neg nonzero]
      split at h
      · rename_i digit
        rw [if_pos digit, ← List.cons_append, digits_append stop]
        simp only [Except.ok.injEq] at h ⊢
        rw [h]
      · contradiction

/-- A fraction is read alike in front of more text. A literal without a fraction does not get one,
since the text behind does not start with a point. -/
theorem scanFraction_append {cs tail rest : List Char} {r : List Nat × Bool}
    (stop : StopsAt rest) (h : scanFraction cs = .ok (r, tail)) :
    scanFraction (cs ++ rest) = .ok (r, tail ++ rest) := by
  -- Only a text that starts with the point has a fraction.
  have pointless {ds : List Char} (ne : ∀ c ∈ ds.head?, c ≠ '.') :
      scanFraction ds = .ok (([], false), ds) := by
    unfold scanFraction
    split
    · exact absurd rfl (ne '.' (by simp))
    · rfl
  unfold scanFraction at h
  split at h
  · rename_i fraction
    rw [List.cons_append]
    simp only [scanFraction]
    rw [any_isDigit_append stop, digits_append stop]
    split at h
    · rename_i digit
      simp only [Except.ok.injEq, Prod.mk.injEq] at h
      rw [if_pos digit, ← h.1, ← h.2]
    · contradiction
  · rename_i noPoint
    simp only [Except.ok.injEq, Prod.mk.injEq] at h
    obtain ⟨rfl, rfl⟩ := h
    refine pointless ?_
    intro c hc
    -- With nothing left it is the text behind that has no point.
    cases cs with
    | nil => exact (stop c hc).2.1
    | cons d cs =>
      simp only [List.cons_append, List.head?_cons, Option.mem_def, Option.some.injEq] at hc
      subst hc
      exact fun point => noPoint cs (by rw [point])

/-- The digits of an exponent are read alike in front of more text, which neither gives nor takes
the first one that is required. -/
theorem scanPower_append {negative : Bool} {cs tail rest : List Char} {r : Int × Bool}
    (stop : StopsAt rest) (h : scanPower negative cs = .ok (r, tail)) :
    scanPower negative (cs ++ rest) = .ok (r, tail ++ rest) := by
  unfold scanPower at h ⊢
  rw [any_isDigit_append stop, digits_append stop]
  split at h
  · rename_i digit
    simp only [Except.ok.injEq, Prod.mk.injEq] at h
    rw [if_pos digit, ← h.1, ← h.2]
  · contradiction

/-- An exponent is read alike in front of more text. A literal without an exponent does not get one,
since the text behind does not start with either mark. -/
theorem scanExponent_append {cs tail rest : List Char} {r : Int × Bool}
    (stop : StopsAt rest) (h : scanExponent cs = .ok (r, tail)) :
    scanExponent (cs ++ rest) = .ok (r, tail ++ rest) := by
  cases cs with
  | nil =>
    simp only [scanExponent, Except.ok.injEq, Prod.mk.injEq] at h
    obtain ⟨rfl, rfl⟩ := h
    cases rest with
    | nil => rfl
    | cons c rest =>
      have hc := (stop c (by simp)).2.2
      simp [scanExponent, hc.1, hc.2]
  | cons c cs =>
    simp only [List.cons_append, scanExponent] at h ⊢
    split at h
    · rename_i mark
      rw [if_pos mark]
      split at h
      · simpa using scanPower_append stop h
      · simpa using scanPower_append stop h
      -- Without a sign the exponent has digits, whose first one is none in front of more text too.
      · rename_i noPlus noMinus
        have signless := scanPower_append stop h
        cases cs with
        | nil => simp [scanPower] at h
        | cons d cs =>
          simp only [List.cons_append] at signless ⊢
          split
          · rename_i eq
            simp only [List.cons.injEq] at eq
            exact absurd (by rw [eq.1]) (noPlus cs)
          · rename_i eq
            simp only [List.cons.injEq] at eq
            exact absurd (by rw [eq.1]) (noMinus cs)
          · exact signless
    · rename_i noMark
      rw [if_neg noMark]
      simp only [Except.ok.injEq, Prod.mk.injEq] at h
      rw [← h.1, ← h.2]
      rfl

/-- A literal without its sign is read alike in front of more text: its three parts are, one after
the other, and what each leaves is longer by that text. -/
theorem scanUnsigned_append {negative : Bool} {cs tail rest : List Char} {l : Literal}
    (stop : StopsAt rest) (h : scanUnsigned negative cs = .ok (l, tail)) :
    scanUnsigned negative (cs ++ rest) = .ok (l, tail ++ rest) := by
  obtain ⟨whole, fraction, exponent, _, _, hw, hf, he, literal⟩ := scanUnsigned_eq_ok_iff.1 h
  exact scanUnsigned_eq_ok_iff.2 ⟨whole, fraction, exponent, _, _, scanWhole_append stop hw,
    scanFraction_append stop hf, scanExponent_append stop he, literal⟩

/-- A text that does not start with the sign is read as a literal without one; the reader's match on
the first character has this as its second case. -/
theorem scan_of_ne {c : Char} {cs : List Char} (sign : c ≠ '-') :
    scan (c :: cs) = scanUnsigned false (c :: cs) := by
  unfold scan
  split
  · rename_i eq
    simp only [List.cons.injEq] at eq
    exact absurd eq.1 sign
  · rfl

/-- A literal starts with its sign or a digit, since the whole part has to have a digit. -/
theorem starts_of_scan {c : Char} {cs tail : List Char} {l : Literal}
    (h : scan (c :: cs) = .ok (l, tail)) : c = '-' ∨ c.isDigit := by
  by_cases sign : c = '-'
  · exact .inl sign
  · by_cases digit : c.isDigit
    · exact .inr digit
    · have zero : c ≠ '0' := by
        rintro rfl
        exact digit (by decide)
      rw [scan_of_ne sign] at h
      simp [scanUnsigned, scanWhole, zero, digit, bind, Except.bind] at h

/-- A literal is read alike at the end of a text and in front of more text, as long as that text
could not be part of the literal. -/
theorem scan_append {cs tail rest : List Char} {l : Literal} (stop : StopsAt rest)
    (h : scan cs = .ok (l, tail)) : scan (cs ++ rest) = .ok (l, tail ++ rest) := by
  cases cs with
  | nil => simp [scan, scanUnsigned, scanWhole, bind, Except.bind] at h
  | cons c cs =>
    by_cases sign : c = '-'
    · subst sign
      exact scanUnsigned_append stop h
    · rw [scan_of_ne sign] at h
      rw [List.cons_append, scan_of_ne sign]
      exact scanUnsigned_append stop h

/-! ### The digits of an integer -/

/-- Digits whose number fits into 64 bits are gathered whole: the number is exact and no digit is
left over. The induction is on the digits, with what is gathered so far as the start. -/
theorem gather_eq {ds : List Nat} {n : Nat} (s : Fin 0x10000000000000000)
    (value : ds.foldl (fun s d => s * 10 + d) s.val = n) (fits : n < 0x10000000000000000) :
    gather s ds = (⟨n, fits⟩, 0) := by
  -- Every digit more makes the number no smaller, so all that come before it fit as well.
  have grows (ds : List Nat) : ∀ s : Nat, s ≤ ds.foldl (fun s d => s * 10 + d) s := by
    induction ds with
    | nil => exact fun s => Nat.le_refl s
    | cons d ds ih => exact fun s => Nat.le_trans (by omega) (ih (s * 10 + d))
  induction ds generalizing s with
  | nil =>
    simp only [List.foldl_nil] at value
    subst value
    rfl
  | cons d ds ih =>
    rw [List.foldl_cons] at value
    -- So the digits gathered with this one still fit.
    have next : s.val * 10 + d < 0x10000000000000000 :=
      Nat.lt_of_le_of_lt (value ▸ grows ds (s.val * 10 + d)) fits
    rw [gather, dif_pos next]
    exact ih ⟨s.val * 10 + d, next⟩ value

/-- The values of the digits of a number, the first one first, as the reader takes them from the
number's text. -/
def digitsOf (n : Nat) : List Nat := (Nat.toDigits 10 n).map fun c => c.toNat - '0'.toNat

/-- The digits of a number give the number, which is what the library has for its own way of reading
them. -/
theorem foldl_digitsOf (n : Nat) : (digitsOf n).foldl (fun s d => s * 10 + d) 0 = n := by
  have value := Nat.ofDigitChars_ten_toDigits (n := n)
  rw [Nat.ofDigitChars_eq_foldl] at value
  rw [digitsOf, List.foldl_map]
  simpa only [Nat.mul_comm 10] using value

/-- From the text of a number all characters are taken as its digits, as each of them is one, and
nothing is left behind. -/
theorem digits_toDigits (n : Nat) : digits (Nat.toDigits 10 n) = (digitsOf n, []) := by
  have all : ∀ c ∈ Nat.toDigits 10 n, c.isDigit := fun c hc =>
    Nat.isDigit_of_mem_toDigits (by decide) (by decide) hc
  have drop : (Nat.toDigits 10 n).dropWhile Char.isDigit = [] := by
    have appended : (Nat.toDigits 10 n ++ []).dropWhile Char.isDigit = [].dropWhile Char.isDigit :=
      List.dropWhile_append_of_pos all
    simpa using appended
  have take : (Nat.toDigits 10 n).takeWhile Char.isDigit = Nat.toDigits 10 n := by
    rw [← List.append_nil (List.takeWhile _ _), ← drop, List.takeWhile_append_dropWhile]
  rw [digits, take, drop, digitsOf]

/-- Only the number zero has a zero as its first digit. The reader refuses a zero in front of other
digits, so that this is what makes the text of a number acceptable to it. -/
theorem head_toDigits_ne_zero {n : Nat} (pos : 0 < n) :
    ∀ c ∈ (Nat.toDigits 10 n).head?, c ≠ '0' := by
  induction n using Nat.strongRecOn with
  | ind n ih =>
    rw [Nat.toDigits_eq_if (by decide)]
    split
    · rename_i small
      intro c hc
      simp only [List.head?_cons, Option.mem_def, Option.some.injEq] at hc
      subst hc
      have := Nat.toNat_digitChar_sub_48_of_lt_ten small
      intro zero
      rw [zero] at this
      simp at this
      omega
    · -- The first digit is that of the number without its last one.
      have some := Nat.toDigits_ne_nil (n := n / 10) (b := 10)
      obtain ⟨d, ds, eq⟩ := List.exists_cons_of_ne_nil some
      have := ih (n / 10) (by omega) (by omega)
      rw [eq] at this ⊢
      simpa using this

/-- The text of a number is read as a whole part with its digits. Zero is the case by itself, where
the reader takes the branch for a leading zero. -/
theorem scanWhole_toDigits (n : Nat) :
    scanWhole (Nat.toDigits 10 n) = .ok (digitsOf n, []) := by
  by_cases zero : n = 0
  · subst zero
    simp [scanWhole, digitsOf]
  · obtain ⟨c, cs, eq⟩ := List.exists_cons_of_ne_nil (Nat.toDigits_ne_nil (n := n) (b := 10))
    -- The first digit is no zero, so that the run of digits is taken.
    have first := head_toDigits_ne_zero (Nat.pos_of_ne_zero zero)
    have digit := Nat.isDigit_of_mem_toDigits (c := c) (n := n) (b := 10) (by decide) (by decide)
    have all := digits_toDigits n
    rw [eq] at first digit all ⊢
    simp only [scanWhole, if_neg (first c (by simp)), digit (by simp), if_true, all]

/-- The literal of a natural number with a sign before its digits or not: neither fraction nor
exponent, so that it is an integer to the reader. -/
theorem scanUnsigned_toDigits (negative : Bool) (n : Nat) :
    scanUnsigned negative (Nat.toDigits 10 n) = .ok (⟨negative, digitsOf n, [], 0, true⟩, []) := by
  simp only [scanUnsigned, scanWhole_toDigits, bind, Except.bind, pure, Except.pure, scanFraction,
    scanExponent]
  rfl

/-! ### The characters of a literal -/

/-- Whether a character may stand in a literal, wherever it stands: digits, the point, either
exponent mark and the signs. -/
def isPart (c : Char) : Bool :=
  c.isDigit || c == '.' || c == 'e' || c == 'E' || c == '+' || c == '-'

/-- Digits may stand in a literal, of course; the other characters are checked by computation where
they occur. -/
theorem isPart_of_isDigit {c : Char} (h : c.isDigit) : isPart c := by
  simp [isPart, h]

/-- A text is parts of a literal in front of another text. So the scans of literals have their
results described without the literal's value. -/
def Takes (cs tail : List Char) : Prop :=
  ∃ taken : List Char, taken ++ tail = cs ∧ ∀ c ∈ taken, isPart c

/-- Nothing at all may be taken, as by a fraction that is not there. -/
theorem Takes.refl (cs : List Char) : Takes cs cs := ⟨[], rfl, by simp⟩

/-- What is taken in two parts is taken in one, the first part in front of the second. -/
theorem Takes.trans {as bs cs : List Char} (h₁ : Takes as bs) (h₂ : Takes bs cs) : Takes as cs := by
  obtain ⟨first, rfl, hf⟩ := h₁
  obtain ⟨second, rfl, hs⟩ := h₂
  refine ⟨first ++ second, List.append_assoc _ _ _, fun c hc => ?_⟩
  rcases List.mem_append.1 hc with hc | hc
  · exact hf c hc
  · exact hs c hc

/-- One more character may be taken in front, if it may stand in a literal: a point, a mark or a
sign. -/
theorem Takes.cons {c : Char} {cs tail : List Char} (part : isPart c) (h : Takes cs tail) :
    Takes (c :: cs) tail := by
  obtain ⟨taken, rfl, hall⟩ := h
  refine ⟨c :: taken, rfl, fun d hd => ?_⟩
  rcases List.mem_cons.1 hd with rfl | hd
  · exact part
  · exact hall d hd

/-- Digits are parts of a literal, and what is left begins behind the last one of them. -/
theorem takes_digits (cs : List Char) : Takes cs (digits cs).2 :=
  ⟨cs.takeWhile Char.isDigit, List.takeWhile_append_dropWhile, fun _ hc =>
    isPart_of_isDigit (List.all_eq_true.1 List.all_takeWhile _ hc)⟩

/-- The whole part takes a zero or digits, and nothing else. -/
theorem takes_scanWhole {cs tail : List Char} {ds : List Nat}
    (h : scanWhole cs = .ok (ds, tail)) : Takes cs tail := by
  cases cs with
  | nil => simp [scanWhole] at h
  | cons c cs =>
    simp only [scanWhole] at h
    split at h
    · rename_i zero
      split at h
      · contradiction
      · simp only [Except.ok.injEq, Prod.mk.injEq] at h
        rw [← h.2, zero]
        exact (Takes.refl cs).cons (by decide)
    · split at h
      · simp only [Except.ok.injEq] at h
        -- The run of digits starts with the character at hand.
        have taken := takes_digits (c :: cs)
        rwa [h] at taken
      · contradiction

/-- A fraction takes its point and digits, or nothing if there is no point. -/
theorem takes_scanFraction {cs tail : List Char} {r : List Nat × Bool}
    (h : scanFraction cs = .ok (r, tail)) : Takes cs tail := by
  unfold scanFraction at h
  split at h
  · rename_i fraction
    split at h
    · simp only [Except.ok.injEq, Prod.mk.injEq] at h
      rw [← h.2]
      exact (takes_digits fraction).cons (by decide)
    · contradiction
  · simp only [Except.ok.injEq, Prod.mk.injEq] at h
    rw [← h.2]
    exact Takes.refl cs

/-- The power of an exponent takes digits only, its sign being taken before. -/
theorem takes_scanPower {negative : Bool} {cs tail : List Char} {r : Int × Bool}
    (h : scanPower negative cs = .ok (r, tail)) : Takes cs tail := by
  unfold scanPower at h
  split at h
  · simp only [Except.ok.injEq, Prod.mk.injEq] at h
    rw [← h.2]
    exact takes_digits cs
  · contradiction

/-- An exponent takes its mark, its sign if there is one, and digits; without a mark nothing is
taken. -/
theorem takes_scanExponent {cs tail : List Char} {r : Int × Bool}
    (h : scanExponent cs = .ok (r, tail)) : Takes cs tail := by
  unfold scanExponent at h
  split at h
  · rename_i c rest
    split at h
    · rename_i mark
      have part : isPart c := by rcases mark with rfl | rfl <;> decide
      refine Takes.cons part ?_
      split at h
      · exact (takes_scanPower h).cons (by decide)
      · exact (takes_scanPower h).cons (by decide)
      · exact takes_scanPower h
    · simp only [Except.ok.injEq, Prod.mk.injEq] at h
      rw [← h.2]
      exact Takes.refl _
  · simp only [Except.ok.injEq, Prod.mk.injEq] at h
    rw [← h.2]
    exact Takes.refl _

/-- The parts of a literal take parts of a literal, one behind the other. -/
theorem takes_scanUnsigned {negative : Bool} {cs tail : List Char} {l : Literal}
    (h : scanUnsigned negative cs = .ok (l, tail)) : Takes cs tail := by
  obtain ⟨_, _, _, _, _, hw, hf, he, _⟩ := scanUnsigned_eq_ok_iff.1 h
  exact (takes_scanWhole hw).trans ((takes_scanFraction hf).trans (takes_scanExponent he))

/-- A literal takes nothing but characters that may stand in one, so that none of them is a blank, a
mark between values or a quote. -/
theorem takes_scan {cs tail : List Char} {l : Literal} (h : scan cs = .ok (l, tail)) :
    Takes cs tail := by
  unfold scan at h
  split at h
  · exact (takes_scanUnsigned h).cons (by decide)
  · exact takes_scanUnsigned h

end Literal

end TemplateCoverage.Json
