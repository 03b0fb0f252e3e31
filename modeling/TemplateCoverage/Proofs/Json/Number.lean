import TemplateCoverage.Proofs.Json.Literal
import TemplateCoverage.Proofs.Json.Tokens

/-!
# `TemplateCoverage.Proofs.Json.Number`: reading back the numbers that are written

The integers of 64 bits are read back from their digits. Doubles are not always: the reader rounds
twice, so that some of them come back as a neighbour, and `Double.ReadsBack` singles out those that
do not. The theorems:

* `Number.isPart_of_mem_doubleText`: a double is written with the characters of a literal only;
* `Lexeme.scanNumber_text`: a number that is an integer, or a double that is read back, is read back
  in front of more text too.
-/

set_option autoImplicit false

namespace TemplateCoverage

/-- A double is read back from its text as it was. The reader scales the digits by a power of ten
and rounds twice, so that this is not so for every double. -/
def Double.ReadsBack (x : Double) : Prop :=
  Json.read (Json.Number.doubleText x) = .ok ⟨.number (.double x), trivial⟩

namespace Json

/-! ### The texts of numbers -/

namespace Number

open Literal (isPart isPart_of_isDigit)

/-- The digits that are written for a double are those of a natural number without the zeros at its
end, so that they may stand in a literal. -/
theorem isPart_of_mem_digits {d : Double.Decimal} {c : Char} (h : c ∈ d.digits) : isPart c := by
  have mem := (List.dropWhile_sublist _).subset (List.mem_reverse.1 h)
  exact isPart_of_isDigit
    (Nat.isDigit_of_mem_toDigits (by decide) (by decide) (List.mem_reverse.1 mem))

/-- All layouts of a double's digits, with zeros in front, between or behind, with a point or with
an exponent, have only characters that may stand in a literal. -/
theorem isPart_of_mem_decimalText {digits : List Char} {point : Int} {c : Char}
    (hd : ∀ c ∈ digits, isPart c) (h : c ∈ decimalText digits point) : isPart c := by
  have power (n : Nat) : ∀ c ∈ Nat.toDigits 10 n, isPart c := fun c hc =>
    isPart_of_isDigit (Nat.isDigit_of_mem_toDigits (by decide) (by decide) hc)
  have head : ∀ c ∈ digits.take 1, isPart c := fun c hc => hd c (List.mem_of_mem_take hc)
  have front : ∀ c ∈ digits.take point.toNat, isPart c := fun c hc => hd c (List.mem_of_mem_take hc)
  have back (n : Nat) : ∀ c ∈ digits.drop n, isPart c := fun c hc => hd c (List.mem_of_mem_drop hc)
  have marks : ∀ c ∈ ['0', '.', 'e', '+', '-'], isPart c := by simp [isPart]
  unfold decimalText at h
  -- Whatever the layout, a character is a digit of the number or one of the marks.
  repeat' split at h
  all_goals
    simp only [List.mem_append, List.mem_cons, List.mem_replicate, List.not_mem_nil,
      or_false] at h
    grind

/-- The text of a double consists of characters that may stand in a literal: its sign, and the text
of zero or the digits in some layout. -/
theorem isPart_of_mem_doubleText {x : Double} {c : Char} (h : c ∈ doubleText x) : isPart c := by
  unfold doubleText at h
  rcases List.mem_append.1 h with h | h
  · split at h <;> simp at h
    subst h
    decide
  · split at h
    · exact (by simp [isPart] : ∀ c ∈ ['0', '.', '0'], isPart c) c h
    · exact isPart_of_mem_decimalText (fun _ => isPart_of_mem_digits) h

end Number

/-! ### Reading numbers back -/

namespace Lexeme

open Literal (digitsOf isPart isPart_of_isDigit Takes takes_scan)

/-- What may stand in a literal is no blank, so that a number ends before the blank behind it. -/
theorem isSpace_of_isPart {c : Char} (part : isPart c) : isSpace c = false := by
  refine Bool.eq_false_iff.2 ?_
  intro space
  simp only [isSpace, Bool.or_eq_true, beq_iff_eq] at space
  rcases space with ((rfl | rfl) | rfl) | rfl <;> exact absurd part (by decide)

/-- A literal starts with its sign or a digit; a point, an exponent mark or a plus in front is no
lexeme at all. None of these starts a mark, a text or a constant. -/
theorem scan_of_isPart {c : Char} {cs : List Char} (part : isPart c) :
    scan c cs = if c = '-' ∨ c.isDigit then scanNumber (c :: cs) else .error .stray := by
  have unmarked : punctuation? c = none := by
    unfold punctuation?
    split <;> first | rfl | exact absurd part (by decide)
  have others : c ≠ '"' ∧ c ≠ 'n' ∧ c ≠ 't' ∧ c ≠ 'f' := by
    refine ⟨?_, ?_, ?_, ?_⟩ <;> rintro rfl <;> exact absurd part (by decide)
  simp only [scan, unmarked, if_neg others.1, if_neg others.2.1, if_neg others.2.2.1,
    if_neg others.2.2.2]

/-- A number takes characters of a literal only, and it is a value to the reader. -/
theorem takes_scanNumber {cs tail : List Char} {l : Lexeme}
    (h : scanNumber cs = .ok (l, tail)) : Takes cs tail ∧ ∃ w, l = .scalar w := by
  unfold scanNumber at h
  split at h
  · rename_i found
    split at h
    · simp only [Except.ok.injEq, Prod.mk.injEq] at h
      exact ⟨h.2 ▸ takes_scan found, _, h.1.symm⟩
    · contradiction
  · contradiction

/-- What is read as a number starts like a literal: not with a blank, so that a lexeme starts there,
and that lexeme is the number. -/
theorem scan_of_scanNumber {c : Char} {cs tail : List Char} {l : Lexeme}
    (h : scanNumber (c :: cs) = .ok (l, tail)) :
    isSpace c = false ∧ scan c cs = .ok (l, tail) := by
  have starts : c = '-' ∨ c.isDigit := by
    unfold scanNumber at h
    split at h
    · rename_i found
      exact Literal.starts_of_scan found
    · contradiction
  have part : isPart c := by
    rcases starts with rfl | digit
    · decide
    · exact isPart_of_isDigit digit
  exact ⟨isSpace_of_isPart part, by rw [scan_of_isPart part, if_pos starts, h]⟩

/-- A number is read alike at the end of a text and in front of more text, since its literal is and
the value depends on the literal only. -/
theorem scanNumber_append {cs tail rest : List Char} {l : Lexeme} (stop : Literal.StopsAt rest)
    (h : scanNumber cs = .ok (l, tail)) : scanNumber (cs ++ rest) = .ok (l, tail ++ rest) := by
  unfold scanNumber at h ⊢
  split at h
  · rename_i literal tail' found
    rw [Literal.scan_append stop found]
    split at h
    · rename_i value
      simp only [Except.ok.injEq, Prod.mk.injEq] at h
      simp [value, ← h.1, ← h.2]
    · contradiction
  · contradiction

/-- Every natural number of 64 bits is read back from its digits. They are gathered exactly, and the
literal is an integer, so that no double comes in. -/
theorem scanNumber_natural (n : Fin 0x10000000000000000) :
    scanNumber (Number.natural n).text = .ok (.scalar ⟨.number (.natural n), trivial⟩, []) := by
  have digits : Literal.scan (Nat.toDigits 10 n) = .ok (⟨false, digitsOf n, [], 0, true⟩, []) := by
    obtain ⟨c, cs, eq⟩ := List.exists_cons_of_ne_nil (Nat.toDigits_ne_nil (n := n) (b := 10))
    have digit : c.isDigit :=
      Nat.isDigit_of_mem_toDigits (n := n) (b := 10) (by decide) (by decide) (by simp [eq])
    -- A digit is no sign, so that the literal is read without one.
    have sign : c ≠ '-' := by
      rintro rfl
      exact absurd digit (by decide)
    rw [← Literal.scanUnsigned_toDigits, eq, Literal.scan_of_ne sign]
  have value : Literal.value? ⟨false, digitsOf n, [], 0, true⟩ = some (.natural n) := by
    simp [Literal.value?, Literal.gather_eq 0 (Literal.foldl_digitsOf n) n.isLt]
  simp only [scanNumber, Number.text, digits, value]

/-- Every negative integer of 64 bits is read back. It is held as one less than its absolute value,
for which the sign bit leaves room. -/
theorem scanNumber_negative (n : Fin 0x8000000000000000) :
    scanNumber (Number.negative n).text = .ok (.scalar ⟨.number (.negative n), trivial⟩, []) := by
  have digits : Literal.scan ('-' :: Nat.toDigits 10 (n + 1))
      = .ok (⟨true, digitsOf (n + 1), [], 0, true⟩, []) :=
    Literal.scanUnsigned_toDigits true (n + 1)
  have value : Literal.value? ⟨true, digitsOf (n + 1), [], 0, true⟩ = some (.negative n) := by
    have small : n.val + 1 ≤ 0x8000000000000000 := n.isLt
    simp [Literal.value?,
      Literal.gather_eq 0 (Literal.foldl_digitsOf (n + 1)) (Nat.lt_of_le_of_lt small (by decide)),
      small]
  simp only [scanNumber, Number.text, digits, value]

/-! ### Doubles that are read back -/

/-- Behind a value that stands alone no token may follow, so that reading on to a value that stands
alone takes no tokens, and it is the same value. -/
theorem eq_nil_of_foldlM_step {v w : Value} {ls : List Lexeme}
    (h : ls.foldlM State.step (.after v []) = .ok (.after w [])) : ls = [] ∧ v = w := by
  cases ls with
  | nil =>
    simp only [List.foldlM_nil, pure, Except.pure, Except.ok.injEq, State.after.injEq] at h
    exact ⟨rfl, h.1⟩
  | cons l ls => cases l <;> contradiction

/-- A text of characters of a literal that is read as one value is read as a number: it can neither
be a constant nor have a blank behind the number. -/
theorem scanNumber_of_read {cs : List Char} {v : Value} (parts : ∀ c ∈ cs, isPart c)
    (h : read cs = .ok v) : scanNumber cs = .ok (.scalar v, []) := by
  rw [read_eq_ok_iff] at h
  cases cs with
  | nil => simp [pure, Except.pure] at h
  | cons c cs =>
    have space := isSpace_of_isPart (parts c (by simp))
    have start : scan c cs = if c = '-' ∨ c.isDigit then scanNumber (c :: cs) else .error .stray :=
      scan_of_isPart (parts c (by simp))
    obtain ⟨l, tail, next, found, stepped, after⟩ := exists_scan_of_foldlM_step space h
    -- What starts no lexeme is not read, and the rest starts a number.
    rw [found] at start
    split at start
    · obtain ⟨⟨taken, eq, _⟩, w, rfl⟩ := takes_scanNumber start.symm
      simp only [State.step, State.start, Except.ok.injEq] at stepped
      subst stepped
      obtain ⟨none, rfl⟩ := eq_nil_of_foldlM_step after
      -- What is left of the text has no token, and blanks are no part of a literal.
      cases tail with
      | nil => exact start.symm
      | cons d tail =>
        have part : isPart d := parts d (by rw [← eq]; simp)
        exact absurd none (tokens_ne_nil (isSpace_of_isPart part))
    · contradiction

/-- A double that is read back as a text by itself is read back by the scan for numbers. -/
theorem scanNumber_double {x : Double} (h : x.ReadsBack) :
    scanNumber (Number.double x).text = .ok (.scalar ⟨.number (.double x), trivial⟩, []) :=
  scanNumber_of_read (fun _ => Number.isPart_of_mem_doubleText) h

/-- A number is read back in front of more text, doubles only if they are read back at all. All
three kinds of number are read back alone, and `scanNumber_append` puts the text behind. -/
theorem scanNumber_text {n : Number} {rest : List Char} (stop : Literal.StopsAt rest)
    (doubles : ∀ x, n = .double x → x.ReadsBack) :
    scanNumber (n.text ++ rest) = .ok (.scalar ⟨.number n, trivial⟩, rest) := by
  have alone : scanNumber n.text = .ok (.scalar ⟨.number n, trivial⟩, []) := by
    cases n with
    | natural n => exact scanNumber_natural n
    | negative n => exact scanNumber_negative n
    | double x => exact scanNumber_double (doubles x rfl)
  exact scanNumber_append stop alone

end Lexeme

end Json

end TemplateCoverage
