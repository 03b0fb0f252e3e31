import TemplateCoverage.Proofs.Json.Printed

/-!
# `TemplateCoverage.Proofs.Json.Extent`: how far a lexeme goes

What the reader takes as a lexeme depends on the characters that it takes and on nothing behind
them, except that a number goes on as long as it can. The theorems:

* `Literal.scan_cut`: a literal is read alike if the text is cut off behind it;
* `Lexeme.scan_extent`: a lexeme is read alike in front of any text, a number in front of any text
  that it cannot go on with;
* `stopsAt_of_foldlM_step`: what is read after a value is no such text.
-/

set_option autoImplicit false

namespace TemplateCoverage.Json

/-! ### Literals -/

namespace Literal

/-- Digits are taken alike if the text is cut off behind what is left of it. The induction is on the
part that stays: as long as a digit follows, it is taken in both texts, and the first other
character ends both runs. -/
theorem digits_cut {cs tail rest : List Char} {ds : List Nat}
    (h : digits (cs ++ rest) = (ds, tail ++ rest)) : digits cs = (ds, tail) := by
  induction cs generalizing ds with
  | nil =>
    cases rest with
    | nil => simpa using h
    | cons c rest =>
      simp only [digits, List.nil_append, List.takeWhile_cons, List.dropWhile_cons] at h
      cases digit : c.isDigit with
      | false =>
        simp only [digit, Bool.false_eq_true, if_false, Prod.mk.injEq] at h
        rw [List.self_eq_append_left.1 h.2, ← h.1]
        rfl
      | true =>
        simp only [digit, if_true, Prod.mk.injEq] at h
        -- What is dropped at all is not there to be left.
        have shorter := (rest.dropWhile_sublist Char.isDigit).length_le
        rw [h.2, List.length_append, List.length_cons] at shorter
        omega
  | cons c cs ih =>
    simp only [digits, List.cons_append, List.takeWhile_cons, List.dropWhile_cons] at h ih ⊢
    cases digit : c.isDigit with
    | false =>
      simp only [digit, Bool.false_eq_true, if_false, Prod.mk.injEq] at h ⊢
      exact ⟨h.1, (List.append_cancel_right h.2.symm).symm⟩
    | true =>
      simp only [digit, if_true, List.map_cons, Prod.mk.injEq] at h ⊢
      -- The digit is taken in both texts, and the others are by induction.
      have cut := ih (Prod.ext rfl h.2)
      rw [Prod.mk.injEq] at cut
      exact ⟨by rw [cut.1]; exact h.1, cut.2⟩

/-- A digit that a literal takes stands in front of where the text is cut off: had it stood behind,
less than that part would be left. Fractions and exponents need one such digit. -/
theorem any_isDigit_cut {cs tail rest : List Char} {ds : List Nat}
    (h : digits (cs ++ rest) = (ds, tail ++ rest))
    (digit : (cs ++ rest).head?.any Char.isDigit) : cs.head?.any Char.isDigit := by
  have cut := digits_cut h
  cases cs with
  | nil =>
    simp only [digits, List.takeWhile_nil, List.map_nil, List.dropWhile_nil, Prod.mk.injEq] at cut
    rw [← cut.1, ← cut.2] at h
    cases rest with
    | nil => contradiction
    | cons c rest =>
      have isDigit : c.isDigit := by simpa using digit
      simp [digits, isDigit] at h
  | cons c cs => exact digit

/-- The digits in front of the point are read alike if the text is cut off behind them. A leading
zero stands alone, so that nothing behind it is looked at but whether it is a digit. -/
theorem scanWhole_cut {cs tail rest : List Char} {ds : List Nat}
    (h : scanWhole (cs ++ rest) = .ok (ds, tail ++ rest)) : scanWhole cs = .ok (ds, tail) := by
  cases cs with
  | nil =>
    have shorter := scanWhole_length h
    rw [List.length_append, List.nil_append] at shorter
    omega
  | cons c cs =>
    simp only [scanWhole, List.cons_append] at h ⊢
    split at h
    · rename_i zero
      split at h
      · contradiction
      · rename_i last
        simp only [Except.ok.injEq, Prod.mk.injEq] at h
        have none : ¬cs.head?.any Char.isDigit := by
          cases cs with
          | nil => simp
          | cons d cs => exact last
        rw [if_pos zero, if_neg none, h.1, List.append_cancel_right h.2]
    · rename_i nonzero
      rw [if_neg nonzero]
      split at h
      · rename_i digit
        rw [if_pos digit, digits_cut (Except.ok.inj h)]
      · contradiction

/-- A fraction is read alike if the text is cut off behind it. Without a point there is none, and
that a text does not start with a point is not changed by cutting off its end. -/
theorem scanFraction_cut {cs tail rest : List Char} {r : List Nat × Bool}
    (h : scanFraction (cs ++ rest) = .ok (r, tail ++ rest)) : scanFraction cs = .ok (r, tail) := by
  unfold scanFraction at h
  split at h
  · rename_i fraction eq
    split at h
    · rename_i digit
      simp only [Except.ok.injEq, Prod.mk.injEq] at h
      cases cs with
      | nil =>
        -- A point that is cut off would have taken the fraction with it.
        have shorter := digits_length fraction
        rw [h.2, List.length_append, ← List.nil_append rest, eq, List.length_cons] at shorter
        omega
      | cons c cs =>
        simp only [List.cons_append, List.cons.injEq] at eq
        obtain ⟨rfl, rfl⟩ := eq
        have cut : digits (cs ++ rest) = ((digits (cs ++ rest)).1, tail ++ rest) :=
          Prod.ext rfl h.2
        simp only [scanFraction]
        rw [if_pos (any_isDigit_cut cut digit), digits_cut cut, ← h.1]
    · contradiction
  · rename_i pointless
    simp only [Except.ok.injEq, Prod.mk.injEq] at h
    rw [← h.1, ← List.append_cancel_right h.2]
    unfold scanFraction
    split
    · -- The shorter text starts as the longer one does, so that it has no point either.
      exact absurd rfl (pointless _)
    · rfl

/-- The digits of an exponent are read alike if the text is cut off behind them; the first one of
them is required, and `any_isDigit_cut` says that it is not cut off. -/
theorem scanPower_cut {negative : Bool} {cs tail rest : List Char} {r : Int × Bool}
    (h : scanPower negative (cs ++ rest) = .ok (r, tail ++ rest)) :
    scanPower negative cs = .ok (r, tail) := by
  unfold scanPower at h ⊢
  split at h
  · rename_i digit
    simp only [Except.ok.injEq, Prod.mk.injEq] at h
    have cut : digits (cs ++ rest) = ((digits (cs ++ rest)).1, tail ++ rest) := Prod.ext rfl h.2
    rw [if_pos (any_isDigit_cut cut digit), digits_cut cut, ← h.1]
  · contradiction

/-- The sign of an exponent stands in front of where the text is cut off, as its digits do: the part
that is left is shorter than what follows the sign. -/
theorem cons_of_scanPower {negative : Bool} {c : Char} {cs tail rest more : List Char}
    {r : Int × Bool} (eq : cs ++ rest = c :: more)
    (h : scanPower negative more = .ok (r, tail ++ rest)) :
    ∃ cs', cs = c :: cs' ∧ scanPower negative cs' = .ok (r, tail) := by
  cases cs with
  | nil =>
    have shorter := scanPower_length h
    rw [List.length_append, ← List.nil_append rest, eq, List.length_cons] at shorter
    omega
  | cons d cs =>
    simp only [List.cons_append, List.cons.injEq] at eq
    obtain ⟨rfl, rfl⟩ := eq
    exact ⟨cs, rfl, scanPower_cut h⟩

/-- An exponent is read alike if the text is cut off behind it, whether it has a sign or not. Where
the text that stays is empty there is none, since one would have taken part of what is cut off. -/
theorem scanExponent_cut {cs tail rest : List Char} {r : Int × Bool}
    (h : scanExponent (cs ++ rest) = .ok (r, tail ++ rest)) : scanExponent cs = .ok (r, tail) := by
  cases cs with
  | nil =>
    cases rest with
    | nil => simpa using h
    | cons c rest =>
      simp only [List.nil_append, scanExponent] at h
      split at h
      · -- An exponent would leave less than the text that is cut off.
        have shorter : (tail ++ c :: rest).length ≤ rest.length := by
          split at h
          · exact Nat.le_succ_of_le (scanPower_length h)
          · exact Nat.le_succ_of_le (scanPower_length h)
          · exact scanPower_length h
        rw [List.length_append, List.length_cons] at shorter
        omega
      · simp only [Except.ok.injEq, Prod.mk.injEq] at h
        rw [← h.1, List.self_eq_append_left.1 h.2]
        rfl
  | cons c cs =>
    simp only [List.cons_append, scanExponent] at h ⊢
    split at h
    · rename_i mark
      rw [if_pos mark]
      split at h
      · rename_i eq
        obtain ⟨cs, rfl, power⟩ := cons_of_scanPower eq h
        exact power
      · rename_i eq
        obtain ⟨cs, rfl, power⟩ := cons_of_scanPower eq h
        exact power
      · rename_i noPlus noMinus
        split
        · exact absurd rfl (noPlus _)
        · exact absurd rfl (noMinus _)
        · exact scanPower_cut h
    · rename_i noMark
      simp only [Except.ok.injEq, Prod.mk.injEq] at h
      rw [if_neg noMark, ← h.1, ← List.append_cancel_right ((List.cons_append ..).trans h.2)]

/-- What is taken from a text that leaves another one behind leaves that one behind throughout, so
that all parts of a literal are in front of where the text is cut off. -/
theorem Takes.exists_append {cs tail rest : List Char} (h : Takes cs (tail ++ rest)) :
    ∃ before, cs = before ++ rest := by
  obtain ⟨taken, rfl, -⟩ := h
  exact ⟨taken ++ tail, (List.append_assoc _ _ _).symm⟩

/-- A literal without its sign is read alike if the text is cut off behind it: its three parts are
cut one after the other, each by its own lemma. -/
theorem scanUnsigned_cut {negative : Bool} {cs tail rest : List Char} {l : Literal}
    (h : scanUnsigned negative (cs ++ rest) = .ok (l, tail ++ rest)) :
    scanUnsigned negative cs = .ok (l, tail) := by
  obtain ⟨whole, fraction, exponent, _, _, hw, hf, he, literal⟩ := scanUnsigned_eq_ok_iff.1 h
  -- What the last part leaves stands behind the other parts too, so that these can be cut as well.
  obtain ⟨more, rfl⟩ := (takes_scanExponent he).exists_append
  obtain ⟨most, rfl⟩ := (takes_scanFraction hf).exists_append
  exact scanUnsigned_eq_ok_iff.2 ⟨whole, fraction, exponent, _, _, scanWhole_cut hw,
    scanFraction_cut hf, scanExponent_cut he, literal⟩

/-- A literal is read alike if the text is cut off behind it. With `scan_append`, which puts another
text there, the reader's view of a number is independent of what follows. -/
theorem scan_cut {cs tail rest : List Char} {l : Literal}
    (h : scan (cs ++ rest) = .ok (l, tail ++ rest)) : scan cs = .ok (l, tail) := by
  cases cs with
  | nil =>
    have shorter := scan_length h
    rw [List.length_append, List.nil_append] at shorter
    omega
  | cons c cs =>
    by_cases sign : c = '-'
    · subst sign
      exact scanUnsigned_cut h
    · rw [List.cons_append, scan_of_ne sign] at h
      rw [scan_of_ne sign]
      exact scanUnsigned_cut h

end Literal

/-! ### Lexemes -/

namespace Lexeme

/-- A number is read alike in front of any text that it cannot go on with. That text is a real
restriction: in front of a digit the number would be another one. -/
theorem scanNumber_extent {cs rest : List Char} {l : Lexeme} (h : scanNumber cs = .ok (l, rest)) :
    ∃ taken, taken ++ rest = cs ∧
      ∀ after, Literal.StopsAt after → scanNumber (taken ++ after) = .ok (l, after) := by
  obtain ⟨taken, rfl, -⟩ := (takes_scanNumber h).1
  refine ⟨taken, rfl, fun after stop => ?_⟩
  -- The number is read alike with nothing behind it, and so in front of what stops it.
  have alone : scanNumber taken = .ok (l, []) := by
    unfold scanNumber at h ⊢
    split at h
    · rename_i found
      split at h
      · rename_i value
        simp only [Except.ok.injEq, Prod.mk.injEq] at h
        obtain ⟨rfl, rfl⟩ := h
        have cut : Literal.scan taken = .ok (_, []) := Literal.scan_cut found
        rw [cut]
        simp only [value]
      · contradiction
    · contradiction
  exact scanNumber_append stop alone

/-- A part of a text that is read alike whatever stands behind it. Marks, texts and constants have
such an extent, since each of them tells by itself where it ends. -/
def Extent {ε α : Type} (scan : List Char → Except ε (α × List Char)) (cs : List Char) (a : α)
    (rest : List Char) : Prop :=
  ∃ taken, taken ++ rest = cs ∧ ∀ after, scan (taken ++ after) = .ok (a, after)

/-- What is read alike in front of any text is so in front of those of some kind. This brings
lexemes that tell their end and numbers, which do not, into one form. -/
theorem Extent.guarded {ε α : Type} {scan : List Char → Except ε (α × List Char)}
    {cs rest : List Char} {a : α} {P : List Char → Prop} (h : Extent scan cs a rest) :
    ∃ taken, taken ++ rest = cs ∧ ∀ after, P after → scan (taken ++ after) = .ok (a, after) := by
  obtain ⟨taken, rfl, extent⟩ := h
  exact ⟨taken, rfl, fun after _ => extent after⟩

/-- A unit of an escape is four hexadecimal digits, however many more follow. -/
theorem hexUnit_extent {cs rest : List Char} {unit : Nat} (h : hexUnit cs = .ok (unit, rest)) :
    Extent hexUnit cs unit rest := by
  unfold hexUnit at h
  split at h
  · rename_i a b c d tail
    split at h
    · rename_i ha hb hc hd
      simp only [Except.ok.injEq, Prod.mk.injEq] at h
      obtain ⟨rfl, rfl⟩ := h
      refine ⟨[a, b, c, d], rfl, fun after => ?_⟩
      simp only [List.cons_append, List.nil_append, hexUnit, ha, hb, hc, hd]
    · contradiction
  · contradiction

/-- The second half of a pair is an escape of its own, of fixed length as all escapes of units are,
so that nothing behind it is looked at. -/
theorem trailUnit_extent {lead : Nat} {cs rest : List Char} {c : Char}
    (h : trailUnit lead cs = .ok (c, rest)) : Extent (trailUnit lead) cs c rest := by
  unfold trailUnit at h
  split at h
  · split at h
    · rename_i found
      obtain ⟨taken, rfl, extent⟩ := hexUnit_extent found
      split at h
      · rename_i trail
        simp only [Except.ok.injEq, Prod.mk.injEq] at h
        obtain ⟨rfl, rfl⟩ := h
        refine ⟨'\\' :: 'u' :: taken, rfl, fun after => ?_⟩
        simp only [List.cons_append, trailUnit, extent, trail, if_true]
      · contradiction
    · contradiction
  · contradiction
  · contradiction

/-- An escape ends by itself: after its letter, after the four digits of a unit, or after the second
escape if the unit is the first half of a pair. -/
theorem escape_extent {cs rest : List Char} {c : Char} (h : escape cs = .ok (c, rest)) :
    Extent escape cs c rest := by
  cases cs with
  | nil => contradiction
  | cons e tail =>
    simp only [escape] at h
    split at h
    case h_9 =>
      split at h
      · rename_i found
        obtain ⟨first, rfl, extent⟩ := hexUnit_extent found
        split at h
        · contradiction
        · rename_i trail
          split at h
          -- The first half of a pair is followed by an escape of its own.
          · rename_i lead
            obtain ⟨second, rfl, extent'⟩ := trailUnit_extent h
            refine ⟨'u' :: (first ++ second), by simp, fun after => ?_⟩
            simp only [List.cons_append, List.append_assoc, escape, extent, trail, lead, if_true,
              extent', Bool.false_eq_true, if_false]
          · rename_i lead
            simp only [Except.ok.injEq, Prod.mk.injEq] at h
            obtain ⟨rfl, rfl⟩ := h
            refine ⟨'u' :: first, rfl, fun after => ?_⟩
            simp only [List.cons_append, escape, extent, trail, lead, Bool.false_eq_true, if_false]
      · contradiction
    case h_10 => contradiction
    all_goals
      simp only [Except.ok.injEq, Prod.mk.injEq] at h
      obtain ⟨rfl, rfl⟩ := h
      exact ⟨[_], rfl, fun after => rfl⟩

/-- A text ends at its first quote that is not escaped. The induction follows the reader through the
characters and escapes before that quote, so that what is behind it never matters. -/
theorem scanText_extent {read cs rest : List Char} {s : String}
    (h : scanText read cs = .ok (s, rest)) : Extent (scanText read) cs s rest := by
  fun_induction scanText read cs with
  | case1 => contradiction
  | case2 read cs =>
    simp only [Except.ok.injEq, Prod.mk.injEq] at h
    obtain ⟨rfl, rfl⟩ := h
    exact ⟨['"'], rfl, fun after => scanText_quote read after⟩
  | case3 read cs d rest' found _ ih =>
    obtain ⟨escaped, rfl, extent⟩ := escape_extent found
    obtain ⟨taken, rfl, extent'⟩ := ih h
    refine ⟨'\\' :: (escaped ++ taken), by simp, fun after => ?_⟩
    rw [List.cons_append, List.append_assoc, scanText_escape (extent _), extent']
  | case4 => contradiction
  | case5 => contradiction
  | case6 read c cs quote backslash control ih =>
    obtain ⟨taken, rfl, extent⟩ := ih h
    refine ⟨c :: taken, rfl, fun after => ?_⟩
    rw [List.cons_append, scanText_plain quote backslash control, extent]

/-- The rest of a constant's word is read alike in front of any text, for it is compared character
by character and no further than it is long. -/
theorem scanWord_extent {word cs rest : List Char} (h : scanWord word cs = .ok rest) :
    ∃ taken, taken ++ rest = cs ∧ ∀ after, scanWord word (taken ++ after) = .ok after := by
  fun_induction scanWord word cs with
  | case1 cs =>
    cases h
    exact ⟨[], rfl, fun after => rfl⟩
  | case2 => contradiction
  | case3 word c cs ih =>
    obtain ⟨taken, rfl, extent⟩ := ih h
    refine ⟨c :: taken, rfl, fun after => ?_⟩
    rw [List.cons_append, scanWord, if_pos rfl, extent]
  | case4 => contradiction

/-- A constant ends with its word, even in front of a letter: whether anything may stand there is
for the next lexeme to say. -/
theorem scanConstant_extent {value : Value} {word cs rest : List Char} {l : Lexeme}
    (h : scanConstant value word cs = .ok (l, rest)) :
    Extent (scanConstant value word) cs l rest := by
  unfold scanConstant at h
  split at h
  · rename_i found
    simp only [Except.ok.injEq, Prod.mk.injEq] at h
    obtain ⟨rfl, rfl⟩ := h
    obtain ⟨taken, rfl, extent⟩ := scanWord_extent found
    exact ⟨taken, rfl, fun after => by rw [scanConstant, extent]⟩
  · contradiction

/-- Whether a character starts a number, as the reader decides it: by the sign or a digit. -/
def startsNumber (c : Char) : Prop := c = '-' ∨ c.isDigit

/-- A lexeme is read alike in front of any text, a number in front of any text that it cannot go on
with. This is what allows to put other blanks or other lexemes behind a lexeme. -/
theorem scan_extent {c : Char} {cs rest : List Char} {l : Lexeme} (h : scan c cs = .ok (l, rest)) :
    ∃ taken, taken ++ rest = cs ∧
      ∀ after, (startsNumber c → Literal.StopsAt after) →
        scan c (taken ++ after) = .ok (l, after) := by
  cases mark : punctuation? c with
  | some m =>
    simp only [scan, mark, Except.ok.injEq, Prod.mk.injEq] at h ⊢
    obtain ⟨rfl, rfl⟩ := h
    exact ⟨[], rfl, fun after _ => ⟨rfl, rfl⟩⟩
  | none =>
    simp only [scan, mark] at h ⊢
    -- The first character decides whether this is a text, a word or a number.
    by_cases quote : c = '"'
    · simp only [if_pos quote] at h ⊢
      split at h
      · rename_i found
        simp only [Except.ok.injEq, Prod.mk.injEq] at h
        obtain ⟨rfl, rfl⟩ := h
        obtain ⟨taken, rfl, extent⟩ := scanText_extent found
        exact ⟨taken, rfl, fun after _ => by rw [extent]⟩
      · contradiction
    simp only [if_neg quote] at h ⊢
    by_cases n : c = 'n'
    · simp only [if_pos n] at h ⊢
      exact (scanConstant_extent h).guarded
    simp only [if_neg n] at h ⊢
    by_cases t : c = 't'
    · simp only [if_pos t] at h ⊢
      exact (scanConstant_extent h).guarded
    simp only [if_neg t] at h ⊢
    by_cases f : c = 'f'
    · simp only [if_pos f] at h ⊢
      exact (scanConstant_extent h).guarded
    simp only [if_neg f] at h ⊢
    split at h
    · rename_i number
      obtain ⟨taken, eq, extent⟩ := scanNumber_extent h
      simp only [if_pos number]
      cases taken with
      | nil =>
        -- A number takes a character at least, so that its first one is the one given.
        have shorter := scanNumber_length h
        rw [← eq] at shorter
        exact absurd shorter (Nat.lt_irrefl _)
      | cons d taken =>
        simp only [List.cons_append, List.cons.injEq] at eq
        obtain ⟨rfl, rfl⟩ := eq
        exact ⟨taken, rfl, fun after stop => extent after (stop number)⟩
    · contradiction

end Lexeme

/-! ### Behind a value -/

/-- A lexeme that starts as a number does is a value. Hence it cannot stand right behind a value,
which is how `stopsAt_of_foldlM_step` excludes that a number goes on. -/
theorem Lexeme.scalar_of_startsNumber {c : Char} {cs rest : List Char} {l : Lexeme}
    (number : startsNumber c) (h : scan c cs = .ok (l, rest)) : ∃ v, l = .scalar v := by
  have part : Literal.isPart c := by
    rcases number with rfl | digit
    · rfl
    · exact Literal.isPart_of_isDigit digit
  rw [scan_of_isPart part, if_pos (show c = '-' ∨ c.isDigit from number)] at h
  exact (takes_scanNumber h).2

/-- A scalar completes a value wherever it may stand: at the start, in an array or behind a key. The
reader is then behind that value, among the frames that are open. -/
theorem State.step_scalar {state next : State} {v : Value}
    (h : state.step (.scalar v) = .ok next) : ∃ outer, next = .after v outer := by
  cases state with
  | value outer =>
    cases h
    exact ⟨outer, rfl⟩
  | items outer =>
    cases h
    exact ⟨_, rfl⟩
  | after w outer => rcases outer with _ | ⟨_ | _, _⟩ <;> contradiction
  | _ => contradiction

/-- No value stands behind another one: there the reader accepts a comma or the end of what is open,
and nothing at all if nothing is open. -/
theorem State.step_after_scalar {v w : Value} {outer : List Frame} {next : State} :
    (State.after v outer).step (.scalar w) ≠ .ok next := by
  rcases outer with _ | ⟨_ | _, _⟩ <;> exact nofun

/-- No part of a number stands behind a value in a text that is read: it would be a number of its
own, or the start of no lexeme. -/
theorem not_isPart_of_foldlM_step {v : Value} {outer : List Frame} {c : Char} {cs : List Char}
    {final : State} (h : (tokens (c :: cs)).foldlM State.step (.after v outer) = .ok final) :
    ¬Literal.isPart c := by
  intro part
  obtain ⟨l, rest, next, found, stepped, -⟩ :=
    exists_scan_of_foldlM_step (Lexeme.isSpace_of_isPart part) h
  rw [Lexeme.scan_of_isPart part] at found
  split at found
  · obtain ⟨w, rfl⟩ := (Lexeme.takes_scanNumber found).2
    exact State.step_after_scalar stepped
  · contradiction

/-- What is read after a value is no text that a number can go on with. So the hypothesis of
`scan_extent` on numbers holds in every text that is read at all. -/
theorem stopsAt_of_foldlM_step {v : Value} {outer : List Frame} {cs : List Char} {final : State}
    (h : (tokens cs).foldlM State.step (.after v outer) = .ok final) : Literal.StopsAt cs := by
  cases cs with
  | nil => exact nofun
  | cons c cs =>
    have part := not_isPart_of_foldlM_step h
    simp only [Literal.isPart, Bool.or_eq_true, beq_iff_eq, not_or] at part
    exact Literal.stopsAt_cons (Bool.eq_false_iff.2 part.1.1.1.1.1)
      ⟨part.1.1.1.1.2, part.1.1.1.2, part.1.1.2⟩

end TemplateCoverage.Json
