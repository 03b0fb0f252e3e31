import TemplateCoverage.Proofs.Json.Extent

/-!
# `TemplateCoverage.Proofs.Json.Lines`: the line at which reading stops

A lexeme of JSON has no line end in it, so that each lexeme stands on the line that the line ends in
front of it tell. A text that cannot be read stops the reader in front of a lexeme, within a
malformed one or at its end. The theorems:

* `Lexeme.countsLines_scan`: a lexeme has no line end in it, and a malformed one counts its own;
* `exists_place_of_lexemes`: the place in a text where a lexeme stands;
* `read_eq_error_iff`: the reader fails with the line of the place where it stops.
-/

set_option autoImplicit false

namespace TemplateCoverage.Json

open Literal (lineEnds headLineEnds)

/-! ### Line ends -/

/-- The line ends of a text are those of its first character, which are one or none, and those of
its rest. Every scan here goes on character by character, and so does the count. -/
theorem count_cons_lineEnds (c : Char) (cs : List Char) :
    (c :: cs).count '\n' = lineEnds c + cs.count '\n' := by
  rw [List.count_cons, lineEnds, Nat.add_comm]
  simp only [beq_iff_eq]

/-- A character that is no line end has none. -/
theorem lineEnds_of_ne {c : Char} (ne : c ≠ '\n') : lineEnds c = 0 := if_neg ne

/-- The line end that a scan counts when it fails at the first character is one of the text, if
there is such a character at all. -/
theorem headLineEnds_le (cs : List Char) : headLineEnds cs ≤ cs.count '\n' := by
  cases cs with
  | nil => exact Nat.zero_le _
  | cons c cs =>
    rw [count_cons_lineEnds]
    exact Nat.le_add_right _ _

/-- Of a text with enough line ends some part at its start has just so many. The lines that a
failure counts thus belong to a place in the text. -/
theorem exists_append_count {n : Nat} {cs : List Char} (enough : n ≤ cs.count '\n') :
    ∃ taken rest, taken ++ rest = cs ∧ taken.count '\n' = n := by
  induction cs generalizing n with
  | nil => exact ⟨[], [], rfl, (Nat.le_zero.1 enough).symm⟩
  | cons c cs ih =>
    by_cases zero : n = 0
    · exact ⟨[], c :: cs, rfl, zero.symm⟩
    -- A character is one line end at most, so that none is passed over.
    · have head : lineEnds c ≤ 1 := by
        unfold lineEnds
        split <;> omega
      rw [count_cons_lineEnds] at enough
      obtain ⟨taken, rest, rfl, counted⟩ := ih (n := n - lineEnds c) (by omega)
      exact ⟨c :: taken, rest, rfl, by rw [count_cons_lineEnds]; omega⟩

/-- What a scan does with line ends: it takes none, and it fails after no more than there are. The
scans of all lexemes have this property, and it composes along their parts. -/
def CountsLines {α : Type} (cs : List Char) : Except Nat (α × List Char) → Prop
  | .ok (_, rest) => rest.count '\n' = cs.count '\n'
  | .error lines => lines ≤ cs.count '\n'

/-- A scan that fails at the first character counts that one's line end at most, so it has the
property whatever the text. -/
theorem countsLines_head {α : Type} (cs : List Char) :
    CountsLines cs (.error (headLineEnds cs) : Except Nat (α × List Char)) :=
  headLineEnds_le cs

namespace CountsLines

variable {α β : Type} {cs cs' rest : List Char} {a : α} {lines : Nat}
  {scanned : Except Nat (α × List Char)}

/-- After a scan that went well the text still has all of its line ends. -/
theorem count_eq (h : CountsLines cs scanned) (found : scanned = .ok (a, rest)) :
    rest.count '\n' = cs.count '\n' := by
  subst found
  exact h

/-- A scan that failed counts no more line ends than the text has, whatever part of it the scan had
taken. -/
theorem le_count (h : CountsLines cs scanned) (stopped : scanned = .error lines) :
    lines ≤ cs.count '\n' := by
  subst stopped
  exact h

/-- Only the line ends of the text count, so that a scan of what another one left may be taken as a
scan of the whole text. -/
theorem congr (h : CountsLines cs scanned) (same : cs.count '\n' = cs'.count '\n') :
    CountsLines cs' scanned := by
  unfold CountsLines at h ⊢
  rwa [← same]

/-- A scan of a text without its first character, which is no line end: that character may be put
back without a change to the count. -/
theorem cons {c : Char} (ne : c ≠ '\n') (tail : CountsLines cs scanned) :
    CountsLines (c :: cs) scanned :=
  tail.congr (by rw [count_cons_lineEnds, lineEnds_of_ne ne, Nat.zero_add])

/-- A scan after one that took no line end. This is the step for literals, whose parts are scanned
one after the other in the error monad. -/
theorem bind {next : α × List Char → Except Nat (β × List Char)} (first : CountsLines cs scanned)
    (second : ∀ a rest, CountsLines rest (next (a, rest))) : CountsLines cs (scanned >>= next) := by
  cases found : scanned with
  | error lines => exact first.le_count found
  | ok r => exact (second r.1 r.2).congr (first.count_eq found)

end CountsLines

/-! ### Numbers -/

namespace Literal

/-- Digits are no line ends, so that what is left behind them has as many line ends as there were
before. The induction is on the text, digit by digit. -/
theorem count_digits (cs : List Char) : (digits cs).2.count '\n' = cs.count '\n' := by
  show (cs.dropWhile Char.isDigit).count '\n' = cs.count '\n'
  induction cs with
  | nil => rfl
  | cons c cs ih =>
    rw [List.dropWhile_cons]
    split
    · rename_i digit
      have ne : c ≠ '\n' := by
        rintro rfl
        exact absurd digit (by decide)
      rw [ih, count_cons_lineEnds, lineEnds_of_ne ne, Nat.zero_add]
    · rfl

/-- The whole part of a literal has no line end: it is a zero or a run of digits, and it fails at
its first character or at the digit behind the zero. -/
theorem countsLines_scanWhole (cs : List Char) : CountsLines cs (scanWhole cs) := by
  cases cs with
  | nil => exact Nat.zero_le _
  | cons c rest =>
    rw [scanWhole]
    split
    · rename_i zero
      refine .cons (by rw [zero]; decide) ?_
      split
      · exact Nat.zero_le _
      · exact rfl
    · split
      · exact count_digits (c :: rest)
      · exact countsLines_head (c :: rest)

/-- A fraction has no line end. Behind its point there has to be a digit, and the failure without
one counts the character that stands there instead. -/
theorem countsLines_scanFraction (cs : List Char) : CountsLines cs (scanFraction cs) := by
  unfold scanFraction
  split
  · refine .cons (by decide) ?_
    split
    · exact count_digits _
    · exact countsLines_head _
  · exact rfl

/-- The digits of an exponent have no line end. Here too a failure counts the character that stands
where the first digit should be. -/
theorem countsLines_scanPower (negative : Bool) (cs : List Char) :
    CountsLines cs (scanPower negative cs) := by
  unfold scanPower
  split
  · exact count_digits cs
  · exact countsLines_head cs

/-- An exponent has no line end, neither in its mark nor in its sign nor in its digits; a literal
without one leaves the text as it is. -/
theorem countsLines_scanExponent (cs : List Char) : CountsLines cs (scanExponent cs) := by
  unfold scanExponent
  split
  · split
    · rename_i mark
      refine .cons (by rcases mark with rfl | rfl <;> decide) ?_
      split
      · exact .cons (by decide) (countsLines_scanPower _ _)
      · exact .cons (by decide) (countsLines_scanPower _ _)
      · exact countsLines_scanPower _ _
    · exact rfl
  · exact rfl

/-- A lexeme has no line end in it, and a malformed one counts those up to the character at fault.
The first character is given to be no blank, hence no line end. -/
theorem countsLines_scan (cs : List Char) : CountsLines cs (scan cs) := by
  have unsigned : ∀ (negative : Bool) (cs : List Char),
      CountsLines cs (scanUnsigned negative cs) := fun negative cs =>
    (countsLines_scanWhole cs).bind fun _ cs =>
      (countsLines_scanFraction cs).bind fun _ cs =>
        (countsLines_scanExponent cs).bind fun _ _ => rfl
  unfold scan
  split
  · exact .cons (by decide) (unsigned _ _)
  · exact unsigned _ _

end Literal

/-! ### Texts and constants -/

namespace Lexeme

/-- The line ends among the first bytes of a text are no more than those of the text. A malformed
unit of an escape counts those of the four bytes that it should be. -/
theorem lineEndsWithin_le (bytes : Nat) (cs : List Char) :
    lineEndsWithin bytes cs ≤ cs.count '\n' := by
  induction cs generalizing bytes with
  | nil => exact Nat.zero_le _
  | cons c cs ih =>
    rw [lineEndsWithin, count_cons_lineEnds]
    split
    · exact Nat.zero_le _
    · exact Nat.add_le_add_left (ih _) _

/-- A hexadecimal digit is no line end. -/
theorem ne_newline_of_hexDigit {c : Char} {d : Nat} (h : hexDigit? c = some d) : c ≠ '\n' := by
  have none : hexDigit? '\n' = none := by decide
  rintro rfl
  rw [none] at h
  contradiction

/-- A unit has no line end. If four hexadecimal digits are not there, the failure counts the line
ends of four bytes, or of what the text still has. -/
theorem countsLines_hexUnit (cs : List Char) : CountsLines cs (hexUnit cs) := by
  unfold hexUnit
  split
  · split
    · rename_i ha hb hc hd
      exact .cons (ne_newline_of_hexDigit ha) (.cons (ne_newline_of_hexDigit hb)
        (.cons (ne_newline_of_hexDigit hc) (.cons (ne_newline_of_hexDigit hd) rfl)))
    · exact lineEndsWithin_le _ _
  · exact lineEndsWithin_le _ _

/-- The second half of a pair has no line end. It may fail at either of its first two characters,
within its unit, or behind it if the unit is no second half. -/
theorem countsLines_trailUnit (lead : Nat) (cs : List Char) :
    CountsLines cs (trailUnit lead cs) := by
  unfold trailUnit
  split
  · rename_i rest
    refine .cons (by decide) (.cons (by decide) ?_)
    split
    · rename_i found
      split
      · exact (countsLines_hexUnit rest).count_eq found
      · -- A unit that is no second half is well spelled, and the failure counts nothing.
        exact Nat.zero_le _
    · rename_i stopped
      exact (countsLines_hexUnit rest).le_count stopped
  · rename_i rest _
    exact .cons (by decide) (countsLines_head rest)
  · exact countsLines_head _

/-- An escape has no line end. Only an escape of a unit goes on behind its letter; another letter
fails as itself, and a line end there counts as one. -/
theorem countsLines_escape (cs : List Char) : CountsLines cs (escape cs) := by
  cases cs with
  | nil => exact Nat.zero_le _
  | cons c rest =>
    simp only [escape]
    split
    case h_9 =>
      refine .cons (by decide) ?_
      split
      · rename_i unit tail found
        have same := (countsLines_hexUnit rest).count_eq found
        split
        · exact Nat.zero_le _
        · split
          -- The first half of a pair is followed by an escape of its own.
          · exact (countsLines_trailUnit unit tail).congr same
          · exact same
      · rename_i stopped
        exact (countsLines_hexUnit rest).le_count stopped
    case h_10 => exact countsLines_head (c :: rest)
    all_goals exact .cons (by decide) rfl

/-- A text has no line end in it, and a failure counts those up to the character at fault. The
induction follows the reader through characters and escapes. -/
theorem countsLines_scanText (read cs : List Char) : CountsLines cs (scanText read cs) := by
  fun_induction scanText read cs with
  | case1 => exact Nat.zero_le _
  | case2 => exact .cons (by decide) rfl
  | case3 read cs d rest' found _ ih =>
    exact .cons (by decide) (ih.congr ((countsLines_escape cs).count_eq found))
  | case4 read cs lines stopped =>
    exact .cons (by decide) ((countsLines_escape cs).le_count stopped)
  | case5 read c cs => exact countsLines_head (c :: cs)
  | case6 read c cs quote backslash control ih =>
    -- A line end is a control character, and none of these may stand in a text.
    refine .cons ?_ ih
    rintro rfl
    exact control (by decide)

/-- The word of a constant has no line end, if none is in the word that is expected; a character
that differs from the expected one may be a line end and counts. -/
theorem countsLines_scanWord {word : List Char} (oneLine : '\n' ∉ word) (cs : List Char) :
    CountsLines cs ((scanWord word cs).map fun rest => ((), rest)) := by
  fun_induction scanWord word cs with
  | case1 => exact rfl
  | case2 => exact Nat.zero_le _
  | case3 word c cs ih =>
    rw [List.mem_cons, not_or] at oneLine
    exact .cons (Ne.symm oneLine.1) (ih oneLine.2)
  | case4 w word c cs => exact countsLines_head (c :: cs)

/-! ### Lexemes -/

/-- The line ends up to the character at fault in a malformed lexeme. Other lexemes have none, as
they are well spelled and stand on one line. -/
def brokenLines : Lexeme → Nat
  | .brokenText lines => lines
  | .brokenScalar lines => lines
  | _ => 0

/-- A constant has no line end in it. The three words that occur satisfy the hypothesis by
computation. -/
theorem countsLines_scanConstant (value : Value) {word : List Char} (oneLine : '\n' ∉ word)
    (cs : List Char) : CountsLines cs ((scanConstant value word cs).mapError brokenLines) := by
  unfold scanConstant
  split
  · rename_i found
    exact (countsLines_scanWord oneLine cs).count_eq (congrArg (Except.map _) found)
  · rename_i stopped
    exact (countsLines_scanWord oneLine cs).le_count (congrArg (Except.map _) stopped)

/-- A number has no line end in it. Besides a malformed literal there is one whose value is too
large, which fails only after it was read as a whole. -/
theorem countsLines_scanNumber (cs : List Char) :
    CountsLines cs ((scanNumber cs).mapError brokenLines) := by
  unfold scanNumber
  split
  · rename_i found
    split
    · exact (Literal.countsLines_scan cs).count_eq found
    -- A number that is too large is well spelled.
    · exact Nat.zero_le _
  · rename_i stopped
    exact (Literal.countsLines_scan cs).le_count stopped

/-- A lexeme has no line end in it, and a malformed one counts those up to the character at
fault. -/
theorem countsLines_scan {c : Char} (ne : c ≠ '\n') (cs : List Char) :
    CountsLines (c :: cs) ((scan c cs).mapError brokenLines) := by
  unfold scan
  -- The first character decides: a mark, a text, one of three constants, a number or none of them.
  split
  · exact .cons ne rfl
  split
  · refine .cons ne ?_
    split
    · rename_i found
      exact (countsLines_scanText [] cs).count_eq found
    · rename_i stopped
      exact (countsLines_scanText [] cs).le_count stopped
  split
  · exact .cons ne (countsLines_scanConstant _ (by decide) cs)
  split
  · exact .cons ne (countsLines_scanConstant _ (by decide) cs)
  split
  · exact .cons ne (countsLines_scanConstant _ (by decide) cs)
  split
  · exact countsLines_scanNumber (c :: cs)
  · exact Nat.zero_le _

end Lexeme

/-- A lexeme that is not malformed has no fault in it: no line ends are counted for it, whatever
state the reader is in when it refuses the lexeme. -/
theorem Lexeme.brokenLines_of_scan {c : Char} {cs rest : List Char} {l : Lexeme}
    (h : scan c cs = .ok (l, rest)) : l.brokenLines = 0 := by
  have constant {value : Value} {word cs : List Char}
      (h : scanConstant value word cs = .ok (l, rest)) : l.brokenLines = 0 := by
    unfold scanConstant at h
    split at h
    · cases h
      rfl
    · contradiction
  unfold scan at h
  split at h
  · rename_i mark found
    cases h
    unfold punctuation? at found
    split at found <;> cases found <;> rfl
  split at h
  · split at h
    · cases h
      rfl
    · contradiction
  split at h
  · exact constant h
  split at h
  · exact constant h
  split at h
  · exact constant h
  split at h
  · obtain ⟨v, rfl⟩ := (takes_scanNumber h).2
    rfl
  · contradiction

/-! ### Where a lexeme stands -/

/-- Line ends are blanks, so that a lexeme does not start with one. -/
theorem ne_newline_of_not_isSpace {c : Char} (space : ¬isSpace c) : c ≠ '\n' := by
  rintro rfl
  exact space rfl

/-- A malformed lexeme is the last one of a text, on the line that it starts on: the reader does not
look for others behind it. -/
theorem lexemes_broken {line : Nat} {c : Char} {cs : List Char} {broken : Lexeme}
    (space : ¬isSpace c) (found : Lexeme.scan c cs = .error broken) :
    lexemes line (c :: cs) = [(line, broken)] := by
  rw [lexemes, if_neg space]
  split <;> simp_all

/-- A text from some lexeme on: the line ends in front of it tell its line, and behind it there are
those up to its fault, if it has one. -/
theorem exists_place_of_lexemes {line line' : Nat} {cs : List Char} {l : Lexeme}
    {first more : List (Nat × Lexeme)} (h : lexemes line cs = first ++ (line', l) :: more) :
    ∃ before behind, before ++ behind = cs ∧ line' = line + before.count '\n' ∧
      lexemes line' behind = (line', l) :: more ∧ (∀ c ∈ behind.head?, ¬isSpace c) ∧
      l.brokenLines ≤ behind.count '\n' := by
  -- Along the lexemes; white space and what is taken in front of the lexeme add to what is before.
  fun_induction lexemes line cs generalizing first with
  | case1 line =>
    cases first <;> contradiction
  | case2 line c rest space ih =>
    obtain ⟨before, behind, rfl, lineEq, place⟩ := ih h
    exact ⟨c :: before, behind, rfl, by rw [count_cons_lineEnds]; omega, place⟩
  | case3 line c rest space lexeme rest' found ih =>
    cases first with
    | nil =>
      simp only [List.nil_append, List.cons.injEq, Prod.mk.injEq] at h
      obtain ⟨⟨rfl, rfl⟩, rfl⟩ := h
      refine ⟨[], c :: rest, rfl, rfl, lexemes_scan (Bool.not_eq_true _ ▸ space) found, ?_, ?_⟩
      · rintro d ⟨⟩
        exact space
      · rw [Lexeme.brokenLines_of_scan found]
        exact Nat.zero_le _
    | cons head first =>
      obtain ⟨before, behind, rfl, lineEq, place⟩ := ih (List.cons.inj h).2
      obtain ⟨taken, rfl, -⟩ := Lexeme.scan_extent found
      -- The lexeme in front takes no line end.
      have same := (Lexeme.countsLines_scan (ne_newline_of_not_isSpace space) _).count_eq
        (congrArg (Except.mapError Lexeme.brokenLines) found)
      simp only [← List.cons_append, List.count_append] at same
      refine ⟨c :: taken ++ before, behind, by simp, ?_, place⟩
      rw [List.count_append]
      omega
  | case4 line c rest space broken found =>
    cases first with
    | nil =>
      simp only [List.nil_append, List.cons.injEq, Prod.mk.injEq] at h
      obtain ⟨⟨rfl, rfl⟩, rfl⟩ := h
      have counted := (Lexeme.countsLines_scan (ne_newline_of_not_isSpace space) rest).le_count
        (congrArg (Except.mapError Lexeme.brokenLines) found)
      refine ⟨[], c :: rest, rfl, rfl, lexemes_broken space found, ?_, counted⟩
      rintro d ⟨⟩
      exact space
    | cons head first =>
      cases first <;> simp at h

/-! ### Where reading stops -/

namespace State

/-- A failure counts no line ends but those up to the fault of a malformed lexeme; a lexeme that is
merely out of place counts none. -/
theorem le_brokenLines_of_step {state : State} {l : Lexeme} {lines : Nat}
    (h : state.step l = .error lines) : lines ≤ l.brokenLines := by
  have started {outer : List Frame} {l : Lexeme} (h : start outer l = .error lines) :
      lines ≤ l.brokenLines := by
    cases l <;> simp only [start] at h <;> grind [Lexeme.brokenLines]
  cases state with
  | value outer => exact started h
  | items outer =>
    -- The end of an empty array is the only lexeme that starts no value here.
    by_cases closed : l = .endArray
    · subst closed
      contradiction
    · rw [step] at h
      · exact started h
      · exact closed
  | members outer => cases l <;> cases h <;> first | exact Nat.le_refl _ | exact Nat.zero_le _
  | key before outer => cases l <;> cases h <;> first | exact Nat.le_refl _ | exact Nat.zero_le _
  | colon before name outer => cases l <;> cases h <;> exact Nat.zero_le _
  | after v outer =>
    rcases outer with _ | ⟨_ | _, _⟩ <;> cases l <;> cases h <;> exact Nat.zero_le _

/-- Reading stops at the first lexeme that cannot stand where it is. Those before it are read, and
the line of the failure is its own with the lines that its fault is further on. -/
theorem exists_of_run_eq_error {state : State} {ls : List (Nat × Lexeme)} {line : Nat}
    (h : state.run ls = .error line) :
    ∃ first line' l more reached lines, ls = first ++ (line', l) :: more ∧
      state.run first = .ok reached ∧ reached.step l = .error lines ∧ line = line' + lines := by
  induction ls generalizing state with
  | nil => contradiction
  | cons head ls ih =>
    obtain ⟨line', l⟩ := head
    rw [run] at h
    split at h
    · rename_i next stepped
      obtain ⟨first, line'', l', more, reached, lines, rfl, read, stopped, eq⟩ := ih h
      refine ⟨(line', l) :: first, line'', l', more, reached, lines, rfl, ?_, stopped, eq⟩
      rw [run, stepped]
      exact read
    · rename_i lines stopped
      cases h
      exact ⟨[], line', l, ls, state, lines, rfl, rfl, stopped, rfl⟩

end State

/-- The part of a text behind which reading stops. It is told by the text and the reader's steps
alone, so that a reported line can be checked against the text itself. -/
inductive StopsBehind (cs : List Char) : List Char → Prop where
  /-- The text ends before its value is complete. -/
  | atEnd {reached : State} (read : (State.value []).run (lexemes 1 cs) = .ok reached)
    (incomplete : ∀ v, reached ≠ .after v []) : StopsBehind cs cs
  /-- A lexeme cannot stand where it is. It is malformed behind the characters taken, or none of it
  is taken. -/
  | inLexeme {before taken rest : List Char} {l : Lexeme} {first more : List (Nat × Lexeme)}
    {reached : State} (whole : before ++ (taken ++ rest) = cs)
    (start : ∀ c ∈ (taken ++ rest).head?, ¬isSpace c)
    (placed : lexemes 1 cs = first ++ lexemes (lastLine before) (taken ++ rest))
    (next : lexemes (lastLine before) (taken ++ rest) = (lastLine before, l) :: more)
    (read : (State.value []).run first = .ok reached)
    (stopped : reached.step l = .error (taken.count '\n')) : StopsBehind cs (before ++ taken)

/-- The part behind which reading stops is one at the start of the text: all of it, or what is
before the lexeme with the characters taken of that. -/
theorem StopsBehind.isPrefix {cs consumed : List Char} (h : StopsBehind cs consumed) :
    consumed <+: cs := by
  cases h with
  | atEnd => exact List.prefix_rfl
  | inLexeme whole => exact ⟨_, (List.append_assoc ..).trans whole⟩

/-- The reader fails with the line of the place where it stops. As the failure has one line only,
the places where it could be said to stop are all on the same line. -/
theorem read_eq_error_iff {cs : List Char} {line : Nat} :
    read cs = .error line ↔ ∃ consumed, StopsBehind cs consumed ∧ line = lastLine consumed := by
  constructor
  · intro h
    unfold read at h
    split at h
    · contradiction
    · rename_i reached incomplete found
      cases h
      exact ⟨cs, .atEnd found incomplete, rfl⟩
    · rename_i found
      cases h
      obtain ⟨first, line', l, more, reached, lines, eq, read, stopped, rfl⟩ :=
        State.exists_of_run_eq_error found
      obtain ⟨before, behind, rfl, rfl, next, start, enough⟩ := exists_place_of_lexemes eq
      -- What is taken of the lexeme has the line ends that the failure counts.
      obtain ⟨taken, rest, rfl, rfl⟩ :=
        exists_append_count (Nat.le_trans (State.le_brokenLines_of_step stopped) enough)
      refine ⟨before ++ taken, .inLexeme rfl start (eq.trans ?_) next read stopped, ?_⟩
      · rw [← next]
        rfl
      · rw [lastLine, List.count_append, Nat.add_assoc]
  · rintro ⟨consumed, stops, rfl⟩
    unfold read
    cases stops with
    -- The lexemes are all read, and what the reader reached is no whole value.
    | atEnd read incomplete =>
      rw [read]
      split
      · rename_i v eq
        cases eq
        exact absurd rfl (incomplete v)
      · rfl
      · contradiction
    -- The lexemes in front are read, and the next one makes the reader stop.
    | inLexeme whole start placed next read stopped =>
      rw [placed, next, State.run_append, read]
      simp only [State.run, stopped, lastLine, List.count_append, Nat.add_assoc]

end TemplateCoverage.Json
