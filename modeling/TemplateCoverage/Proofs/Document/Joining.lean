import TemplateCoverage.Proofs.Comment.Quotes

/-!
# `TemplateCoverage.Proofs.Document.Joining`: comments inside lexemes

A comment that does not stand between two lexemes of the text without it stands inside one: it joins
the characters on its two sides. With a space for the comment these stay apart, and there is no such
lexeme any more. So the spaces make no difference where they can be read at all. The theorems:

* `not_foldlM_step_of_split`: no constant and no number can be read with a space in it;
* `betweenLexemes_of_foldlM_step`: if a text can be read both without the comments and with spaces
  for them, all comments stand between lexemes;
* `readCatalog_spaced_iff`: when spaces can stand for the comments of a catalog.
-/

set_option autoImplicit false

namespace TemplateCoverage

open Json (Lexeme State Value)

namespace Json

open Literal (StopsAt)

/-! ### Lexemes with a space in them -/

/-- What stands behind a lexeme is read after it, in the state that the lexeme leads to. -/
theorem foldlM_step_of_scan {c : Char} {cs rest : List Char} {l : Lexeme}
    {state next final : State} (space : isSpace c = false)
    (found : Lexeme.scan c cs = .ok (l, rest)) (stepped : state.step l = .ok next)
    (read : (tokens (c :: cs)).foldlM State.step state = .ok final) :
    (tokens rest).foldlM State.step next = .ok final := by
  rw [tokens_scan space found, List.foldlM_cons, stepped] at read
  exact read

/-- A word is read where it stands letter by letter, and what is behind it is left. -/
theorem Lexeme.scanWord_eq_ok_iff {word cs rest : List Char} :
    scanWord word cs = .ok rest ↔ cs = word ++ rest := by
  fun_induction scanWord word cs with
  | case1 => simp
  | case2 => simp
  | case3 word c cs ih => rw [ih]; simp
  | case4 w word c cs ne => simp [ne]

/-- The first character tells which lexemes start with it, unless it is a quote: a mark, a constant,
numbers or none. It replaces the cases of the scanner in the proofs below. -/
theorem Lexeme.scan_kinds {c : Char} (quote : c ≠ '"') :
    (∃ mark, ∀ cs, scan c cs = .ok (mark, cs)) ∨
    (∃ value word, word.all Char.isLower ∧ ∀ cs, scan c cs = scanConstant value word cs) ∨
    (startsNumber c ∧ ∀ cs, scan c cs = scanNumber (c :: cs)) ∨
    ∀ cs, scan c cs = .error .stray := by
  cases marked : punctuation? c with
  | some mark => exact .inl ⟨mark, fun cs => by simp only [scan, marked]⟩
  | none =>
    simp only [scan, marked, if_neg quote]
    by_cases n : c = 'n'
    · exact .inr (.inl ⟨Value.null, ['u', 'l', 'l'], rfl, fun cs => if_pos n⟩)
    by_cases t : c = 't'
    · exact .inr (.inl ⟨Value.bool true, ['r', 'u', 'e'], rfl, fun cs => by
        rw [if_neg n, if_pos t]⟩)
    by_cases f : c = 'f'
    · exact .inr (.inl ⟨Value.bool false, ['a', 'l', 's', 'e'], rfl, fun cs => by
        rw [if_neg n, if_neg t, if_pos f]⟩)
    simp only [if_neg n, if_neg t, if_neg f]
    by_cases number : c = '-' ∨ c.isDigit
    · exact .inr (.inr (.inl ⟨number, fun cs => if_pos number⟩))
    · exact .inr (.inr (.inr fun cs => if_neg number))

/-- A constant takes its word and nothing else, so that two constants in a row are two lexemes. -/
theorem Lexeme.scanConstant_eq {value : Value} {word cs rest : List Char} {l : Lexeme}
    (h : scanConstant value word cs = .ok (l, rest)) : cs = word ++ rest := by
  unfold scanConstant at h
  split at h
  · rename_i found
    cases h
    exact scanWord_eq_ok_iff.1 found
  · contradiction

/-- What a lexeme takes behind its first character has no quote, slash or space, unless it is a
text. So no comment starts in it, and no white space ends it. -/
theorem Lexeme.isPlain_of_scan {c d : Char} {taken rest : List Char} {l : Lexeme} (quote : c ≠ '"')
    (found : scan c (taken ++ rest) = .ok (l, rest)) (mem : d ∈ taken) :
    Comment.isPlain d ∧ isSpace d = false := by
  rcases scan_kinds quote with ⟨mark, kind⟩ | ⟨value, word, letters, kind⟩ | ⟨_, kind⟩ | kind
  · -- A mark takes nothing behind its character.
    rw [kind] at found
    have none : taken = [] := List.append_left_eq_self.1 (Prod.mk.inj (Except.ok.inj found)).2
    rw [none] at mem
    contradiction
  · rw [kind] at found
    obtain rfl : taken = word := List.append_cancel_right (scanConstant_eq found)
    have letter := List.all_eq_true.1 letters d mem
    constructor
    · simp only [Comment.isPlain, Bool.and_eq_true, bne_iff_ne]
      constructor <;> rintro rfl <;> exact absurd letter (by decide)
    · simp only [isSpace, Bool.or_eq_false_iff, beq_eq_false_iff_ne]
      refine ⟨⟨⟨?_, ?_⟩, ?_⟩, ?_⟩ <;> rintro rfl <;> exact absurd letter (by decide)
  · rw [kind] at found
    obtain ⟨⟨taken', eq, parts⟩, -⟩ := takes_scanNumber found
    rw [← List.cons_append] at eq
    obtain rfl : taken' = c :: taken := List.append_cancel_right eq
    have part := parts d (List.mem_cons_of_mem c mem)
    exact ⟨Comment.isPlain_of_isPart part, isSpace_of_isPart part⟩
  · rw [kind] at found
    contradiction

/-- No constant and no number can be read with a space in it. The character behind the space would
have to go on with the lexeme. -/
theorem not_foldlM_step_of_split {c e : Char} {done more tail blanks behind : List Char}
    {l : Lexeme} {state final : State} (space : isSpace c = false) (quote : c ≠ '"')
    (found : Lexeme.scan c (done ++ e :: more ++ tail) = .ok (l, tail)) (inside : isSpace e = false)
    (spaces : ∀ b ∈ blanks, isSpace b) :
    (tokens (c :: (done ++ ' ' :: (blanks ++ e :: behind)))).foldlM State.step state ≠
      .ok final := by
  intro read
  obtain ⟨l', rest, next, found', stepped, after⟩ := exists_scan_of_foldlM_step space read
  rcases Lexeme.scan_kinds quote with ⟨mark, kind⟩ | ⟨value, word, _, kind⟩ | ⟨_, kind⟩ | kind
  · rw [kind] at found
    have none := List.append_left_eq_self.1 (Prod.mk.inj (Except.ok.inj found)).2
    simp at none
  · -- A constant is spelled in one way.
    rw [kind] at found found'
    have spelled : done ++ e :: more = word :=
      List.append_cancel_right (Lexeme.scanConstant_eq found)
    have split := Lexeme.scanConstant_eq found'
    rw [← spelled, List.append_assoc] at split
    obtain ⟨rfl, -⟩ := List.cons.inj (List.append_cancel_left split)
    contradiction
  · -- A number goes on up to the space, and no other value stands behind it.
    rw [kind] at found found'
    obtain ⟨⟨taken, eq, parts⟩, -⟩ := Lexeme.takes_scanNumber found
    rw [← List.cons_append] at eq
    obtain rfl : taken = c :: (done ++ e :: more) := List.append_cancel_right eq
    obtain ⟨⟨taken', eq', partsTaken⟩, v, rfl⟩ := Lexeme.takes_scanNumber found'
    obtain ⟨outer, rfl⟩ := State.step_scalar stepped
    have rest_eq : rest = ' ' :: (blanks ++ e :: behind) := by
      rw [← List.cons_append] at eq'
      rcases List.append_eq_append_iff.1 eq' with ⟨as, more_eq, rest_eq⟩ | ⟨bs, taken_eq, split⟩
      · -- The number would have stopped inside the part that it has without the space.
        cases as with
        | nil => exact rest_eq
        | cons d as =>
          rw [rest_eq] at after
          refine absurd (parts d ?_) (not_isPart_of_foldlM_step after)
          have mem : d ∈ c :: done := more_eq ▸ List.mem_append_right _ List.mem_cons_self
          rw [← List.cons_append]
          exact List.mem_append_left _ mem
      · -- The number would have taken the space.
        cases bs with
        | nil => exact split.symm
        | cons d bs =>
          obtain ⟨rfl, -⟩ := List.cons.inj split
          refine absurd (partsTaken ' ' ?_) (by decide)
          rw [taken_eq]
          exact List.mem_append_right _ List.mem_cons_self
    rw [rest_eq, tokens_space rfl, tokens_blanks spaces] at after
    exact not_isPart_of_foldlM_step after (parts e (by simp))
  · rw [kind] at found
    contradiction

/-- Blanks in front of a place between two lexemes make no difference, as they may stand there
themselves. -/
theorem Between.blanks {blanks front back : List Char} (spaces : ∀ b ∈ blanks, isSpace b)
    (between : Between front back) : Between (blanks ++ front) back := by
  induction blanks with
  | nil => exact between
  | cons b blanks ih =>
    obtain ⟨space, spaces⟩ := List.forall_mem_cons.1 spaces
    exact .space space (ih spaces)

end Json

namespace Comment

open Json (tokens isSpace Between)
open Json.Literal (StopsAt)

/-! ### Pieces and lexemes -/

/-- Pieces that are no comments in front of pieces whose comments stand between lexemes. How the
place is extended by them is left to the caller. -/
theorem BetweenLexemes.append {qs : List Piece} (between : BetweenLexemes qs) (ps : List Piece)
    (noComment : ∀ text, .comment text ∉ ps)
    (extend : ∀ front back, front ++ back = qs.flatMap Piece.kept → Between front back →
      Between (ps.flatMap Piece.kept ++ front) back) : BetweenLexemes (ps ++ qs) := by
  intro before comment after eq
  rcases List.append_eq_append_iff.1 eq with ⟨later, rfl, rfl⟩ | ⟨later, rfl, split⟩
  · rw [List.flatMap_append]
    exact extend _ _ List.flatMap_append.symm (between later comment after rfl)
  · cases later with
    | nil =>
      obtain rfl : qs = .comment comment :: after := split.symm
      have here := extend [] _ rfl (.start _)
      rwa [List.append_nil, List.append_nil] at here
    | cons p later =>
      obtain ⟨rfl, -⟩ := List.cons.inj split
      exact absurd (List.mem_append_right _ List.mem_cons_self) (noComment comment)

/-- A comment in front stands before the first lexeme, as do its line ends, which are blanks to the
others. -/
theorem BetweenLexemes.comment {ps : List Piece} (between : BetweenLexemes ps)
    (text : List Char) : BetweenLexemes (.comment text :: ps) := by
  intro before comment after eq
  cases before with
  | nil =>
    obtain ⟨-, rfl⟩ := List.cons.inj eq
    exact .start _
  | cons p before =>
    obtain ⟨rfl, rfl⟩ := List.cons.inj eq
    refine (between before comment after rfl).blanks fun b mem => ?_
    rw [beq_iff_eq.1 (List.mem_filter.1 mem).2]
    rfl

/-- A lexeme in front extends all places behind it, whatever pieces it is made of. -/
theorem BetweenLexemes.lexeme {cs taken : List Char} {c : Char} {l : Lexeme}
    (between : BetweenLexemes (pieces cs)) (ps : List Piece)
    (noComment : ∀ text, .comment text ∉ ps) (kept : ps.flatMap Piece.kept = c :: taken)
    (space : isSpace c = false) (found : Lexeme.scan c (taken ++ strip cs) = .ok (l, strip cs)) :
    BetweenLexemes (ps ++ pieces cs) := by
  refine between.append ps noComment fun front back eq between => ?_
  rw [kept]
  rw [strip, ← eq] at found
  exact .lexeme space found between

/-- With spaces for the comments a character that is left stands behind the spaces for those in
front of it. There may be several comments in a row. -/
theorem exists_blanks {e : Char} {cs tail : List Char} (plain : isPlain e)
    (space : isSpace e = false) (left : strip cs = e :: tail) :
    ∃ blanks behind, (∀ b ∈ blanks, isSpace b) ∧ strip (spaced cs) = blanks ++ e :: behind := by
  fun_induction pieces cs with
  | case1 =>
    rw [strip_nil] at left
    contradiction
  | case2 c rest ih =>
    rw [strip_cons] at left
    rw [spaced_cons]
    cases piece : first c rest with
    | mk p behind =>
    rw [piece] at left ih
    cases p with
    | literal text =>
      obtain ⟨_, -, rfl, -⟩ := exists_of_first_literal piece
      obtain ⟨rfl, -⟩ := List.cons.inj left
      contradiction
    | char d =>
      obtain ⟨rfl, -⟩ := List.cons.inj left
      exact ⟨[], strip (spaced behind), by simp, strip_plain plain⟩
    | comment text =>
      -- The comment is in one line, since a line end of it would be left in front of the character.
      have newline : e ≠ '\n' := by
        rintro rfl
        contradiction
      have none := filter_newline_eq_nil left newline
      rw [Piece.kept, none] at left
      obtain ⟨blanks, behind', spaces, eq⟩ := ih left
      refine ⟨' ' :: blanks, behind', List.forall_mem_cons.2 ⟨rfl, spaces⟩, ?_⟩
      rw [Piece.spaced, none, List.cons_append, strip_plain rfl, List.nil_append, eq]
      rfl

/-- A lexeme that is left when the comments are taken out has none in it, or there is a space in it
with spaces for the comments. -/
theorem exists_cut {taken tail cs : List Char}
    (plain : ∀ d ∈ taken, isPlain d ∧ isSpace d = false) (left : strip cs = taken ++ tail) :
    (∃ cs', cs = taken ++ cs' ∧ strip cs' = tail ∧ pieces cs = taken.map .char ++ pieces cs') ∨
      ∃ done e more blanks behind, taken = done ++ e :: more ∧ (∀ b ∈ blanks, isSpace b) ∧
        strip (spaced cs) = done ++ ' ' :: (blanks ++ e :: behind) := by
  -- Character by character, up to the first comment if there is one.
  induction taken generalizing cs with
  | nil => exact .inl ⟨cs, rfl, left, rfl⟩
  | cons e taken ih =>
    obtain ⟨here, others⟩ := List.forall_mem_cons.1 plain
    cases cs with
    | nil =>
      rw [strip_nil] at left
      contradiction
    | cons c rest =>
    rw [strip_cons] at left
    cases piece : first c rest with
    | mk p behind =>
    rw [piece] at left
    cases p with
    | literal text =>
      obtain ⟨_, -, rfl, -⟩ := exists_of_first_literal piece
      obtain ⟨rfl, -⟩ := List.cons.inj left
      exact absurd here.1 (by decide)
    | char d =>
      obtain ⟨rfl, rfl⟩ := eq_of_first_char piece
      obtain ⟨rfl, left'⟩ := List.cons.inj left
      rcases ih others left' with
        ⟨cs', rfl, left'', eq⟩ | ⟨done, e, more, blanks, behind', rfl, spaces, eq⟩
      · -- No comment comes up in the rest of the lexeme either.
        refine .inl ⟨cs', rfl, left'', ?_⟩
        rw [pieces_cons, piece, eq]
        rfl
      · refine .inr ⟨d :: done, e, more, blanks, behind', rfl, spaces, ?_⟩
        rw [Joined.spaced_char piece, strip_plain here.1, eq]
        rfl
    | comment text =>
      -- The comment parts what has been taken of the lexeme from the rest of it.
      have newline : e ≠ '\n' := by
        rintro rfl
        exact absurd here.2 (by decide)
      have none := filter_newline_eq_nil left newline
      rw [Piece.kept, none] at left
      obtain ⟨blanks, behind', spaces, eq⟩ := exists_blanks here.1 here.2 left
      refine .inr ⟨[], e, taken, blanks, behind', rfl, spaces, ?_⟩
      rw [spaced_cons, piece, Piece.spaced, none, List.cons_append, strip_plain rfl,
        List.nil_append, eq]
      rfl

/-! ### Reading with and without spaces -/

/-- A lexeme that starts with a quote is a text, which the reader tells by its first character. -/
theorem exists_scanText_of_scan {cs rest : List Char} {l : Lexeme}
    (h : Lexeme.scan '"' cs = .ok (l, rest)) : ∃ s, Lexeme.scanText [] cs = .ok (s, rest) := by
  have unmarked : Lexeme.punctuation? '"' = none := rfl
  simp only [Lexeme.scan, unmarked, if_true] at h
  split at h
  · rename_i s rest' found
    cases h
    exact ⟨s, found⟩
  · contradiction

/-- What is read as a text goes as far as the literal, so that both agree on what is behind. -/
theorem eq_of_scan_quote {cs text rest behind rest' : List Char} {l : Lexeme}
    (closed : literal? cs = some (text, rest))
    (found : Lexeme.scan '"' (text ++ behind) = .ok (l, rest')) : rest' = behind := by
  obtain ⟨s, found⟩ := exists_scanText_of_scan found
  obtain ⟨text', closed'⟩ := literal?_of_scanText found
  rw [literal?_extent closed behind] at closed'
  cases closed'
  rfl

/-- No lexeme starts with a slash, so that no text is read from there on. -/
theorem not_foldlM_step_slash {cs : List Char} {state final : State} :
    (tokens ('/' :: cs)).foldlM State.step state ≠ .ok final := by
  intro read
  obtain ⟨l, rest, next, found, -, -⟩ := Json.exists_scan_of_foldlM_step rfl read
  contradiction

/-- A number that goes no further without the comments goes no further with spaces for them. -/
theorem stopsAt_strip_spaced {cs : List Char} {state final : State}
    (read : (tokens (strip cs)).foldlM State.step state = .ok final) (stop : StopsAt (strip cs)) :
    StopsAt (strip (spaced cs)) := by
  cases cs with
  | nil =>
    rw [spaced_nil, strip_nil]
    exact Json.Literal.stopsAt_nil
  | cons c rest =>
  rw [strip_cons] at read stop
  rw [spaced_cons]
  cases piece : first c rest with
  | mk p behind =>
  rw [piece] at read stop
  cases p with
  | comment text =>
    rw [Piece.spaced, List.cons_append, strip_plain rfl]
    exact Json.Literal.stopsAt_cons (by decide) (by decide)
  | literal text =>
    obtain ⟨text, -, rfl, closed⟩ := exists_of_first_literal piece
    rw [Piece.spaced, List.cons_append, strip_quoted closed]
    exact Json.Literal.stopsAt_cons (by decide) (by decide)
  | char d =>
    show StopsAt (strip (d :: spaced behind))
    by_cases quote : d = '"'
    · obtain ⟨tail, eq⟩ := exists_strip_quote (spaced behind)
      rw [quote, eq]
      exact Json.Literal.stopsAt_cons (by decide) (by decide)
    by_cases slash : d = '/'
    · subst slash
      exact absurd read not_foldlM_step_slash
    rw [strip_plain (by simp [isPlain, quote, slash])]
    exact stop

/-- Behind a lexeme that is read without the comments and with spaces for them reading goes on in
one state. This is what the induction over the text hands on. -/
theorem exists_foldlM_step_behind {c : Char} {taken cs : List Char} {l : Lexeme}
    {state final final' : State} (space : isSpace c = false)
    (found : Lexeme.scan c (taken ++ strip cs) = .ok (l, strip cs))
    (read : (tokens (c :: (taken ++ strip cs))).foldlM State.step state = .ok final)
    (read' : (tokens (c :: (taken ++ strip (spaced cs)))).foldlM State.step state = .ok final') :
    ∃ next, (tokens (strip cs)).foldlM State.step next = .ok final ∧
      (tokens (strip (spaced cs))).foldlM State.step next = .ok final' := by
  obtain ⟨l', tail, next, found', stepped, after⟩ := Json.exists_scan_of_foldlM_step space read
  rw [found] at found'
  cases found'
  obtain ⟨taken', eq, extent⟩ := Lexeme.scan_extent found
  obtain rfl : taken' = taken := List.append_cancel_right eq
  have stops : Lexeme.startsNumber c → StopsAt (strip (spaced cs)) := by
    intro number
    obtain ⟨v, rfl⟩ := Lexeme.scalar_of_startsNumber number found
    obtain ⟨outer, rfl⟩ := State.step_scalar stepped
    exact stopsAt_strip_spaced after (Json.stopsAt_of_foldlM_step after)
  exact ⟨next, after, Json.foldlM_step_of_scan space (extent _ stops) stepped read'⟩

/-- A comment in front leaves only blanks, in either text: its line ends in the one, these and
spaces in the other. -/
theorem tokens_comment (text cs : List Char) :
    tokens ((Piece.comment text).kept ++ strip cs) = tokens (strip cs) ∧
      tokens (strip ((Piece.comment text).spaced ++ spaced cs)) = tokens (strip (spaced cs)) := by
  have ends : ∀ b ∈ text.filter (· == '\n'), isSpace b := by
    intro b mem
    rw [beq_iff_eq.1 (List.mem_filter.1 mem).2]
    rfl
  have blanks : ∀ b ∈ (Piece.comment text).spaced, isSpace b :=
    List.forall_mem_cons.2 ⟨rfl, ends⟩
  have stays : Stays ((Piece.comment text).spaced ++ spaced cs) (spaced cs) :=
    stays_append fun b mem => isPlain_of_isSpace (blanks b mem)
  rw [stays.strip_append]
  exact ⟨Json.tokens_blanks ends, Json.tokens_blanks blanks⟩

/-- A quote that is not closed cannot be read both without the comments behind it and with spaces
for them. It is the case in which lexemes and pieces are cut at different places. -/
theorem not_foldlM_step_unclosed {cs : List Char} {state final final' : State}
    (unclosed : literal? cs = none)
    (read : (tokens ('"' :: strip cs)).foldlM State.step state = .ok final) :
    (tokens (strip ('"' :: spaced cs))).foldlM State.step state ≠ .ok final' := by
  intro read'
  obtain ⟨l, tail, _, found, -, -⟩ := Json.exists_scan_of_foldlM_step rfl read
  obtain ⟨s, found⟩ := exists_scanText_of_scan found
  obtain ⟨tail', eq, none⟩ := not_scanText_spaced unclosed found
  rw [eq] at read'
  obtain ⟨_, _, _, found', -, -⟩ := Json.exists_scan_of_foldlM_step rfl read'
  obtain ⟨s', found'⟩ := exists_scanText_of_scan found'
  exact none _ found'

/-- Characters that are pieces of their own make up their text, so that the pieces lose nothing of
it. -/
theorem flatMap_char {f : Piece → List Char} (single : ∀ c, f (.char c) = [c]) (cs : List Char) :
    (cs.map Piece.char).flatMap f = cs := by
  rw [List.flatMap_map, funext single]
  exact List.flatMap_singleton' cs

/-- A lexeme that is no text and can be read both without the comments and with spaces for them has
no comment in it, and both texts go on behind it alike. -/
theorem exists_lexeme {c : Char} {cs : List Char} {state final final' : State}
    (space : isSpace c = false) (quote : c ≠ '"') (slash : c ≠ '/')
    (read : (tokens (c :: strip cs)).foldlM State.step state = .ok final)
    (read' : (tokens (strip (c :: spaced cs))).foldlM State.step state = .ok final') :
    ∃ taken cs' l, cs = taken ++ cs' ∧ pieces cs = taken.map .char ++ pieces cs' ∧
      Lexeme.scan c (taken ++ strip cs') = .ok (l, strip cs') ∧
      strip cs = taken ++ strip cs' ∧
      strip (c :: spaced cs) = c :: (taken ++ strip (spaced cs')) := by
  rw [strip_plain (by simp [isPlain, quote, slash])] at read' ⊢
  obtain ⟨l, tail, _, found, -, -⟩ := Json.exists_scan_of_foldlM_step space read
  obtain ⟨taken, eq, -⟩ := Lexeme.scan_extent found
  rw [← eq] at found
  have plain : ∀ e ∈ taken, isPlain e ∧ isSpace e = false := fun e mem =>
    Lexeme.isPlain_of_scan quote found mem
  rcases exists_cut plain eq.symm with
    ⟨cs', rfl, rfl, pieces_eq⟩ | ⟨done, e, more, blanks, behind, rfl, spaces, split⟩
  · have spaced_eq : spaced (taken ++ cs') = taken ++ spaced cs' := by
      rw [spaced, pieces_eq, List.flatMap_append, spaced, flatMap_char fun _ => rfl]
    have stays : Stays (taken ++ spaced cs') (spaced cs') :=
      stays_append fun e mem => (plain e mem).1
    refine ⟨taken, cs', l, rfl, pieces_eq, found, eq.symm, ?_⟩
    rw [spaced_eq, stays.strip_append]
  · -- Else the reader would find the space in the lexeme.
    rw [split] at read'
    refine absurd read' (Json.not_foldlM_step_of_split space quote found ?_ spaces)
    exact (plain e (by simp)).2

/-- If a text can be read both without its comments and with spaces for them, all of them stand
between lexemes. The two readings need not give the same value for this. -/
theorem betweenLexemes_of_foldlM_step {cs : List Char} {state final final' : State}
    (read : (tokens (strip cs)).foldlM State.step state = .ok final)
    (read' : (tokens (strip (spaced cs))).foldlM State.step state = .ok final') :
    BetweenLexemes (pieces cs) := by
  -- By the length of the text, from each lexeme to the text behind it, which both readers reach in
  -- the same state.
  induction h : cs.length using Nat.strongRecOn generalizing cs state with
  | ind n ih =>
  subst h
  cases cs with
  | nil =>
    rw [pieces]
    intro before comment after eq
    simp at eq
  | cons c rest =>
  have shorter := first_length c rest
  rw [pieces_cons]
  rw [strip_cons] at read
  rw [spaced_cons] at read'
  cases piece : first c rest with
  | mk p behind =>
  rw [piece] at read read' shorter
  cases p with
  | comment text =>
    rw [(tokens_comment text behind).1] at read
    rw [(tokens_comment text behind).2] at read'
    exact (ih _ shorter read read' rfl).comment text
  | literal text =>
    obtain ⟨text, rfl, rfl, closed⟩ := exists_of_first_literal piece
    rw [Piece.kept, List.cons_append] at read
    rw [Piece.spaced, List.cons_append, strip_quoted closed] at read'
    obtain ⟨l, tail, _, found, -, -⟩ := Json.exists_scan_of_foldlM_step rfl read
    obtain rfl := eq_of_scan_quote closed found
    obtain ⟨next, after, after'⟩ := exists_foldlM_step_behind rfl found read read'
    have between := ih _ shorter after after' rfl
    exact between.lexeme [.literal ('"' :: text)] (by simp) (List.append_nil _) rfl found
  | char d =>
    obtain ⟨rfl, rfl⟩ := eq_of_first_char piece
    replace read : (tokens (d :: strip behind)).foldlM State.step state = .ok final := read
    replace read' :
        (tokens (strip (d :: spaced behind))).foldlM State.step state = .ok final' := read'
    by_cases space : isSpace d
    · rw [Json.tokens_space space] at read
      rw [strip_plain (isPlain_of_isSpace space), Json.tokens_space space] at read'
      exact (ih _ shorter read read' rfl).append [.char d] (by simp)
        fun front back _ between => .space space between
    replace space : isSpace d = false := Bool.eq_false_iff.2 space
    -- A quote that is a character has no end as long as the comments are there.
    by_cases quote : d = '"'
    · subst quote
      have unclosed : literal? behind = none := by
        cases closed : literal? behind with
        | none => rfl
        | some r => simp [first, closed] at piece
      exact absurd read' (not_foldlM_step_unclosed unclosed read)
    by_cases slash : d = '/'
    · subst slash
      exact absurd read not_foldlM_step_slash
    obtain ⟨taken, cs, l, rfl, pieces_eq, found, left, left'⟩ :=
      exists_lexeme space quote slash read read'
    rw [left] at read
    rw [left'] at read'
    obtain ⟨next, after, after'⟩ := exists_foldlM_step_behind space found read read'
    have between := ih cs.length (by simp only [List.length_cons, List.length_append]; omega)
      after after' rfl
    rw [pieces_eq, ← List.cons_append]
    refine between.lexeme (.char d :: taken.map .char) (by simp) ?_ space found
    rw [← List.map_cons, flatMap_char fun _ => rfl]

end Comment

namespace Document

open Comment (spaced strip pieces BetweenLexemes)

/-- Spaces can stand for the comments of a catalog if and only if all comments stand between lexemes
of the text without them, and then the catalog is the same. -/
theorem readCatalog_spaced_iff {text : String} {c c' : Catalog}
    (accepted : readCatalog text = .ok c) :
    readCatalog (String.ofList (spaced text.toList)) = .ok c' ↔
      BetweenLexemes (pieces text.toList) ∧ c' = c := by
  constructor
  · intro accepted'
    obtain ⟨v, read, _⟩ := readCatalog_eq_ok_iff.1 accepted
    obtain ⟨v', read', _⟩ := readCatalog_eq_ok_iff.1 accepted'
    rw [Json.read_eq_ok_iff] at read read'
    rw [String.toList_ofList] at read'
    have between := Comment.betweenLexemes_of_foldlM_step read read'
    rw [readCatalog_spaced accepted between] at accepted'
    cases accepted'
    exact ⟨between, rfl⟩
  · rintro ⟨between, rfl⟩
    exact readCatalog_spaced accepted between

/-- A document with a comment behind a number, and comments in front of everything and behind it. -/
def sampleApart : String :=
  "/* */\x7b\"push\":\x7b\"payloads\":[\x7b\"payload\":1/**/\x7d]\x7d\x7d//"

/-- A document with a comment inside a number, whose halves make one number when the comment is
gone. -/
def sampleJoined : String := "\x7b\"push\":\x7b\"payloads\":[\x7b\"payload\":1/**/2\x7d]\x7d\x7d"

/-- An outcome that is known to be good has a value; in the samples this value is too large to be
written out. -/
theorem exists_of_isOk {ε α : Type} {x : Except ε α} (h : x.isOk) : ∃ a, x = .ok a := by
  cases x with
  | error _ => contradiction
  | ok a => exact ⟨a, rfl⟩

/-- The comments of the first document stand between lexemes, that of the second one does not. -/
theorem readCatalog_spaced_iff_samples : BetweenLexemes (pieces sampleApart.toList) ∧
    ¬BetweenLexemes (pieces sampleJoined.toList) := by
  have apart : (readCatalog sampleApart).isOk := by decide +kernel
  have apart' : (readCatalog (String.ofList (spaced sampleApart.toList))).isOk := by decide +kernel
  have joined : (readCatalog sampleJoined).isOk := by decide +kernel
  have joined' : ¬(readCatalog (String.ofList (spaced sampleJoined.toList))).isOk := by
    decide +kernel
  obtain ⟨c, accepted⟩ := exists_of_isOk apart
  obtain ⟨c', accepted'⟩ := exists_of_isOk apart'
  refine ⟨((readCatalog_spaced_iff accepted).1 accepted').1, fun between => joined' ?_⟩
  obtain ⟨c, accepted⟩ := exists_of_isOk joined
  rw [(readCatalog_spaced_iff accepted).2 ⟨between, rfl⟩]
  rfl

/-- The sides of a comment inside a number are joined to one number; a space would part them. -/
theorem readCatalog_joins : (∃ c, readCatalog sampleJoined = .ok c ∧
      readCatalog "\x7b\"push\":\x7b\"payloads\":[\x7b\"payload\":12\x7d]\x7d\x7d" = .ok c) ∧
    ∀ c, readCatalog (String.ofList (spaced sampleJoined.toList)) ≠ .ok c := by
  have joined : (readCatalog sampleJoined).isOk := by decide +kernel
  have parted : ¬(readCatalog (String.ofList (spaced sampleJoined.toList))).isOk := by
    decide +kernel
  have stripped : strip sampleJoined.toList =
      strip "\x7b\"push\":\x7b\"payloads\":[\x7b\"payload\":12\x7d]\x7d\x7d".toList := by
    decide +kernel
  constructor
  · obtain ⟨c, accepted⟩ := exists_of_isOk joined
    refine ⟨c, accepted, ?_⟩
    rw [← accepted, readCatalog, readCatalog, stripped]
  · intro c accepted
    rw [accepted] at parted
    exact parted rfl

end Document

end TemplateCoverage
