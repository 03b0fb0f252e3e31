import TemplateCoverage.Proofs.Document.Spacing
import TemplateCoverage.Proofs.Json.Lines

/-!
# `TemplateCoverage.Proofs.Comment.Quotes`: comments behind a quote that is not closed

A quote whose literal does not end counts as a character, and comments behind it are taken out. What
is left may be closed all the same: this takes a comment directly behind a backslash, which then
escapes the character behind the comment instead of the comment's slash. With a space for the
comment the backslash would escape the space, which JSON does not allow. The theorems:

* `exists_joined`: a quote that is closed only without the comments has one behind a backslash;
* `not_scanText_spaced`: with spaces for the comments it starts no text.
-/

set_option autoImplicit false

namespace TemplateCoverage.Comment

open Json (Lexeme)

/-! ### Pieces -/

/-- A piece that is a character is the first character, and all the rest stands behind it. -/
theorem eq_of_first_char {c d : Char} {rest behind : List Char}
    (h : first c rest = (.char d, behind)) : d = c ∧ behind = rest := by
  have whole := first_append c rest
  rw [h] at whole
  exact List.cons.inj whole

/-- A piece that is a literal is closed, and starts with a quote. -/
theorem exists_of_first_literal {c : Char} {rest behind piece : List Char}
    (h : first c rest = (.literal piece, behind)) :
    ∃ text, c = '"' ∧ piece = '"' :: text ∧ literal? rest = some (text, behind) := by
  unfold first at h
  split at h
  · split at h
    · rename_i text behind' closed
      cases h
      exact ⟨text, rfl, rfl, closed⟩
    · cases h
  · cases h
  · split at h <;> cases h
  · cases h

/-- A piece that is a comment is the rest of a line or a block. The line end does not belong to the
comment, the end mark of a block does. -/
theorem exists_of_first_comment {c : Char} {rest behind piece : List Char}
    (h : first c rest = (.comment piece, behind)) :
    c = '/' ∧ ((∃ line, rest = '/' :: line ∧ piece = '/' :: '/' :: line.takeWhile (· != '\n') ∧
        behind = line.dropWhile (· != '\n')) ∨
      ∃ block text, rest = '*' :: block ∧ piece = '/' :: '*' :: text ∧
        block? block = some (text, behind)) := by
  unfold first at h
  split at h
  · split at h <;> cases h
  · rename_i line
    cases h
    exact ⟨rfl, .inl ⟨line, rfl, rfl, rfl⟩⟩
  · rename_i block
    split at h
    · rename_i text behind' closed
      cases h
      exact ⟨rfl, .inr ⟨block, text, rfl, rfl, closed⟩⟩
    · cases h
  · cases h

/-- The pieces of a text are its first piece and those of what is behind it. -/
theorem pieces_cons (c : Char) (rest : List Char) :
    pieces (c :: rest) = (first c rest).1 :: pieces (first c rest).2 := by
  rw [pieces]

/-- Nothing has no spaces in it, where the induction along the pieces ends. -/
theorem spaced_nil : spaced [] = [] := by
  rw [spaced, pieces, List.flatMap_nil]

/-- With spaces for the comments a text starts with what becomes of its first piece. -/
theorem spaced_cons (c : Char) (rest : List Char) :
    spaced (c :: rest) = (first c rest).1.spaced ++ spaced (first c rest).2 := by
  rw [spaced, pieces, List.flatMap_cons, spaced]

/-! ### Literals and blocks -/

/-- Behind what stands inside a literal the literal is closed if it is, and at the same quote. -/
theorem Inside.exists_of_literal? {taken tail text rest : List Char} (inside : Inside taken)
    (closed : literal? (taken ++ tail) = some (text, rest)) :
    ∃ text', literal? tail = some (text', rest) ∧ text = taken ++ text' := by
  rw [inside] at closed
  obtain ⟨⟨text', rest'⟩, behind, eq⟩ := Option.map_eq_some_iff.1 closed
  cases eq
  exact ⟨text', behind, rfl⟩

/-- So it is open behind it if and only if it is open as a whole. -/
theorem Inside.literal?_eq_none_iff {taken tail : List Char} (inside : Inside taken) :
    literal? (taken ++ tail) = none ↔ literal? tail = none := by
  rw [inside, Option.map_eq_none_iff]

/-- A literal is closed in front of any text, since nothing behind the quote is looked at. -/
theorem literal?_extent {cs text rest : List Char} (closed : literal? cs = some (text, rest))
    (behind : List Char) : literal? (text ++ behind) = some (text, behind) := by
  fun_induction literal? cs generalizing text with
  | case1 => contradiction
  | case2 =>
    cases closed
    rfl
  | case3 => contradiction
  | case4 c tail newline ih =>
    obtain ⟨⟨text', rest'⟩, closed', eq⟩ := Option.map_eq_some_iff.1 closed
    cases eq
    -- The escape stays in front of the rest of the literal.
    exact (Inside.escape newline (text' ++ behind)).trans (by rw [ih closed']; rfl)
  | case5 => contradiction
  | case6 c tail quote escape backslash ih =>
    obtain ⟨⟨text', rest'⟩, closed', eq⟩ := Option.map_eq_some_iff.1 closed
    cases eq
    have ne : c ≠ '\\' := by
      intro eq
      cases tail with
      | nil => exact backslash eq rfl
      | cons d tail => exact escape d tail eq rfl
    exact (Inside.plain quote ne (text' ++ behind)).trans (by rw [ih closed']; rfl)

/-- A literal stays in front of any text, with its quotes, even if comment marks stand in it. -/
theorem strip_quoted {cs text rest : List Char} (closed : literal? cs = some (text, rest))
    (behind : List Char) : strip ('"' :: (text ++ behind)) = '"' :: (text ++ strip behind) := by
  rw [strip_cons]
  simp only [first, literal?_extent closed behind]
  rfl

/-- A quote stays, be it that of a literal or a character like any other. -/
theorem exists_strip_quote (rest : List Char) : ∃ tail, strip ('"' :: rest) = '"' :: tail := by
  rw [strip_cons]
  cases closed : literal? rest with
  | none => exact ⟨strip rest, by simp only [first, closed]; rfl⟩
  | some r => exact ⟨r.1 ++ strip r.2, by simp only [first, closed]; rfl⟩

/-- A block is closed if one that starts inside it is: it ends there at the latest. -/
theorem isSome_block?_append (before : List Char) {cs : List Char} (closed : (block? cs).isSome) :
    (block? (before ++ cs)).isSome := by
  induction before with
  | nil => exact closed
  | cons c before ih =>
    rw [List.cons_append]
    unfold block?
    split
    · contradiction
    · rfl
    · rename_i eq
      cases eq
      rwa [Option.isSome_map]

/-- A block ends here or goes on behind its first character; this is the reader's rule, read
backwards. -/
theorem block?_cons_eq_some {c : Char} {cs text rest : List Char}
    (closed : block? (c :: cs) = some (text, rest)) :
    c = '*' ∧ cs = '/' :: rest ∨ ∃ text', block? cs = some (text', rest) ∧ text = c :: text' := by
  unfold block? at closed
  split at closed
  · contradiction
  · rename_i eq
    cases eq
    cases closed
    exact .inl ⟨rfl, rfl⟩
  · rename_i eq
    cases eq
    obtain ⟨⟨text', rest'⟩, behind, eq⟩ := Option.map_eq_some_iff.1 closed
    cases eq
    exact .inr ⟨text', behind, rfl⟩

/-- A literal that is not closed in front of a block in one line is not closed behind it. The
block's own characters are inside the literal, whatever they are, but for the one that a backslash
in front of it may escape. -/
theorem literal?_behind_block {cs text rest : List Char} (closed : block? cs = some (text, rest))
    (oneLine : '\n' ∉ text) (unclosed : literal? cs = none) : literal? rest = none := by
  have slash : Inside ['/'] := .plain (by decide) (by decide)
  -- Along the literal; a block may end with the character that a backslash escapes.
  fun_induction literal? cs generalizing text with
  | case1 => contradiction
  | case2 => contradiction
  | case3 tail =>
    rcases block?_cons_eq_some closed with ⟨star, _⟩ | ⟨text', closed', rfl⟩
    · contradiction
    · rcases block?_cons_eq_some closed' with ⟨star, _⟩ | ⟨text'', _, rfl⟩
      · contradiction
      · simp at oneLine
  | case4 c tail ne ih =>
    rw [Option.map_eq_none_iff] at unclosed
    rcases block?_cons_eq_some closed with ⟨star, _⟩ | ⟨text', closed', rfl⟩
    · contradiction
    · rcases block?_cons_eq_some closed' with ⟨rfl, rfl⟩ | ⟨text'', closed'', rfl⟩
      · -- The escaped star was the one of the end mark, whose slash is inside the literal.
        exact slash.literal?_eq_none_iff.1 unclosed
      · exact ih closed'' (fun mem => oneLine (by simp [mem])) unclosed
  | case5 =>
    rcases block?_cons_eq_some closed with ⟨star, _⟩ | ⟨text', closed', _⟩ <;> contradiction
  | case6 c tail _ _ _ ih =>
    rw [Option.map_eq_none_iff] at unclosed
    rcases block?_cons_eq_some closed with ⟨rfl, rfl⟩ | ⟨text', closed', rfl⟩
    · exact slash.literal?_eq_none_iff.1 unclosed
    · exact ih closed' (fun mem => oneLine (List.mem_cons_of_mem c mem)) unclosed

/-! ### A comment behind a backslash -/

/-- With spaces for the comments there is a space behind a backslash of the literal that starts in
front of a text. What is in front of it and behind it is kept apart, since only the part in front is
made of whole units. -/
structure Joined (cs front back : List Char) : Prop where
  spaced_eq : spaced cs = front ++ '\\' :: ' ' :: back
  units : Units (· ≠ '\n') front
  /-- The space stands for a block. -/
  block : ∃ before behind, cs = before ++ '/' :: '*' :: behind ∧ (block? behind).isSome
  /-- Nothing in front of it is taken for a comment if the literal is still not closed. -/
  strip_eq : literal? back = none → strip (spaced cs) = front ++ '\\' :: ' ' :: strip back

namespace Joined

variable {c d : Char} {cs front back : List Char}

/-- The space is inside the literal, which is closed if what stands behind the space closes it. -/
theorem literal?_spaced (joined : Joined cs front back) : literal? (spaced cs) =
    (literal? back).map fun r => (front ++ '\\' :: ' ' :: r.1, r.2) := by
  have inside : Inside front := joined.units.inside fun _ => id
  have escape : literal? ('\\' :: ' ' :: back) = (literal? back).map _ :=
    Inside.escape (by decide) back
  rw [joined.spaced_eq, inside, escape, Option.map_map]
  rfl

/-- Behind a slash that is a character no comment mark goes on with the spaces: a comment could only
be started anew by a star, and then there would be one already. -/
theorem head?_spaced (joined : Joined cs front back) (char : first '/' cs = (.char '/', cs)) :
    (spaced cs).head? ≠ some '/' ∧ (spaced cs).head? ≠ some '*' := by
  cases cs with
  | nil => rw [spaced_nil]; simp
  | cons d rest =>
    rw [spaced_cons]
    cases piece : first d rest with
    | mk p behind =>
      cases p with
      | comment text => simp [Piece.spaced]
      -- A literal starts with a quote, which goes on with no slash.
      | literal text =>
        obtain ⟨text, -, rfl, -⟩ := exists_of_first_literal piece
        simp [Piece.spaced]
      | char e =>
        obtain ⟨rfl, rfl⟩ := eq_of_first_char piece
        simp only [Piece.spaced, List.singleton_append, List.head?_cons, ne_eq, Option.some.injEq]
        constructor
        · rintro rfl
          cases char
        · rintro rfl
          -- A block starts behind the star and is closed, and so is the one with the star's mark.
          obtain ⟨before, block, eq, closed⟩ := joined.block
          cases before with
          | nil => cases eq
          | cons _ before =>
            obtain ⟨rfl, rfl⟩ := List.cons.inj eq
            have closed := isSome_block?_append (before ++ ['/', '*']) closed
            obtain ⟨⟨text, rest⟩, some⟩ := Option.isSome_iff_exists.1 closed
            rw [List.append_assoc, List.cons_append, List.singleton_append] at some
            simp [first, some] at char

/-- A character is one with the spaces too, if the literal is still not closed. -/
theorem first_spaced (joined : Joined cs front back) (char : first c cs = (.char c, cs))
    (unclosed : literal? back = none) : first c (spaced cs) = (.char c, spaced cs) := by
  by_cases quote : c = '"'
  · subst quote
    have unclosed' : literal? (spaced cs) = none := by rw [joined.literal?_spaced, unclosed]; rfl
    simp only [first, unclosed']
  by_cases slash : c = '/'
  · subst slash
    obtain ⟨line, block⟩ := joined.head?_spaced char
    unfold first
    split <;> simp_all
  · exact first_plain (by simp [isPlain, quote, slash]) _

/-- A character is one of the text with spaces as well, where no comment is replaced. -/
theorem spaced_char (char : first c cs = (.char c, cs)) : spaced (c :: cs) = c :: spaced cs := by
  rw [spaced_cons, char]
  rfl

/-- A character stands in front of what follows it, also when the spaces are read. -/
theorem strip_spaced_cons (joined : Joined cs front back) (char : first c cs = (.char c, cs))
    (unclosed : literal? back = none) :
    strip (spaced (c :: cs)) = c :: (front ++ '\\' :: ' ' :: strip back) := by
  rw [spaced_char char, strip_cons, joined.first_spaced char unclosed, ← joined.strip_eq unclosed]
  rfl

/-- The block that the space stands for is still there with other characters in front. -/
theorem block_append (joined : Joined cs front back) (taken : List Char) :
    ∃ before behind, taken ++ cs = before ++ '/' :: '*' :: behind ∧ (block? behind).isSome := by
  obtain ⟨before, behind, rfl, closed⟩ := joined.block
  exact ⟨taken ++ before, behind, (List.append_assoc ..).symm, closed⟩

/-- A character in front of the comment leaves the space where it is in the literal. -/
theorem cons (joined : Joined cs front back) (char : first c cs = (.char c, cs)) (quote : c ≠ '"')
    (backslash : c ≠ '\\') : Joined (c :: cs) (c :: front) back where
  spaced_eq := by rw [spaced_char char, joined.spaced_eq]; rfl
  units := .plain quote backslash joined.units
  block := joined.block_append [c]
  strip_eq := joined.strip_spaced_cons char

/-- An escape in front of the comment does so too. Its second character must be taken along, as it
might be a quote otherwise. -/
theorem escape (joined : Joined cs front back) (char : first c cs = (.char c, cs))
    (newline : c ≠ '\n') : Joined ('\\' :: c :: cs) ('\\' :: c :: front) back where
  spaced_eq := by
    rw [spaced_char (first_plain rfl _), spaced_char char, joined.spaced_eq]
    rfl
  units := .escape newline joined.units
  block := joined.block_append ['\\', c]
  strip_eq unclosed := by
    rw [spaced_char (first_plain rfl _), strip_plain rfl, joined.strip_spaced_cons char unclosed]
    rfl

end Joined

/-- For a block in one line there is a space and nothing else. -/
theorem spaced_block {block text behind : List Char} (closed : block? block = some (text, behind))
    (oneLine : '\n' ∉ text) : spaced ('/' :: '*' :: block) = ' ' :: spaced behind := by
  have none : text.filter (· == '\n') = [] := by
    rw [List.filter_eq_nil_iff]
    intro c mem newline
    exact oneLine (beq_iff_eq.1 newline ▸ mem)
  rw [spaced_cons]
  simp [first, closed, Piece.spaced, none]

/-- A block behind a backslash is where the space comes from: the backslash escapes it. -/
theorem joined_of_block {block text behind : List Char}
    (closed : block? block = some (text, behind)) (oneLine : '\n' ∉ text) :
    Joined ('\\' :: '/' :: '*' :: block) [] (spaced behind) where
  spaced_eq := by
    rw [Joined.spaced_char (first_plain rfl _), spaced_block closed oneLine]
    rfl
  units := .nil
  block := ⟨['\\'], block, rfl, by rw [closed]; rfl⟩
  strip_eq _ := by
    rw [Joined.spaced_char (first_plain rfl _), spaced_block closed oneLine, strip_plain rfl,
      strip_plain rfl]
    rfl

/-- A block in front of the comment is a space like any other inside the literal. -/
theorem Joined.behind_block {block text behind front back : List Char}
    (closed : block? block = some (text, behind)) (oneLine : '\n' ∉ text)
    (joined : Joined behind front back) : Joined ('/' :: '*' :: block) (' ' :: front) back where
  spaced_eq := by rw [spaced_block closed oneLine, joined.spaced_eq]; rfl
  units := .plain (by decide) (by decide) joined.units
  block := ⟨[], block, rfl, by rw [closed]; rfl⟩
  strip_eq unclosed := by
    rw [spaced_block closed oneLine, strip_plain rfl, joined.strip_eq unclosed]
    rfl

/-- What does not start with a line end has none in front, so that no line ends are left of the
comment. -/
theorem filter_newline_eq_nil {piece behind tail : List Char} {e : Char}
    (left : piece.filter (· == '\n') ++ behind = e :: tail) (newline : e ≠ '\n') :
    piece.filter (· == '\n') = [] := by
  cases ends : piece.filter (· == '\n') with
  | nil => rfl
  | cons d ends' =>
    have mem : d ∈ piece.filter (· == '\n') := ends ▸ List.mem_cons_self
    rw [ends] at left
    obtain ⟨rfl, -⟩ := List.cons.inj left
    exact absurd (beq_iff_eq.1 (List.mem_filter.1 mem).2) newline

/-- A comment behind which a line goes on is a block in that line, as a line comment goes up to the
end of its line. -/
theorem exists_block_of_comment {c e : Char} {rest behind piece tail : List Char}
    (h : first c rest = (.comment piece, behind))
    (left : piece.filter (· == '\n') ++ strip behind = e :: tail) (newline : e ≠ '\n') :
    ∃ block text, c = '/' ∧ rest = '*' :: block ∧ block? block = some (text, behind) ∧
      '\n' ∉ text ∧ piece.filter (· == '\n') = [] := by
  have oneLine : piece.filter (· == '\n') = [] := filter_newline_eq_nil left newline
  obtain ⟨rfl, ⟨line, rfl, rfl, rfl⟩ | ⟨block, text, rfl, rfl, closed⟩⟩ := exists_of_first_comment h
  · -- Behind the rest of a line there is its end or nothing.
    rw [oneLine, List.nil_append] at left
    cases next : line.dropWhile (· != '\n') with
    | nil =>
      rw [next, strip_nil] at left
      contradiction
    | cons d line' =>
      have ended : ¬(d != '\n') = true := by
        have head := List.head_dropWhile_not (l := line) (· != '\n') (by rw [next]; simp)
        simpa only [next, List.head_cons, Bool.not_eq_true] using head
      obtain rfl : d = '\n' := by simpa using ended
      rw [next, strip_plain rfl] at left
      exact absurd (List.cons.inj left).1.symm newline
  · refine ⟨block, text, rfl, rfl, closed, fun mem => ?_, oneLine⟩
    have kept : '\n' ∈ ('/' :: '*' :: text).filter (· == '\n') := by simp [mem]
    rw [oneLine] at kept
    contradiction

/-- Behind a backslash a comment joins what stands on its two sides. The literal is closed behind
it, so that the backslash does not escape a line end. -/
theorem joined_of_comment {c : Char} {rest behind piece : List Char}
    {literal : List Char × List Char} (h : first c rest = (.comment piece, behind))
    (closed : literal? ('\\' :: (piece.filter (· == '\n') ++ strip behind)) = some literal) :
    Joined ('\\' :: c :: rest) [] (spaced behind) := by
  cases left : piece.filter (· == '\n') ++ strip behind with
  | nil =>
    rw [left] at closed
    contradiction
  | cons d tail =>
    have newline : d ≠ '\n' := by
      rintro rfl
      rw [left, literal?, if_pos rfl] at closed
      contradiction
    obtain ⟨block, inner, rfl, rfl, ended, inLine, -⟩ := exists_block_of_comment h left newline
    exact joined_of_block ended inLine

/-- Elsewhere a literal that is closed without a comment, but not with it, is not closed behind the
comment either. So the search for the backslash goes on behind the comment. -/
theorem exists_block_of_closed {c : Char} {rest behind piece text rest' : List Char}
    (h : first c rest = (.comment piece, behind)) (unclosed : literal? (c :: rest) = none)
    (closed : literal? (piece.filter (· == '\n') ++ strip behind) = some (text, rest'))
    (oneLine : '\n' ∉ text) :
    ∃ block inner, c = '/' ∧ rest = '*' :: block ∧ block? block = some (inner, behind) ∧
      '\n' ∉ inner ∧ literal? behind = none ∧ literal? (strip behind) = some (text, rest') := by
  cases left : piece.filter (· == '\n') ++ strip behind with
  | nil =>
    rw [left] at closed
    contradiction
  | cons d tail =>
    have newline : d ≠ '\n' := by
      rintro rfl
      have mark : Inside ['\n'] := .plain (by decide) (by decide)
      rw [left] at closed
      obtain ⟨_, -, rfl⟩ := mark.exists_of_literal? closed
      exact oneLine List.mem_cons_self
    obtain ⟨block, inner, rfl, rfl, ended, inLine, none⟩ := exists_block_of_comment h left newline
    have marks : Inside ['/', '*'] :=
      (Inside.plain (by decide) (by decide) : Inside ['/']).append (.plain (by decide) (by decide))
    rw [none, List.nil_append] at closed
    exact ⟨block, inner, rfl, rfl, ended, inLine,
      literal?_behind_block ended inLine (marks.literal?_eq_none_iff.1 unclosed), closed⟩

/-- A quote that is closed in its line without the comments, but not with them, has a comment behind
a backslash. This is the one way in which taking comments out can close a quote. -/
theorem exists_joined {cs text rest : List Char} (unclosed : literal? cs = none)
    (closed : literal? (strip cs) = some (text, rest)) (oneLine : '\n' ∉ text) :
    ∃ front back, Joined cs front back := by
  -- By the length of the text, since escapes and blocks are passed over as a whole.
  induction h : cs.length using Nat.strongRecOn generalizing cs text with
  | ind n ih =>
  subst h
  cases cs with
  | nil =>
    rw [strip_nil] at closed
    contradiction
  | cons c cs =>
  by_cases backslash : c = '\\'
  · subst backslash
    rw [strip_plain rfl] at closed
    cases cs with
    | nil =>
      rw [strip_nil] at closed
      contradiction
    | cons d cs =>
    rw [strip_cons] at closed
    cases piece : first d cs with
    | mk p behind =>
    rw [piece] at closed
    cases p with
    | literal _ =>
      obtain ⟨_, rfl, -, closed'⟩ := exists_of_first_literal piece
      have escape : Inside ['\\', '"'] := .escape (by decide)
      rw [escape.literal?_eq_none_iff.1 unclosed] at closed'
      contradiction
    | char e =>
      obtain ⟨rfl, rfl⟩ := eq_of_first_char piece
      have newline : e ≠ '\n' := by
        rintro rfl
        contradiction
      have escape : Inside ['\\', e] := .escape newline
      obtain ⟨text', closed', rfl⟩ := escape.exists_of_literal? closed
      obtain ⟨front, back, joined⟩ := ih behind.length (by simp only [List.length_cons]; omega)
        (escape.literal?_eq_none_iff.1 unclosed) closed'
        (fun mem => oneLine (List.mem_append_right _ mem)) rfl
      exact ⟨_, _, joined.escape piece newline⟩
    | comment _ =>
      -- The only case in which the comment is found; in all others it stands further behind.
      exact ⟨_, _, joined_of_comment piece closed⟩
  · have quote : c ≠ '"' := by
      rintro rfl
      contradiction
    rw [strip_cons] at closed
    cases piece : first c cs with
    | mk p behind =>
    rw [piece] at closed
    cases p with
    | literal _ =>
      obtain ⟨_, rfl, -⟩ := exists_of_first_literal piece
      contradiction
    | char d =>
      obtain ⟨rfl, rfl⟩ := eq_of_first_char piece
      have plain : Inside [d] := .plain quote backslash
      obtain ⟨text', closed', rfl⟩ := plain.exists_of_literal? closed
      obtain ⟨front, back, joined⟩ := ih behind.length (by simp)
        (plain.literal?_eq_none_iff.1 unclosed) closed'
        (fun mem => oneLine (List.mem_append_right _ mem)) rfl
      exact ⟨_, _, joined.cons piece quote backslash⟩
    | comment _ =>
      obtain ⟨block, inner, rfl, rfl, ended, inLine, unclosed', closed'⟩ :=
        exists_block_of_closed piece unclosed closed oneLine
      have shorter : behind.length < ('/' :: '*' :: block).length := by
        have shorter := first_length '/' ('*' :: block)
        rwa [piece] at shorter
      obtain ⟨front, back, joined⟩ := ih _ shorter unclosed' closed' oneLine rfl
      exact ⟨_, _, joined.behind_block ended inLine⟩

/-- What a text escapes at some place is of the kind that it escapes everywhere. Two cuts of one
text into units agree as far as both go. -/
theorem Units.of_append_eq {P Q : Char → Prop} {front back taken rest : List Char} {c : Char}
    (front_units : Units P front) (units : Units Q taken)
    (eq : front ++ '\\' :: c :: back = taken ++ '"' :: rest) : Q c := by
  -- Both cuts take the same units as long as there are some on both sides.
  induction front_units generalizing taken with
  | nil =>
    cases units with
    | nil => cases eq
    | plain quote backslash units => exact absurd (List.cons.inj eq).1.symm backslash
    | escape escaped units =>
      cases eq
      exact escaped
  | plain quote backslash rest ih =>
    cases units with
    | nil => exact absurd (List.cons.inj eq).1 quote
    | plain quote' backslash' units => exact ih units (List.cons.inj eq).2
    | escape escaped units => exact absurd (List.cons.inj eq).1 backslash
  | escape escaped rest ih =>
    cases units with
    | nil => cases eq
    | plain quote backslash units => exact absurd (List.cons.inj eq).1.symm backslash
    | escape escaped' units =>
      exact ih units (List.cons.inj (List.cons.inj eq).2).2

/-- A quote that is not closed with the comments, but starts a text without them, starts none with
spaces for them: JSON escapes no space. -/
theorem not_scanText_spaced {cs rest : List Char} {s : String} (unclosed : literal? cs = none)
    (h : Lexeme.scanText [] (strip cs) = .ok (s, rest)) :
    ∃ tail, strip ('"' :: spaced cs) = '"' :: tail ∧
      ∀ r, Lexeme.scanText [] tail ≠ .ok r := by
  obtain ⟨text, closed⟩ := literal?_of_scanText h
  -- A text has no line end in it, so that the comments taken out of it are blocks.
  have oneLine : '\n' ∉ text := by
    have same := (Lexeme.countsLines_scanText [] (strip cs)).count_eq h
    rw [← literal?_append closed, List.count_append] at same
    exact List.count_eq_zero.1 (by omega)
  obtain ⟨front, back, joined⟩ := exists_joined unclosed closed oneLine
  -- With the spaces the literal may be closed further behind or not at all; the space is in it.
  have left : ∃ back', strip ('"' :: spaced cs) = '"' :: (front ++ '\\' :: ' ' :: back') := by
    have closed' := joined.literal?_spaced
    rw [strip_cons]
    cases behind : literal? back with
    | none =>
      rw [behind, Option.map_none] at closed'
      refine ⟨strip back, ?_⟩
      simp only [first, closed', ← joined.strip_eq behind]
      rfl
    | some r =>
      rw [behind, Option.map_some] at closed'
      refine ⟨r.1 ++ strip r.2, ?_⟩
      simp only [first, closed', Piece.kept, List.cons_append, List.append_assoc]
  obtain ⟨back', eq⟩ := left
  refine ⟨_, eq, fun r text => ?_⟩
  obtain ⟨taken, whole, units⟩ := units_scanText text
  exact absurd (joined.units.of_append_eq units whole.symm) (by decide)

end TemplateCoverage.Comment
