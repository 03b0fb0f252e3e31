/-!
# `TemplateCoverage.Comment`: comments in JSON documents

A document is cut from left to right into quoted literals, comments and single characters; comment
marks inside a literal belong to the literal. Stripping leaves of each comment only its line ends,
so what follows stays on its line. A literal may span lines, but a backslash in it needs a character
of the same line after it; a quote or comment mark whose end is missing counts as a character.
Main statements:

* `flatMap_text_pieces`: the pieces of a document are the whole document;
* `strip_eq_flatMap`: the stripped document is what the pieces leave, in order.
-/

set_option autoImplicit false

namespace TemplateCoverage.Comment

/-- A part of a document with comments. -/
inductive Piece where
  | literal (text : List Char)
  | comment (text : List Char)
  | char (c : Char)
  deriving DecidableEq

namespace Piece

/-- The characters of a piece. -/
def text : Piece → List Char
  | .literal text => text
  | .comment text => text
  | .char c => [c]

/-- What a piece leaves in the stripped document: of a comment its line ends. -/
def kept : Piece → List Char
  | .literal text => text
  | .comment text => text.filter (· == '\n')
  | .char c => [c]

end Piece

/-- A literal up to its closing quote and the text after it, read after the opening quote. -/
def literal? : List Char → Option (List Char × List Char)
  | [] => none
  | '"' :: rest => some (['"'], rest)
  | '\\' :: c :: rest =>
    if c = '\n' then none else (literal? rest).map fun r => ('\\' :: c :: r.1, r.2)
  | '\\' :: [] => none
  | c :: rest => (literal? rest).map fun r => (c :: r.1, r.2)

/-- A block comment up to its end mark and the text after it, read after the opening mark. -/
def block? : List Char → Option (List Char × List Char)
  | [] => none
  | '*' :: '/' :: rest => some (['*', '/'], rest)
  | c :: rest => (block? rest).map fun r => (c :: r.1, r.2)

/-- The first piece of a text that starts with a character, and the text after it. -/
def first (c : Char) (rest : List Char) : Piece × List Char :=
  match c, rest with
  | '"', rest =>
    match literal? rest with
    | some (text, rest') => (.literal ('"' :: text), rest')
    -- Without a closing quote the opening one is a character like any other.
    | none => (.char '"', rest)
  | '/', '/' :: rest =>
    (.comment ('/' :: '/' :: rest.takeWhile (· != '\n')), rest.dropWhile (· != '\n'))
  | '/', '*' :: rest =>
    match block? rest with
    | some (text, rest') => (.comment ('/' :: '*' :: text), rest')
    -- Only the slash is a piece: a comment may still start behind the star.
    | none => (.char '/', '*' :: rest)
  | c, rest => (.char c, rest)

theorem literal?_append {cs text rest : List Char} (h : literal? cs = some (text, rest)) :
    text ++ rest = cs := by
  fun_induction literal? cs generalizing text rest with
  | case1 => simp at h
  | case2 =>
    simp only [Option.some.injEq, Prod.mk.injEq] at h
    simp [← h.1, ← h.2]
  | case3 => simp at h
  | case4 c tail ne ih =>
    obtain ⟨r, hr, eq⟩ := Option.map_eq_some_iff.1 h
    simp only [Prod.mk.injEq] at eq
    simp [← eq.1, ← eq.2, ih hr]
  | case5 => simp at h
  | case6 c tail _ _ _ ih =>
    obtain ⟨r, hr, eq⟩ := Option.map_eq_some_iff.1 h
    simp only [Prod.mk.injEq] at eq
    simp [← eq.1, ← eq.2, ih hr]

theorem block?_append {cs text rest : List Char} (h : block? cs = some (text, rest)) :
    text ++ rest = cs := by
  fun_induction block? cs generalizing text rest with
  | case1 => simp at h
  | case2 =>
    simp only [Option.some.injEq, Prod.mk.injEq] at h
    simp [← h.1, ← h.2]
  | case3 c tail _ ih =>
    obtain ⟨r, hr, eq⟩ := Option.map_eq_some_iff.1 h
    simp only [Prod.mk.injEq] at eq
    simp [← eq.1, ← eq.2, ih hr]

/-- The first piece and the text after it are the whole text. -/
theorem first_append (c : Char) (rest : List Char) :
    (first c rest).1.text ++ (first c rest).2 = c :: rest := by
  unfold first
  split
  · split
    · rename_i found
      simp [Piece.text, literal?_append found]
    · rfl
  · simp [Piece.text]
  · split
    · rename_i found
      simp [Piece.text, block?_append found]
    · rfl
  · rfl

theorem text_first_ne_nil (c : Char) (rest : List Char) : (first c rest).1.text ≠ [] := by
  unfold first
  repeat' split
  all_goals simp [Piece.text]

theorem first_length (c : Char) (rest : List Char) :
    (first c rest).2.length < (c :: rest).length := by
  have whole := congrArg List.length (first_append c rest)
  have some := List.length_pos_iff.2 (text_first_ne_nil c rest)
  simp only [List.length_append] at whole
  omega

/-- The pieces of a text from left to right. -/
def pieces (cs : List Char) : List Piece :=
  match cs with
  | [] => []
  | c :: rest => (first c rest).1 :: pieces (first c rest).2
termination_by cs.length
decreasing_by exact first_length c rest

/-- The text without its comments. -/
def strip (cs : List Char) : List Char := (pieces cs).flatMap Piece.kept

/-- The pieces of a document are the whole document. -/
theorem flatMap_text_pieces (cs : List Char) : (pieces cs).flatMap Piece.text = cs := by
  fun_induction pieces cs with
  | case1 => rfl
  | case2 c rest ih => rw [List.flatMap_cons, ih, first_append]

/-- The stripped document is what the pieces leave, in order. -/
theorem strip_eq_flatMap (cs : List Char) : strip cs = (pieces cs).flatMap Piece.kept := rfl

end TemplateCoverage.Comment
