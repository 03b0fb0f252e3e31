import TemplateCoverage.Proofs.Document.Comments

/-!
# `TemplateCoverage.Proofs.Document.Spacing`: comments as white space

Stripping leaves nothing of a comment but its line ends, so that what stands on its two sides is
joined if they are on one line. A reader that takes comments for white space sees the text in which
a space stands for each comment as well. Between two lexemes this is the same. The theorems:

* `Between.exists_tokens`: what stands behind a place between two lexemes can be exchanged;
* `tokens_spaced`: spaces between lexemes make no difference;
* `readCatalog_spaced`: if all comments stand between lexemes, a text gives the same catalog with
  spaces for its comments.
-/

set_option autoImplicit false

namespace TemplateCoverage

open Json (Lexeme State Value)

namespace Comment

/-- What a piece becomes with a space for each comment: of a comment its line ends are left too. -/
def Piece.spaced : Piece → List Char
  | .literal text => text
  | .comment text => ' ' :: text.filter (· == '\n')
  | .char c => [c]

/-- The text with a space for each comment, as a reader that takes comments for white space sees it.
-/
def spaced (cs : List Char) : List Char := (pieces cs).flatMap Piece.spaced

end Comment

namespace Json

open Literal (StopsAt)

/-- In front of the text `back` the reader stands between two lexemes once it has read `front`. The
lexemes of `front` are read with `back` behind them, as a number may go on there. -/
inductive Between : List Char → List Char → Prop where
  | start (back : List Char) : Between [] back
  | space {c : Char} {front back : List Char} (space : isSpace c) (rest : Between front back) :
    Between (c :: front) back
  | lexeme {c : Char} {taken front back : List Char} {l : Lexeme} (space : isSpace c = false)
    (found : Lexeme.scan c (taken ++ (front ++ back)) = .ok (l, front ++ back))
    (rest : Between front back) : Between (c :: (taken ++ front)) back

/-- What stands behind a place between two lexemes can be exchanged, if no number can go on with it
that could not go on before. -/
theorem Between.exists_tokens {front back : List Char} {state final : State}
    (between : Between front back)
    (read : (tokens (front ++ back)).foldlM State.step state = .ok final) :
    ∃ ls, ∀ back', (StopsAt back → StopsAt back') →
      tokens (front ++ back') = ls ++ tokens back' := by
  induction between generalizing state with
  | start => exact ⟨[], fun back' _ => rfl⟩
  | space space rest ih =>
    rw [List.cons_append, tokens_space space] at read
    obtain ⟨ls, same⟩ := ih read
    exact ⟨ls, fun back' stop => by rw [List.cons_append, tokens_space space, same back' stop]⟩
  | @lexeme c taken front back l space found rest ih =>
    rw [List.cons_append, List.append_assoc] at read
    obtain ⟨l', tail, next, found', stepped, after⟩ := exists_scan_of_foldlM_step space read
    rw [found] at found'
    cases found'
    obtain ⟨ls, same⟩ := ih after
    refine ⟨l :: ls, fun back' stop => ?_⟩
    obtain ⟨taken', eq, extent⟩ := Lexeme.scan_extent found
    obtain rfl : taken' = taken := List.append_cancel_right eq
    have stops : Lexeme.startsNumber c → StopsAt (front ++ back') := by
      intro number
      obtain ⟨v, rfl⟩ := Lexeme.scalar_of_startsNumber number found
      obtain ⟨outer, rfl⟩ := State.step_scalar stepped
      have stopped := stopsAt_of_foldlM_step after
      -- Only behind the last lexeme of `front` does the number meet what is exchanged.
      cases front with
      | nil => exact stop stopped
      | cons d front => exact stopped
    rw [List.cons_append, List.append_assoc, tokens_scan space (extent _ stops), same back' stop]
    rfl

end Json

namespace Comment

open Json (tokens)
open Json.Literal (StopsAt)

/-- All comments of a text stand between the lexemes of the text without them. -/
def BetweenLexemes (ps : List Piece) : Prop :=
  ∀ before comment after, ps = before ++ .comment comment :: after →
    Json.Between (before.flatMap Piece.kept) ((Piece.comment comment :: after).flatMap Piece.kept)

/-- A number goes no further with spaces than without, since a space ends it as well. -/
theorem stopsAt_spaced {ps : List Piece} (stop : StopsAt (ps.flatMap Piece.kept)) :
    StopsAt (ps.flatMap Piece.spaced) := by
  induction ps with
  | nil => exact stop
  | cons p ps ih =>
    cases p with
    | comment text => exact Json.Literal.stopsAt_cons (by decide) (by decide)
    | char c => exact stop
    | literal text =>
      cases text with
      | nil => exact ih stop
      | cons c text => exact stop

/-- Spaces for comments between lexemes make no difference to a text that can be read. -/
theorem tokens_spaced (front : List Char) {ps : List Piece} {state final : State}
    (between : ∀ before comment after, ps = before ++ .comment comment :: after →
      Json.Between (front ++ before.flatMap Piece.kept)
        ((Piece.comment comment :: after).flatMap Piece.kept))
    (read : (tokens (front ++ ps.flatMap Piece.kept)).foldlM State.step state = .ok final) :
    tokens (front ++ ps.flatMap Piece.spaced) = tokens (front ++ ps.flatMap Piece.kept) := by
  -- Along the pieces; `front` is what is left of those that have been passed.
  induction ps generalizing front with
  | nil => rfl
  | cons p ps ih =>
    rw [List.flatMap_cons, ← List.append_assoc] at read
    have others : tokens (front ++ p.kept ++ ps.flatMap Piece.spaced) =
        tokens (front ++ p.kept ++ ps.flatMap Piece.kept) := by
      refine ih (front ++ p.kept) (fun before comment after eq => ?_) read
      have later := between (p :: before) comment after (congrArg (p :: ·) eq)
      rwa [List.flatMap_cons, ← List.append_assoc] at later
    rw [List.flatMap_cons, List.flatMap_cons, ← List.append_assoc, ← List.append_assoc, ← others]
    cases p with
    | literal text => rfl
    | char c => rfl
    | comment text =>
      -- Behind the lexemes in front the others can stand with the space as well as without it.
      have here := between [] text ps rfl
      rw [List.flatMap_nil, List.append_nil] at here
      rw [List.append_assoc] at read ⊢
      obtain ⟨ls, same⟩ := here.exists_tokens read
      have open' : StopsAt (' ' :: ((Piece.comment text).kept ++ ps.flatMap Piece.spaced)) :=
        Json.Literal.stopsAt_cons (by decide) (by decide)
      have closed : StopsAt ((Piece.comment text).kept ++ ps.flatMap Piece.kept) →
          StopsAt ((Piece.comment text).kept ++ ps.flatMap Piece.spaced) := by
        cases (Piece.comment text).kept with
        | nil => exact stopsAt_spaced
        | cons c ends => exact id
      show tokens (front ++ ' ' :: ((Piece.comment text).kept ++ _)) = _
      rw [same _ fun _ => open', List.append_assoc front, same _ closed, Json.tokens_space rfl]

end Comment

namespace Document

/-- If all comments of a text stand between lexemes, the text gives the same catalog with spaces for
its comments. -/
theorem readCatalog_spaced {text : String} {c : Catalog} (accepted : readCatalog text = .ok c)
    (between : Comment.BetweenLexemes (Comment.pieces text.toList)) :
    readCatalog (String.ofList (Comment.spaced text.toList)) = .ok c := by
  obtain ⟨v, read, shaped⟩ := readCatalog_eq_ok_iff.1 accepted
  have spaced : Json.read (Comment.spaced text.toList) = .ok v := by
    rw [Json.read_eq_ok_iff] at read ⊢
    rw [← read]
    exact congrArg (List.foldlM State.step (.value [])) (Comment.tokens_spaced [] between read)
  refine readCatalog_eq_ok_iff.2 ⟨v, ?_, shaped⟩
  rw [String.toList_ofList, Comment.strip_eq_self_of_read spaced]
  exact spaced

end Document

end TemplateCoverage
