import TemplateCoverage.Document
import TemplateCoverage.Proofs.Comment
import TemplateCoverage.Proofs.Json.Extent

/-!
# `TemplateCoverage.Proofs.Document.Comments`: comments between lexemes

Comments may stand wherever a JSON text has room between two lexemes, before the first or behind the
last one. Stripping takes out all of them, whatever quotes, slashes and stars they hold, and nothing
else. The theorems:

* `Commented.strip_eq`: of the comments the line ends are left, each in its place;
* `Commented.read_eq_ok`: what is left is read as the text without comments is;
* `readCatalog_of_commented`: comments make no difference to the catalog of a text.
-/

set_option autoImplicit false

namespace TemplateCoverage

open Json (Lexeme State Value)

/-- A comment: a block up to the first end mark, or the rest of a line with its end. -/
inductive Comment.IsComment : List Char → Prop where
  | block (body : List Char) (open_body : ¬['*', '/'] <:+: body) :
    IsComment ('/' :: '*' :: (body ++ ['*', '/']))
  | line (body : List Char) (oneLine : '\n' ∉ body) : IsComment ('/' :: '/' :: (body ++ ['\n']))

/-- What a text becomes with comments put between its lexemes, and with their line ends only. The
three texts are built together, from left to right. -/
inductive Json.Commented : List Char → List Char → List Char → Prop where
  | nil : Commented [] [] []
  | comment {cs commented left comment : List Char} (isComment : Comment.IsComment comment)
    (rest : Commented cs commented left) :
    Commented cs (comment ++ commented) (comment.filter (· == '\n') ++ left)
  | space {c : Char} {cs commented left : List Char} (space : Json.isSpace c)
    (rest : Commented cs commented left) : Commented (c :: cs) (c :: commented) (c :: left)
  | lexeme {c : Char} {taken cs commented left : List Char} {l : Lexeme}
    (space : Json.isSpace c = false) (found : Lexeme.scan c (taken ++ cs) = .ok (l, cs))
    (rest : Commented cs commented left) :
    Commented (c :: (taken ++ cs)) (c :: (taken ++ commented)) (c :: (taken ++ left))

namespace Comment

/-- Of a comment only its line ends are left, and what follows is stripped on its own. -/
theorem IsComment.strip_append {comment : List Char} (h : IsComment comment) (rest : List Char) :
    strip (comment ++ rest) = comment.filter (· == '\n') ++ strip rest := by
  cases h with
  | block body open_body =>
    rw [List.cons_append, List.cons_append, List.append_assoc, List.cons_append,
      List.singleton_append, strip_block open_body]
    simp
  | line body oneLine =>
    have none : body.filter (· == '\n') = [] := by
      rw [List.filter_eq_nil_iff]
      intro c mem newline
      exact oneLine (beq_iff_eq.1 newline ▸ mem)
    rw [List.cons_append, List.cons_append, List.append_assoc, List.singleton_append,
      strip_line oneLine]
    simp [none]

/-- No number goes on with a comment, as none of its characters is a slash. -/
theorem IsComment.stopsAt {comment : List Char} (h : IsComment comment) (rest : List Char) :
    Json.Literal.StopsAt (comment ++ rest) := by
  cases h with
  | block => exact Json.Literal.stopsAt_cons (by decide) (by decide)
  | line => exact Json.Literal.stopsAt_cons (by decide) (by decide)

end Comment

namespace Json

open Literal (StopsAt)

variable {cs commented left : List Char}

/-- A text that is read can have no comments. It is built from its own lexemes. -/
theorem Commented.refl_of_foldlM_step (line : Nat) {state final : State}
    (h : (tokens cs).foldlM State.step state = .ok final) : Commented cs cs cs := by
  -- Along the lexemes; the reader stops at a broken one, so there is none.
  fun_induction lexemes line cs generalizing state with
  | case1 => exact .nil
  | case2 line c rest space ih =>
    rw [tokens_space space] at h
    exact .space space (ih h)
  | case3 line c rest space lexeme rest' found ih =>
    have noSpace : isSpace c = false := Bool.not_eq_true _ ▸ space
    obtain ⟨l, tail, next, found', -, after⟩ := exists_scan_of_foldlM_step noSpace h
    rw [found] at found'
    cases found'
    -- The lexeme is told apart from what follows it by what it takes.
    obtain ⟨taken, rfl, -⟩ := Lexeme.scan_extent found
    exact .lexeme noSpace found (ih after)
  | case4 line c rest space broken found =>
    obtain ⟨l, tail, next, found', -, -⟩ :=
      exists_scan_of_foldlM_step (Bool.not_eq_true _ ▸ space) h
    rw [found] at found'
    contradiction

/-- What a number cannot go on with it cannot go on with behind comments or their line ends. -/
theorem Commented.stopsAt (h : Commented cs commented left) (stop : StopsAt cs) :
    StopsAt commented ∧ StopsAt left := by
  induction h with
  | nil => exact ⟨stop, stop⟩
  | comment isComment rest ih =>
    rename_i comment
    refine ⟨isComment.stopsAt _, ?_⟩
    -- Of a comment in one line nothing is left, so that what follows decides.
    cases ends : comment.filter (· == '\n') with
    | nil => exact (ih stop).2
    | cons c ends' =>
      have mem : c ∈ comment.filter (· == '\n') := ends ▸ List.mem_cons_self
      have newline : c = '\n' := beq_iff_eq.1 (List.mem_filter.1 mem).2
      subst newline
      exact Literal.stopsAt_cons (by decide) (by decide)
  | space => exact ⟨stop, stop⟩
  | lexeme => exact ⟨stop, stop⟩

/-- A lexeme stands in front of what follows it with comments, or with their line ends, as it does
without them. -/
theorem Commented.scan_append {c : Char} {taken : List Char} {l : Lexeme} {state next final : State}
    (h : Commented cs commented left) (found : Lexeme.scan c (taken ++ cs) = .ok (l, cs))
    (stepped : state.step l = .ok next) (after : (tokens cs).foldlM State.step next = .ok final) :
    Lexeme.scan c (taken ++ commented) = .ok (l, commented) ∧
      Lexeme.scan c (taken ++ left) = .ok (l, left) := by
  -- Only for a number does it matter what follows, and a number is followed by what is read after a
  -- value.
  have stop : Lexeme.startsNumber c → StopsAt cs := by
    intro number
    obtain ⟨v, rfl⟩ := Lexeme.scalar_of_startsNumber number found
    obtain ⟨outer, rfl⟩ := State.step_scalar stepped
    exact stopsAt_of_foldlM_step after
  obtain ⟨taken', eq, extent⟩ := Lexeme.scan_extent found
  rw [List.append_cancel_right eq] at extent
  exact ⟨extent commented fun number => (h.stopsAt (stop number)).1,
    extent left fun number => (h.stopsAt (stop number)).2⟩

/-- Of the comments in what the reader gets through the line ends are left, each in its place. -/
theorem Commented.strip_eq {state final : State} (h : Commented cs commented left)
    (read : (tokens cs).foldlM State.step state = .ok final) : Comment.strip commented = left := by
  induction h generalizing state with
  | nil => exact Comment.strip_nil
  | comment isComment rest ih => rw [isComment.strip_append, ih read]
  | space space rest ih =>
    rw [tokens_space space] at read
    rw [Comment.strip_plain (Comment.isPlain_of_isSpace space), ih read]
  | lexeme space found rest ih =>
    obtain ⟨l, tail, next, found', stepped, after⟩ := exists_scan_of_foldlM_step space read
    rw [found] at found'
    cases found'
    -- The lexeme is one in front of the comments too, so nothing inside it looks like one.
    have stays := Comment.stays_scan (rest.scan_append found stepped after).1
    rw [← List.cons_append] at stays ⊢
    rw [stays.strip_append, ih after]
    rfl

/-- The line ends of comments are no lexemes, so that the tokens are those of the text without
comments. -/
theorem Commented.tokens_eq {state final : State} (h : Commented cs commented left)
    (read : (tokens cs).foldlM State.step state = .ok final) : tokens left = tokens cs := by
  induction h generalizing state with
  | nil => rfl
  | comment isComment rest ih =>
    rw [tokens_blanks, ih read]
    intro c mem
    rw [beq_iff_eq.1 (List.mem_filter.1 mem).2]
    rfl
  | space space rest ih =>
    rw [tokens_space space] at read
    rw [tokens_space space, tokens_space space, ih read]
  | lexeme space found rest ih =>
    obtain ⟨l, tail, next, found', stepped, after⟩ := exists_scan_of_foldlM_step space read
    rw [found] at found'
    cases found'
    rw [tokens_scan space (rest.scan_append found stepped after).2, tokens_scan space found,
      ih after]

/-- What is left of the comments is read as the text without comments is: a value is told by the
tokens. -/
theorem Commented.read_eq_ok {v : Value} (h : Commented cs commented left)
    (read : Json.read cs = .ok v) : Json.read left = .ok v := by
  rw [read_eq_ok_iff] at read ⊢
  rw [h.tokens_eq read]
  exact read

end Json

namespace Document

/-- Comments between the lexemes of a text that is read as JSON make no difference: stripping leaves
their line ends only, what it leaves is read as the text is, and either text is the same catalog or
none for the same reason. A text without comments is left as it is. -/
theorem readCatalog_of_commented {text commented : String} {left : List Char} {v : Value}
    (read : Json.read text.toList = .ok v)
    (inserted : Json.Commented text.toList commented.toList left) :
    Comment.strip commented.toList = left ∧ Json.read left = .ok v ∧
      readCatalog commented = readCatalog text ∧ Comment.strip text.toList = text.toList := by
  have stripped : Comment.strip commented.toList = left :=
    inserted.strip_eq (Json.read_eq_ok_iff.1 read)
  have readLeft : Json.read left = .ok v := inserted.read_eq_ok read
  have same : Comment.strip text.toList = text.toList := Comment.strip_eq_self_of_read read
  refine ⟨stripped, readLeft, ?_, same⟩
  rw [readCatalog, readCatalog, stripped, same, readLeft, read]

/-- The end of a document of which a key looks like a comment, behind its opening brace. -/
def sampleEnd : List Char := "\"//\":\x7b\"payloads\":[]\x7d\x7d".toList

/-- The lexemes of this end, of which the first is a text that looks like a comment. -/
theorem tokens_sampleEnd : Json.tokens sampleEnd =
    [.text "//", .colon, .beginObject, .text "payloads", .colon, .beginArray, .endArray, .endObject,
      .endObject] := by
  have slashes : Lexeme.scan '"' "//\":\x7b\"payloads\":[]\x7d\x7d".toList =
      .ok (.text "//", ":\x7b\"payloads\":[]\x7d\x7d".toList) := by cbv
  have payloads : Lexeme.scan '"' "payloads\":[]\x7d\x7d".toList =
      .ok (.text "payloads", ":[]\x7d\x7d".toList) := by cbv
  refine (Json.tokens_scan rfl slashes).trans (congrArg _ ?_)
  refine (Json.tokens_scan rfl rfl).trans (congrArg _ ?_)
  refine (Json.tokens_scan rfl rfl).trans (congrArg _ ?_)
  refine (Json.tokens_scan rfl payloads).trans (congrArg _ ?_)
  refine (Json.tokens_scan rfl rfl).trans (congrArg _ ?_)
  refine (Json.tokens_scan rfl rfl).trans (congrArg _ ?_)
  refine (Json.tokens_scan rfl rfl).trans (congrArg _ ?_)
  refine (Json.tokens_scan rfl rfl).trans (congrArg _ ?_)
  exact (Json.tokens_scan rfl rfl).trans (congrArg _ Json.tokens_nil)

/-- Comments that look like texts, in a document of which a key looks like a comment. One of them
stands before the first lexeme, the other one behind a brace. -/
theorem readCatalog_of_commented_sample :
    readCatalog (String.ofList (['/', '*', '"', '*', '/'] ++ '\x7b' ::
        (['/', '/', '"', '\n'] ++ sampleEnd))) =
      readCatalog (String.ofList ('\x7b' :: sampleEnd)) := by
  have tokens : Json.tokens ('\x7b' :: sampleEnd) = .beginObject :: _ :=
    (Json.tokens_scan rfl rfl).trans (congrArg _ tokens_sampleEnd)
  have read : ∃ v, Json.read (String.ofList ('\x7b' :: sampleEnd)).toList = .ok v := by
    simp only [String.toList_ofList, Json.read_eq_ok_iff, tokens]
    exact ⟨_, rfl⟩
  have accepted : ∃ final, (Json.tokens sampleEnd).foldlM State.step (.members []) = .ok final := by
    rw [tokens_sampleEnd]
    exact ⟨_, rfl⟩
  have behind : Json.Commented sampleEnd (['/', '/', '"', '\n'] ++ sampleEnd) ('\n' :: sampleEnd) :=
    .comment (.line ['"'] (by decide)) (.refl_of_foldlM_step 1 accepted.choose_spec)
  have brace : Json.Commented ('\x7b' :: ([] ++ sampleEnd)) _ _ := .lexeme rfl rfl behind
  have inserted : Json.Commented (String.ofList ('\x7b' :: sampleEnd)).toList
      (String.ofList (['/', '*', '"', '*', '/'] ++ '\x7b' ::
        (['/', '/', '"', '\n'] ++ sampleEnd))).toList
      ('\x7b' :: '\n' :: sampleEnd) := by
    rw [String.toList_ofList, String.toList_ofList]
    exact .comment (.block ['"'] (by decide)) brace
  obtain ⟨v, read⟩ := read
  obtain ⟨-, -, same, -⟩ := readCatalog_of_commented read inserted
  exact same

end Document

end TemplateCoverage
