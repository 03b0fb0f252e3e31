import Mathlib.Data.List.Forall2
import TemplateCoverage.Document
import TemplateCoverage.Proofs.Json.Lines

/-!
# `TemplateCoverage.Proofs.Document.Lines`: comments and the lines of a document

Every character of a document either is left when the comments are stripped or is not, and a line
end always is. So what is left of a line stands on the line of the same number, whatever the
document looks like, and the line at which JSON stops being readable is that of the same place in
the document with its comments. The theorems:

* `forall₂_splitOn_left`: what is left of the lines of a document are the lines of what is left;
* `exists_cut_of_left`: a place in what is left is a place in the document;
* `lines_in_place`: stripping comments keeps every line in place.
-/

set_option autoImplicit false

namespace TemplateCoverage.Comment

/-! ### Marked characters -/

/-- Whether a character of a piece is left when the comments are taken out. -/
def Piece.keeps : Piece → Char → Bool
  | .comment _, c => c == '\n'
  | _, _ => true

/-- The characters of a piece, each with whether it is left. So the stripped text can be followed in
the given one. -/
def Piece.marked (p : Piece) : List (Char × Bool) := p.text.map fun c => (c, p.keeps c)

/-- The characters of a document, each with whether it is left. Both texts can be read off them, so
that places in the one are places in the other. -/
def marked (cs : List Char) : List (Char × Bool) := (pieces cs).flatMap Piece.marked

/-- All characters of those given, left or not: the text as it was before stripping. -/
def whole (ms : List (Char × Bool)) : List Char := ms.map (·.1)

/-- The characters that are left of those given, in their order: the text that the reader of JSON
sees. -/
def left (ms : List (Char × Bool)) : List Char := (ms.filter (·.2)).map (·.1)

/-- The first character comes first, left or not, in the whole text. -/
@[simp] theorem whole_cons (m : Char × Bool) (ms : List (Char × Bool)) :
    whole (m :: ms) = m.1 :: whole ms := rfl

/-- A character that is left comes first in what is left, at the place that it had. -/
@[simp] theorem left_cons_true (c : Char) (ms : List (Char × Bool)) :
    left ((c, true) :: ms) = c :: left ms := rfl

/-- A character that is not left is skipped, so that the two texts go apart there by one character.
-/
@[simp] theorem left_cons_false (c : Char) (ms : List (Char × Bool)) :
    left ((c, false) :: ms) = left ms := rfl

/-- The characters of a piece are all there, whether the piece is a comment or not. -/
theorem Piece.whole_marked (p : Piece) : whole p.marked = p.text := by
  rw [whole, marked, List.map_map]
  exact List.map_id p.text

/-- The characters of a piece that are left are what stripping keeps of it. -/
theorem Piece.left_marked (p : Piece) : left p.marked = p.kept := by
  have filtered : left p.marked = p.text.filter p.keeps := by
    rw [left, marked, List.filter_map, List.map_map]
    exact List.map_id _
  rw [filtered]
  cases p with
  | comment text => rfl
  | literal text => exact List.filter_true text
  | char c => rfl

/-- The characters are those of the document, as its pieces make it up. -/
theorem whole_marked (cs : List Char) : whole (marked cs) = cs := by
  have texts : (fun p : Piece => whole p.marked) = Piece.text := funext Piece.whole_marked
  calc whole (marked cs) = (pieces cs).flatMap fun p => whole p.marked := List.map_flatMap
    _ = cs := by rw [texts, flatMap_text_pieces]

/-- The characters that are left are those of the stripped document, so that marking agrees with
stripping. -/
theorem left_marked (cs : List Char) : left (marked cs) = strip cs := by
  have kept : (fun p : Piece => left p.marked) = Piece.kept := funext Piece.left_marked
  calc left (marked cs) = (pieces cs).flatMap fun p => left p.marked := by
        rw [left, marked, List.filter_flatMap, List.map_flatMap]
        rfl
    _ = strip cs := by rw [kept, strip]

/-! ### Lines -/

/-- Every line end is left. This is the one fact about comments that the lines below depend on. -/
def KeepsLines (ms : List (Char × Bool)) : Prop := ∀ m ∈ ms, m.1 = '\n' → m.2 = true

/-- It holds of what follows the first character, so that it can be used along the text. -/
theorem KeepsLines.tail {m : Char × Bool} {ms : List (Char × Bool)} (h : KeepsLines (m :: ms)) :
    KeepsLines ms := fun n mem => h n (List.mem_cons_of_mem _ mem)

/-- It holds of every document: a comment keeps its line ends, and other pieces keep everything. -/
theorem keepsLines_marked (cs : List Char) : KeepsLines (marked cs) := by
  intro m mem newline
  obtain ⟨p, -, mem⟩ := List.mem_flatMap.1 mem
  obtain ⟨c, -, rfl⟩ := List.mem_map.1 mem
  have same : c = '\n' := newline
  subst same
  cases p <;> rfl

/-- As many line ends are left as there were, since no line end is ever taken out. -/
theorem count_left {ms : List (Char × Bool)} (keeps : KeepsLines ms) :
    (left ms).count '\n' = (whole ms).count '\n' := by
  induction ms with
  | nil => rfl
  | cons m ms ih =>
    obtain ⟨c, mark⟩ := m
    cases mark with
    | true => rw [left_cons_true, whole_cons, List.count_cons, List.count_cons, ih keeps.tail]
    | false =>
      have ne : c ≠ '\n' := fun newline =>
        Bool.false_ne_true (keeps _ List.mem_cons_self newline)
      rw [left_cons_false, whole_cons, List.count_cons_of_ne ne, ih keeps.tail]

/-- Every place is on the line on which what is left in front of it ends. -/
theorem lastLine_left {before behind : List (Char × Bool)} (keeps : KeepsLines (before ++ behind)) :
    Json.lastLine (left before) = Json.lastLine (whole before) := by
  rw [Json.lastLine, Json.lastLine,
    count_left fun m mem => keeps m (List.mem_append_left behind mem)]

/-- Lists related item by item stay so if their first items are changed in a related way. -/
theorem forall₂_modifyHead {α β : Type} {R : α → β → Prop} {f : α → α} {g : β → β} {as : List α}
    {bs : List β} (related : List.Forall₂ R as bs) (step : ∀ a b, R a b → R (f a) (g b)) :
    List.Forall₂ R (as.modifyHead f) (bs.modifyHead g) := by
  cases related with
  | nil => exact .nil
  | cons head tail => exact .cons (step _ _ head) tail

/-- What is left of the lines of a document are the lines of what is left. -/
theorem forall₂_splitOn_left {ms : List (Char × Bool)} (keeps : KeepsLines ms) :
    List.Forall₂ List.Sublist ((left ms).splitOn '\n') ((whole ms).splitOn '\n') := by
  induction ms with
  | nil => exact .cons (.refl _) .nil
  | cons m ms ih =>
    obtain ⟨c, mark⟩ := m
    have lines := ih keeps.tail
    cases mark with
    | true =>
      rw [left_cons_true, whole_cons, List.splitOn_cons_eq_if_modifyHead,
        List.splitOn_cons_eq_if_modifyHead]
      split
      · exact .cons (.refl _) lines
      · exact forall₂_modifyHead lines fun _ _ sub => sub.cons_cons c
    -- What is removed is no line end, so its line only gets shorter.
    | false =>
      have ne : ¬(c == '\n') = true := fun newline =>
        Bool.false_ne_true (keeps _ List.mem_cons_self (beq_iff_eq.1 newline))
      have longer := forall₂_modifyHead (f := id) lines fun _ _ sub => sub.cons c
      rw [List.modifyHead_id] at longer
      rw [left_cons_false, whole_cons, List.splitOn_cons_eq_if_modifyHead, if_neg ne]
      exact longer

/-! ### Places -/

/-- A place in what is left is a place in the document: the one in front of the character that is
left next. Removed characters between two that are left belong to what is before. -/
theorem exists_cut_of_left {ms : List (Char × Bool)} {as bs : List Char}
    (h : left ms = as ++ bs) :
    ∃ before behind, ms = before ++ behind ∧ left before = as ∧ left behind = bs ∧
      ∀ m ∈ behind.head?, m.2 = true := by
  induction ms generalizing as with
  | nil =>
    obtain ⟨rfl, rfl⟩ := List.append_eq_nil_iff.1 h.symm
    exact ⟨[], [], rfl, rfl, rfl, nofun⟩
  | cons m ms ih =>
    obtain ⟨c, mark⟩ := m
    cases mark with
    -- What is removed in front of the next character left belongs to what is before.
    | false =>
      obtain ⟨before, behind, rfl, rfl, rfl, next⟩ := ih h
      exact ⟨(c, false) :: before, behind, rfl, rfl, rfl, next⟩
    | true =>
      cases as with
      | nil =>
        refine ⟨[], (c, true) :: ms, rfl, rfl, h, ?_⟩
        rintro m ⟨⟩
        rfl
      | cons a as =>
        rw [left_cons_true, List.cons_append, List.cons.injEq] at h
        obtain ⟨rfl, h⟩ := h
        obtain ⟨before, behind, rfl, rfl, rfl, next⟩ := ih h
        exact ⟨(c, true) :: before, behind, rfl, rfl, rfl, next⟩

end TemplateCoverage.Comment

namespace TemplateCoverage.Document

open Comment (marked whole left strip)
open Json (StopsBehind lastLine)

/-- A document is no JSON if the reader stops in what is left of it. -/
theorem readCatalog_eq_notJson_iff {text : String} {line : Nat} :
    readCatalog text = .error (.notJson line) ↔ Json.read (strip text.toList) = .error line := by
  unfold readCatalog
  split
  · rename_i stopped
    simp [stopped]
  · rename_i v read
    split <;> simp [read]

/-- Stripping the comments keeps every line in place, whatever the document looks like: the
characters left are some of the document's, there are as many line ends as before, the lines left
are subsequences of those before, and any place is on the line on which what is left in front of it
ends. The document is no JSON just if the reader stops somewhere in what is left, and the line it
names is that of the same place in the document. -/
theorem lines_in_place (text : String) :
    whole (marked text.toList) = text.toList ∧ left (marked text.toList) = strip text.toList ∧
    (strip text.toList).count '\n' = text.toList.count '\n' ∧
    List.Forall₂ List.Sublist ((strip text.toList).splitOn '\n') (text.toList.splitOn '\n') ∧
    (∀ before behind, marked text.toList = before ++ behind →
      lastLine (left before) = lastLine (whole before)) ∧
    ∀ line, readCatalog text = .error (.notJson line) ↔
      ∃ before behind, marked text.toList = before ++ behind ∧
        (∀ m ∈ behind.head?, m.2 = true) ∧ StopsBehind (strip text.toList) (left before) ∧
        line = lastLine (left before) ∧ line = lastLine (whole before) := by
  have all := Comment.whole_marked text.toList
  have some := Comment.left_marked text.toList
  have keeps := Comment.keepsLines_marked text.toList
  have counted := Comment.count_left keeps
  have lines := Comment.forall₂_splitOn_left keeps
  rw [all, some] at counted lines
  have place {before behind : List (Char × Bool)} (cut : marked text.toList = before ++ behind) :
      lastLine (left before) = lastLine (whole before) :=
    Comment.lastLine_left (cut ▸ keeps)
  refine ⟨all, some, counted, lines, fun before behind => place, fun line => ?_⟩
  rw [readCatalog_eq_notJson_iff, Json.read_eq_error_iff]
  constructor
  · -- What the reader has consumed ends at a place, which is one of the document too.
    rintro ⟨consumed, stops, rfl⟩
    obtain ⟨rest, eq⟩ := stops.isPrefix
    obtain ⟨before, behind, cut, rfl, -, next⟩ := Comment.exists_cut_of_left (some.trans eq.symm)
    exact ⟨before, behind, cut, next, stops, rfl, place cut⟩
  · rintro ⟨before, behind, -, -, stops, eq, -⟩
    exact ⟨left before, stops, eq⟩

/-- A document with a comment over two lines where a colon is missing. A line comment with a quote
in it stands above. -/
def sampleWithoutColon : String := "\x7b // \"\n\"a\" /*\n*/ ? \x7d"

/-- What is read of the document without its comments, line by line, up to the character that is no
lexeme. -/
theorem lexemes_sampleWithoutColon :
    Json.lexemes 1 "\x7b \n\"a\" \n ? \x7d".toList =
      [(1, .beginObject), (2, .text "a"), (3, .stray)] := by
  have name : Json.Lexeme.scan '"' "a\" \n ? \x7d".toList =
      .ok (.text "a", " \n ? \x7d".toList) := by cbv
  refine (Json.lexemes_scan rfl rfl).trans (congrArg _ ?_)
  refine (Json.lexemes_blank rfl (by decide)).trans ((Json.lexemes_newline 1 _).trans ?_)
  refine (Json.lexemes_scan rfl name).trans (congrArg _ ?_)
  refine (Json.lexemes_blank rfl (by decide)).trans ((Json.lexemes_newline 2 _).trans ?_)
  exact (Json.lexemes_blank rfl (by decide)).trans (Json.lexemes_broken (by decide) rfl)

/-- The reader stops on the third line, behind the comment, whose line end is counted though the
comment itself is gone. -/
theorem lines_in_place_sampleWithoutColon :
    readCatalog sampleWithoutColon = .error (.notJson 3) ∧
      ∃ before behind, marked sampleWithoutColon.toList = before ++ behind ∧
        lastLine (left before) = 3 ∧ lastLine (whole before) = 3 ∧
        StopsBehind (strip sampleWithoutColon.toList) (left before) := by
  have stripped : strip sampleWithoutColon.toList = "\x7b \n\"a\" \n ? \x7d".toList := by
    decide +kernel
  have stopped : readCatalog sampleWithoutColon = .error (.notJson 3) := by
    rw [readCatalog_eq_notJson_iff, stripped, Json.read, lexemes_sampleWithoutColon]
    rfl
  obtain ⟨before, behind, cut, -, stops, eq, -⟩ :=
    ((lines_in_place sampleWithoutColon).2.2.2.2.2 3).1 stopped
  have place := (lines_in_place sampleWithoutColon).2.2.2.2.1 before behind cut
  exact ⟨stopped, before, behind, cut, eq.symm, place.symm.trans eq.symm, stops⟩

end TemplateCoverage.Document
