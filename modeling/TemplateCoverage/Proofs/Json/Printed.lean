import TemplateCoverage.Json.Printer
import TemplateCoverage.Proofs.Json.Number

/-!
# `TemplateCoverage.Proofs.Json.Printed`: reading back the trees that are written

A tree is written as a text whose tokens spell the tree, in either style and at any depth. The
theorems:

* `Lexeme.scanText_printText`: a text is read back from its characters' escapes;
* `tokens_print`: what is written for a tree has the tokens that spell it;
* `read_print`: a tree is read back if it is not too deep and its doubles are read back;
* `read_render`: so is the text of a tree on its own.
-/

set_option autoImplicit false

namespace TemplateCoverage

namespace Json

/-! ### Texts -/

namespace Lexeme

/-- At a quote the text ends, and it is what has been read, which is kept with the last character
first. -/
theorem scanText_quote (read rest : List Char) :
    scanText read ('"' :: rest) = .ok (String.ofList read.reverse, rest) := by
  rw [scanText, if_pos rfl]

/-- An escape is read as the character it stands for, and reading goes on behind it. -/
theorem scanText_escape {read cs rest : List Char} {d : Char} (found : escape cs = .ok (d, rest)) :
    scanText read ('\\' :: cs) = scanText (d :: read) rest := by
  rw [scanText, if_neg (by decide), if_pos rfl]
  split <;> simp_all

/-- Any other character stands for itself: only quotes, backslashes and control characters may not
stand in a text as they are. -/
theorem scanText_plain {read rest : List Char} {c : Char} (quote : c ≠ '"') (escape : c ≠ '\\')
    (control : ¬c < ' ') : scanText read (c :: rest) = scanText (c :: read) rest := by
  rw [scanText, if_neg quote, if_neg escape, if_neg control]

/-- The hexadecimal digits that are written are read back, in the lower case in which they are
written. -/
theorem hexDigit?_digitChar : ∀ d < 16, hexDigit? (Nat.digitChar d) = some d := by decide

/-- A control character is read back from its four hexadecimal digits. The first two are zeros, so
that the unit is never half of a pair. -/
theorem escape_controlEscape {c : Char} (control : c < ' ') (rest : List Char) :
    escape ((controlEscape c).tail ++ rest) = .ok (c, rest) := by
  -- The code has two hexadecimal digits, the first one of which is zero or one.
  have small : c.toNat < 32 := control
  have high := hexDigit?_digitChar (c.toNat / 16) (by omega)
  have low := hexDigit?_digitChar (c.toNat % 16) (by omega)
  have zero : hexDigit? '0' = some 0 := by decide
  have unit : hexUnit ('0' :: '0' :: Nat.digitChar (c.toNat / 16) :: Nat.digitChar (c.toNat % 16)
      :: rest) = .ok (c.toNat, rest) := by
    simp only [hexUnit, zero, high, low, Except.ok.injEq, Prod.mk.injEq, and_true]
    omega
  have trail : isTrail c.toNat = false := by
    simp only [isTrail, Bool.and_eq_false_iff, decide_eq_false_iff_not]
    omega
  have lead : isLead c.toNat = false := by
    simp only [isLead, Bool.and_eq_false_iff, decide_eq_false_iff_not]
    omega
  simp only [controlEscape, List.tail_cons, List.cons_append, List.nil_append, escape, unit, trail,
    lead, Bool.false_eq_true, if_false, Char.ofNat_toNat]

/-- A character is read back from what is written for it: itself, an escape of one letter, or an
escape of a unit for a control character without such a letter. -/
theorem scanText_printChar (read : List Char) (c : Char) (rest : List Char) :
    scanText read (printChar c ++ rest) = scanText (c :: read) rest := by
  unfold printChar
  repeat' split
  all_goals try subst_vars
  · exact scanText_escape rfl
  · exact scanText_escape rfl
  · exact scanText_escape rfl
  · exact scanText_escape rfl
  · exact scanText_escape rfl
  · exact scanText_escape rfl
  · exact scanText_escape rfl
  · -- The characters with an escape of one letter are dealt with above.
    rename_i control
    exact scanText_escape (escape_controlEscape control rest)
  · rename_i quote backslash _ _ _ _ _ control
    exact scanText_plain quote backslash control

/-- The characters that are written up to a quote are read back behind those that have been read.
The induction is on the characters, with what has been read generalized. -/
theorem scanText_flatMap_printChar (read cs rest : List Char) :
    scanText read (cs.flatMap printChar ++ '"' :: rest)
      = .ok (String.ofList (read.reverse ++ cs), rest) := by
  induction cs generalizing read with
  | nil => simpa using scanText_quote read rest
  | cons c cs ih =>
    rw [List.flatMap_cons, List.append_assoc, scanText_printChar, ih, List.reverse_cons,
      List.append_assoc, List.singleton_append]

/-- A text is read back from its characters' escapes, whatever characters it has and whatever stands
behind its quote. -/
theorem scanText_printText (s : String) (rest : List Char) :
    scanText [] (s.toList.flatMap printChar ++ '"' :: rest) = .ok (s, rest) := by
  rw [scanText_flatMap_printChar, List.reverse_nil, List.nil_append, String.ofList_toList]

end Lexeme

/-! ### The tokens of what is written -/

/-- What is written for a text is one token, the text; the reader takes it from the quote in front
to the one behind. -/
theorem tokens_printText (s : String) (rest : List Char) :
    tokens (printText s ++ rest) = .text s :: tokens rest := by
  have found : Lexeme.scan '"' (s.toList.flatMap printChar ++ '"' :: rest) =
      .ok (.text s, rest) := by
    have none : Lexeme.punctuation? '"' = none := rfl
    simp only [Lexeme.scan, none, if_pos, Lexeme.scanText_printText]
  rw [printText, List.cons_append, List.append_assoc, List.singleton_append]
  exact tokens_scan rfl found

/-- The line ends and the indentation between tokens have no token, in either style and at any
depth. -/
theorem tokens_line (style : Style) (depth : Nat) (cs : List Char) :
    tokens (style.line depth ++ cs) = tokens cs := by
  cases style with
  | compact => rfl
  | indented =>
    refine tokens_blanks ?_
    intro c hc
    simp only [Style.line, List.mem_cons, List.mem_replicate] at hc
    rcases hc with rfl | ⟨_, rfl⟩ <;> rfl

/-- What is written between a key and its value is one colon; the blank behind it in the indented
style has no token. -/
theorem tokens_colon (style : Style) (cs : List Char) :
    tokens (style.colon ++ cs) = .colon :: tokens cs := by
  cases style with
  | compact => exact tokens_scan rfl rfl
  | indented =>
    rw [Style.colon, List.cons_append, tokens_scan rfl rfl]
    exact congrArg _ (tokens_space rfl)

/-- What is written for a number is one token, its value. What stands behind may not go on with it,
and a double has to be one that is read back. -/
theorem tokens_number {n : Number} {rest : List Char} (stop : Literal.StopsAt rest)
    (doubles : ∀ x, n = .double x → x.ReadsBack) :
    tokens (n.text ++ rest) = .scalar ⟨.number n, trivial⟩ :: tokens rest := by
  have found := Lexeme.scanNumber_text stop doubles
  -- A number has a text, whose first character starts the lexeme.
  cases eq : n.text ++ rest with
  | nil =>
    rw [eq] at found
    contradiction
  | cons c cs =>
    rw [eq] at found
    exact tokens_scan (Lexeme.scan_of_scanNumber found).1 (Lexeme.scan_of_scanNumber found).2

/-! ### Trees -/

mutual

/-- The doubles in a tree, in the order in which they are written. Reading the tree back depends on
them, as other values always are. -/
def doubles : Json → List Double
  | .number (.double x) => [x]
  | .array items => doublesOfItems items
  | .object members => doublesOfMembers members
  | _ => []

/-- The doubles in items, one item after the other. -/
def doublesOfItems : List Json → List Double
  | [] => []
  | item :: items => doubles item ++ doublesOfItems items

/-- The doubles in the values of members; the keys are texts. -/
def doublesOfMembers : Members → List Double
  | [] => []
  | (_, value) :: members => doubles value ++ doublesOfMembers members

end

/-- A double that is a number by itself is among the doubles of that number's tree. -/
theorem mem_doubles_number {n : Number} {x : Double} (eq : n = .double x) :
    x ∈ (Json.number n).doubles := by
  subst eq
  simp [doubles]

/-- A literal does not go on in what stands in front of a closing bracket: the bracket itself in the
compact style, a line end in the indented one. -/
theorem stopsAt_line {style : Style} {depth : Nat} {c : Char} {rest : List Char}
    (bracket : c = ']' ∨ c = '\x7d') : Literal.StopsAt (style.line depth ++ c :: rest) := by
  cases style with
  | compact => rcases bracket with rfl | rfl <;> exact Literal.stopsAt_cons (by decide) (by decide)
  | indented => exact Literal.stopsAt_cons (by decide) (by decide)

/-- Neither does it in what is written behind an item, which is a comma or the end of the array. -/
theorem stopsAt_printItems {style : Style} {depth depth' : Nat} {items : List Json}
    {rest : List Char} :
    Literal.StopsAt (printItems style depth items ++ (style.line depth' ++ ']' :: rest)) := by
  cases items with
  | nil => exact stopsAt_line (.inl rfl)
  | cons item items => exact Literal.stopsAt_cons (by decide) (by decide)

/-- Neither does it in what is written behind a member's value, which is a comma or the end of the
object. -/
theorem stopsAt_printMembers {style : Style} {depth depth' : Nat} {members : Members}
    {rest : List Char} :
    Literal.StopsAt
      (printMembers style depth members ++ (style.line depth' ++ '\x7d' :: rest)) := by
  cases members with
  | nil => exact stopsAt_line (.inr rfl)
  | cons m members => exact Literal.stopsAt_cons (by decide) (by decide)

mutual

/-- What is written for a tree has the tokens that spell it. The text behind may not go on with a
number, in case the tree is one; inside the tree the layout sees to that. -/
theorem tokens_print (style : Style) : ∀ (depth : Nat) (j : Json) (rest : List Char),
    (∀ x ∈ j.doubles, x.ReadsBack) → Literal.StopsAt rest →
      tokens (print style depth j ++ rest) = spell j ++ tokens rest
  | _, .null, _, _, _ => tokens_scan rfl rfl
  | _, .bool true, _, _, _ => tokens_scan rfl rfl
  | _, .bool false, _, _, _ => tokens_scan rfl rfl
  | _, .number n, rest, hd, stop =>
    tokens_number stop fun x eq => hd x (mem_doubles_number eq)
  | _, .string s, rest, _, _ => tokens_printText s rest
  | _, .array [], rest, _, _ => by
    simp only [print, spell, List.cons_append, List.nil_append]
    rw [tokens_scan rfl rfl, tokens_scan rfl rfl]
  | depth, .array (item :: items), rest, hd, _ => by
    simp only [doubles, doublesOfItems, List.mem_append] at hd
    -- Whatever comes behind the first item, a number there would not go on with it.
    have first := tokens_print style (depth + 1) item
      (printItems style (depth + 1) items ++ (style.line depth ++ ']' :: rest))
      (fun x hx => hd x (.inl hx)) stopsAt_printItems
    have others := tokens_printItems style (depth + 1) depth items rest fun x hx => hd x (.inr hx)
    simp only [print, spell, List.cons_append, List.append_assoc, List.nil_append]
    rw [tokens_scan rfl rfl, tokens_line, first, others]
  | _, .object [], rest, _, _ => by
    simp only [print, spell, List.cons_append, List.nil_append]
    rw [tokens_scan rfl rfl, tokens_scan rfl rfl]
  | depth, .object ((key, value) :: members), rest, hd, _ => by
    simp only [doubles, doublesOfMembers, List.mem_append] at hd
    have first := tokens_print style (depth + 1) value
      (printMembers style (depth + 1) members ++ (style.line depth ++ '\x7d' :: rest))
      (fun x hx => hd x (.inl hx)) stopsAt_printMembers
    -- The members behind the first one go up to the closing bracket.
    have others := tokens_printMembers style (depth + 1) depth members rest
      fun x hx => hd x (.inr hx)
    simp only [print, spell, List.cons_append, List.append_assoc, List.nil_append]
    rw [tokens_scan rfl rfl, tokens_line, tokens_printText, tokens_colon, first, others]

/-- What is written for the items after the first, up to the end of the array, has the tokens that
spell these. A bracket is behind them, so that no text has to be excluded. -/
theorem tokens_printItems (style : Style) : ∀ (depth depth' : Nat) (items : List Json)
    (rest : List Char), (∀ x ∈ doublesOfItems items, x.ReadsBack) →
      tokens (printItems style depth items ++ (style.line depth' ++ ']' :: rest))
        = spellItems items ++ tokens rest
  | _, depth', [], rest, _ => by
    rw [printItems, List.nil_append, tokens_line, tokens_scan rfl rfl]
    rfl
  | depth, depth', item :: items, rest, hd => by
    simp only [doublesOfItems, List.mem_append] at hd
    have first := tokens_print style depth item
      (printItems style depth items ++ (style.line depth' ++ ']' :: rest))
      (fun x hx => hd x (.inl hx)) stopsAt_printItems
    have others := tokens_printItems style depth depth' items rest fun x hx => hd x (.inr hx)
    simp only [printItems, spellItems, List.cons_append, List.append_assoc]
    rw [tokens_scan rfl rfl, tokens_line, first, others]

/-- What is written for the members after the first, up to the end of the object, has the tokens
that spell these, each key in front of its value. -/
theorem tokens_printMembers (style : Style) : ∀ (depth depth' : Nat) (members : Members)
    (rest : List Char), (∀ x ∈ doublesOfMembers members, x.ReadsBack) →
      tokens (printMembers style depth members ++ (style.line depth' ++ '\x7d' :: rest))
        = spellMembers members ++ tokens rest
  | _, depth', [], rest, _ => by
    rw [printMembers, List.nil_append, tokens_line, tokens_scan rfl rfl]
    rfl
  | depth, depth', (key, value) :: members, rest, hd => by
    simp only [doublesOfMembers, List.mem_append] at hd
    have first := tokens_print style depth value
      (printMembers style depth members ++ (style.line depth' ++ '\x7d' :: rest))
      (fun x hx => hd x (.inl hx)) stopsAt_printMembers
    have others := tokens_printMembers style depth depth' members rest
      fun x hx => hd x (.inr hx)
    simp only [printMembers, spellMembers, List.cons_append, List.append_assoc]
    rw [tokens_scan rfl rfl, tokens_line, tokens_printText, tokens_colon, first, others]

end

/-- A text whose tokens spell a tree is read as the tree, unless that is too deep. Blanks and layout
have no part in it, as they are no tokens. -/
theorem read_of_tokens {cs : List Char} {v : Value} (fits : v.1.depth ≤ maxDepth)
    (spelled : tokens cs = spell v.1) : read cs = .ok v := by
  rw [read_eq_ok_iff, spelled]
  exact foldlM_step_spell v.1 v.2 [] fits

/-- A tree is read back if it is not too deep and its doubles are read back, also in front of a text
without tokens such as the line end behind a document. -/
theorem read_print {style : Style} {v : Value} {rest : List Char} (fits : v.1.depth ≤ maxDepth)
    (hd : ∀ x ∈ v.1.doubles, x.ReadsBack) (stop : Literal.StopsAt rest)
    (blank : tokens rest = []) : read (print style 0 v.1 ++ rest) = .ok v := by
  refine read_of_tokens fits ?_
  rw [tokens_print style 0 v.1 rest hd stop, blank, List.append_nil]

/-- The same for the text of a tree on its own, which is how payloads and fields are compared. -/
theorem read_render {style : Style} {v : Value} (fits : v.1.depth ≤ maxDepth)
    (hd : ∀ x ∈ v.1.doubles, x.ReadsBack) : read (render style v).toList = .ok v := by
  rw [render, String.toList_ofList, ← List.append_nil (print _ _ _)]
  exact read_print fits hd Literal.stopsAt_nil tokens_nil

end Json

/-- A double is read back if its text is scanned as a literal that stands for it. For a given double
both hypotheses are computations on short texts. -/
theorem Double.readsBack_of_scan {x : Double} {l : Json.Literal}
    (text : Json.Literal.scan (Json.Number.doubleText x) = .ok (l, []))
    (value : l.value? = some (.double x)) : x.ReadsBack := by
  have found : Json.Lexeme.scanNumber (Json.Number.doubleText x) =
      .ok (.scalar ⟨.number (.double x), trivial⟩, []) := by
    rw [Json.Lexeme.scanNumber, text]
    simp only [value]
  refine Json.read_of_tokens (Nat.zero_le _) ?_
  cases eq : Json.Number.doubleText x with
  | nil =>
    rw [eq] at found
    contradiction
  | cons c cs =>
    rw [eq] at found
    -- The text is one lexeme, and nothing is behind it.
    obtain ⟨space, scanned⟩ := Json.Lexeme.scan_of_scanNumber found
    rw [Json.tokens_scan space scanned, Json.tokens_nil]
    rfl

end TemplateCoverage
