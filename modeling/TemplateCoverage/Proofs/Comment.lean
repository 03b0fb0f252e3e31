import TemplateCoverage.Comment
import TemplateCoverage.Proofs.Json.Number

/-!
# `TemplateCoverage.Proofs.Comment`: comments and JSON texts

The reader of JSON and the search for comments cut a text at the same quotes: what the one takes as
a text, escapes included, the other takes as a literal. Outside its texts JSON has no quote and no
slash, so there is nothing in it that could start a comment. The theorems:

* `units_scanText`: what the reader of JSON takes as a text is made of plain characters and escapes;
* `strip_eq_self_of_read`: a text that is read as JSON is left as it is;
* `strip_line`: of a line comment only its line end is left;
* `strip_block`: of a block comment only its line ends are left.
-/

set_option autoImplicit false

namespace TemplateCoverage.Comment

open Json (Lexeme State)

/-! ### Literals -/

/-- Characters inside a literal: whatever follows them, the literal goes on behind them. So literals
can be looked at part by part. -/
def Inside (taken : List Char) : Prop :=
  ∀ tail, literal? (taken ++ tail) = (literal? tail).map fun r => (taken ++ r.1, r.2)

/-- No characters at all are inside a literal. It is the start of every part of one. -/
theorem Inside.nil : Inside [] := fun tail => by
  cases h : literal? tail <;> simp [h]

/-- Characters inside a literal may follow one another, so that a part of a text can be built up
unit by unit. -/
theorem Inside.append {as bs : List Char} (ha : Inside as) (hb : Inside bs) :
    Inside (as ++ bs) := fun tail => by
  rw [List.append_assoc, ha, hb, Option.map_map]
  refine congrArg (Option.map · _) (funext fun r => ?_)
  simp

/-- A character that is no quote and no backslash is inside a literal. -/
theorem Inside.plain {c : Char} (quote : c ≠ '"') (backslash : c ≠ '\\') :
    Inside [c] := fun tail => by
  rw [List.singleton_append, literal?]
  · rfl
  · exact quote
  · exact fun _ _ eq _ => backslash eq
  · exact fun eq _ => backslash eq

/-- An escape is inside a literal, whatever it escapes, as long as it is in the same line. -/
theorem Inside.escape {c : Char} (newline : c ≠ '\n') : Inside ['\\', c] := fun tail => by
  rw [List.cons_append, List.singleton_append, literal?, if_neg newline]
  rfl

/-- Characters and whole escapes, each escape of a character of some kind. Which kind it is differs
between JSON and the search for comments. -/
inductive Units (P : Char → Prop) : List Char → Prop where
  | nil : Units P []
  | plain {c : Char} {cs : List Char} (quote : c ≠ '"') (backslash : c ≠ '\\')
    (rest : Units P cs) : Units P (c :: cs)
  | escape {c : Char} {cs : List Char} (escaped : P c) (rest : Units P cs) :
    Units P ('\\' :: c :: cs)

/-- Units may follow one another. The two escapes of a pair of halves are put together in this way.
-/
theorem Units.append {P : Char → Prop} {as bs : List Char} (ha : Units P as) (hb : Units P bs) :
    Units P (as ++ bs) := by
  induction ha with
  | nil => exact hb
  | plain quote backslash rest ih => exact .plain quote backslash ih
  | escape escaped rest ih => exact .escape escaped ih

/-- Units are inside a literal if no line end is escaped in them. -/
theorem Units.inside {P : Char → Prop} {cs : List Char} (units : Units P cs)
    (oneLine : ∀ c, P c → c ≠ '\n') : Inside cs := by
  -- Unit by unit, as `Inside` goes on behind each of them.
  induction units with
  | nil => exact .nil
  | plain quote backslash rest ih => exact (Inside.plain quote backslash).append ih
  | escape escaped rest ih => exact (Inside.escape (oneLine _ escaped)).append ih

/-- The characters that can be escaped in a JSON text. A line end is none of them. -/
def isEscapable (c : Char) : Bool := c ∈ ['"', '\\', '/', 'b', 'f', 'n', 'r', 't', 'u']

/-- What JSON takes as a part of a text, as far as comments are concerned. -/
abbrev TextUnits (cs : List Char) : Prop := Units (isEscapable ·) cs

/-- A hexadecimal digit is a character like any other: neither a quote, which could end the literal,
nor a backslash. -/
theorem TextUnits.hexDigit {c : Char} {d : Nat} {cs : List Char} (h : Lexeme.hexDigit? c = some d)
    (rest : TextUnits cs) : TextUnits (c :: cs) := by
  have quote : Lexeme.hexDigit? '"' = none := by decide
  have backslash : Lexeme.hexDigit? '\\' = none := by decide
  refine .plain ?_ ?_ rest
  · rintro rfl
    simp [quote] at h
  · rintro rfl
    simp [backslash] at h

/-- Four hexadecimal digits are plain characters, and what is left behind them is what the reader of
JSON goes on with. -/
theorem units_hexUnit {cs rest : List Char} {unit : Nat}
    (h : Lexeme.hexUnit cs = .ok (unit, rest)) :
    ∃ taken, taken ++ rest = cs ∧ TextUnits taken := by
  unfold Lexeme.hexUnit at h
  split at h
  · rename_i a b c d tail
    split at h
    · rename_i ha hb hc hd
      simp only [Except.ok.injEq, Prod.mk.injEq] at h
      exact ⟨[a, b, c, d], by simp [← h.2], .hexDigit ha (.hexDigit hb (.hexDigit hc (.hexDigit hd
        .nil)))⟩
    · contradiction
  · contradiction

/-- The second half of a pair is an escape of its own with four digits. -/
theorem units_trailUnit {lead : Nat} {cs rest : List Char} {c : Char}
    (h : Lexeme.trailUnit lead cs = .ok (c, rest)) :
    ∃ taken, taken ++ rest = cs ∧ TextUnits taken := by
  unfold Lexeme.trailUnit at h
  split at h
  · rename_i tail
    split at h
    · rename_i found
      obtain ⟨taken, eq, units⟩ := units_hexUnit found
      split at h
      · simp only [Except.ok.injEq, Prod.mk.injEq] at h
        exact ⟨'\\' :: 'u' :: taken, by simp [← h.2, eq], .escape (by decide) units⟩
      · contradiction
    · contradiction
  · contradiction
  · contradiction

/-- An escape and its backslash are a part of a text. The escape of a pair is two of them. -/
theorem units_escape {cs rest : List Char} {c : Char}
    (h : Lexeme.escape cs = .ok (c, rest)) :
    ∃ taken, taken ++ rest = cs ∧ TextUnits ('\\' :: taken) := by
  have simple {e : Char} {tail : List Char} (escapable : isEscapable e) (eq : tail = rest) :
      ∃ taken, taken ++ rest = e :: tail ∧ TextUnits ('\\' :: taken) :=
    ⟨[e], by simp [eq], .escape escapable .nil⟩
  cases cs with
  | nil => contradiction
  | cons e tail =>
    simp only [Lexeme.escape] at h
    split at h
    case h_9 =>
      split at h
      · rename_i unit tail' found
        obtain ⟨first, eq, units⟩ := units_hexUnit found
        split at h
        · contradiction
        · split at h
          -- The first half of a pair is followed by an escape of its own.
          · obtain ⟨second, eq', units'⟩ := units_trailUnit h
            exact ⟨'u' :: (first ++ second), by simp [← eq, ← eq'],
              .escape (by decide) (units.append units')⟩
          · simp only [Except.ok.injEq, Prod.mk.injEq] at h
            exact ⟨'u' :: first, by simp [← eq, h.2], .escape (by decide) units⟩
      · contradiction
    case h_10 => contradiction
    all_goals
      simp only [Except.ok.injEq, Prod.mk.injEq] at h
      exact simple (by decide) h.2

/-- What is read as a text goes up to the closing quote. In front of it there are units, so that no
quote in them is taken for the closing one. -/
theorem units_scanText {read cs rest : List Char} {s : String}
    (h : Lexeme.scanText read cs = .ok (s, rest)) :
    ∃ taken, taken ++ '"' :: rest = cs ∧ TextUnits taken := by
  fun_induction Lexeme.scanText read cs with
  | case1 => contradiction
  | case2 read cs =>
    simp only [Except.ok.injEq, Prod.mk.injEq] at h
    exact ⟨[], by simp [h.2], .nil⟩
  | case3 read cs d rest' found _ ih =>
    obtain ⟨escaped, eq, units⟩ := units_escape found
    obtain ⟨taken, eq', units'⟩ := ih h
    exact ⟨'\\' :: escaped ++ taken, by simp [eq, eq'], units.append units'⟩
  | case4 => contradiction
  | case5 => contradiction
  | case6 read c cs quote backslash control ih =>
    obtain ⟨taken, eq, units⟩ := ih h
    exact ⟨c :: taken, by simp [eq], .plain quote backslash units⟩

/-- What is read as a text is a literal, and ends at the same quote. The other direction does not
hold, as a literal may span lines. -/
theorem literal?_of_scanText {cs rest : List Char} {s : String}
    (h : Lexeme.scanText [] cs = .ok (s, rest)) :
    ∃ text, literal? cs = some (text, rest) := by
  obtain ⟨taken, eq, units⟩ := units_scanText h
  have inside : Inside taken := units.inside fun c escapable => by
    rintro rfl
    exact absurd escapable (by decide)
  exact ⟨taken ++ ['"'], by rw [← eq, inside]; rfl⟩

/-! ### Texts without comments -/

/-- Nothing is left of nothing, where every induction along a text ends. -/
theorem strip_nil : strip [] = [] := by
  rw [strip, pieces, List.flatMap_nil]

/-- What is left of a text is what its first piece leaves and what is left of the rest. -/
theorem strip_cons (c : Char) (rest : List Char) :
    strip (c :: rest) = (first c rest).1.kept ++ strip (first c rest).2 := by
  rw [strip, pieces, List.flatMap_cons, strip]

/-- A text starts with characters that stay, whatever becomes of the rest. So that a text stays can
be shown from its start, lexeme by lexeme. -/
def Stays (cs rest : List Char) : Prop :=
  ∃ taken, taken ++ rest = cs ∧ strip cs = taken ++ strip rest

/-- No characters at all stay, as for the word of a constant that has ended. -/
theorem Stays.refl (cs : List Char) : Stays cs cs := ⟨[], rfl, rfl⟩

/-- Characters that stay may follow one another: what is left of the first ones is where the next
ones are looked for. -/
theorem Stays.trans {as bs cs : List Char} (h₁ : Stays as bs) (h₂ : Stays bs cs) : Stays as cs := by
  obtain ⟨first, rfl, hf⟩ := h₁
  obtain ⟨second, rfl, hs⟩ := h₂
  exact ⟨first ++ second, List.append_assoc _ _ _, by rw [hf, hs, List.append_assoc]⟩

/-- Neither a literal nor a comment starts with the character. In JSON these are all but quotes, as
no slash stands outside of its texts. -/
def isPlain (c : Char) : Bool := c != '"' && c != '/'

/-- Such a character is a piece of its own, whatever follows it. -/
theorem first_plain {c : Char} (plain : isPlain c) (rest : List Char) :
    first c rest = (.char c, rest) := by
  unfold first
  split <;> first | rfl | exact absurd plain (by decide)

/-- So it stays, and the search for comments goes on behind it. -/
theorem stays_plain {c : Char} {rest : List Char} (plain : isPlain c) : Stays (c :: rest) rest :=
  ⟨[c], rfl, by rw [strip_cons, first_plain plain]; rfl⟩

/-- And so do such characters in a row, by induction along them. -/
theorem stays_append {taken rest : List Char} (plain : ∀ c ∈ taken, isPlain c) :
    Stays (taken ++ rest) rest := by
  induction taken with
  | nil => exact Stays.refl rest
  | cons c taken ih =>
    exact (stays_plain (plain c (by simp))).trans (ih fun d hd => plain d (by simp [hd]))

/-- A literal stays as a whole, whatever comment marks there are in it. -/
theorem stays_literal {rest rest' text : List Char} (h : literal? rest = some (text, rest')) :
    Stays ('"' :: rest) rest' := by
  have piece : first '"' rest = (.literal ('"' :: text), rest') := by
    simp only [first, h]
  refine ⟨'"' :: text, by rw [List.cons_append, literal?_append h], ?_⟩
  rw [strip_cons, piece]
  rfl

/-- The characters of numbers start no comment, so that a number stays as it is. -/
theorem isPlain_of_isPart {c : Char} (part : Json.Literal.isPart c) : isPlain c := by
  simp only [isPlain, Bool.and_eq_true, bne_iff_ne]
  constructor <;> rintro rfl <;> exact absurd part (by decide)

/-- Neither does a space: blanks between the lexemes of JSON stay. -/
theorem isPlain_of_isSpace {c : Char} (space : Json.isSpace c) : isPlain c := by
  simp only [isPlain, Bool.and_eq_true, bne_iff_ne]
  constructor <;> rintro rfl <;> exact absurd space (by decide)

/-- A word stays, as none of its characters starts a comment. The induction is along the word as the
reader compares it. -/
theorem stays_scanWord {word cs rest : List Char} (plain : ∀ c ∈ word, isPlain c)
    (h : Lexeme.scanWord word cs = .ok rest) : Stays cs rest := by
  fun_induction Lexeme.scanWord word cs with
  | case1 cs =>
    simp only [Except.ok.injEq] at h
    exact h ▸ Stays.refl cs
  | case2 => contradiction
  | case3 word c cs ih =>
    exact (stays_plain (plain c (by simp))).trans (ih (fun d hd => plain d (by simp [hd])) h)
  | case4 => contradiction

/-- And so does a constant, which is a character and a word. The three constants of JSON have
letters only. -/
theorem stays_scanConstant {value : Json.Value} {c : Char} {word cs rest : List Char} {l : Lexeme}
    (plain : ∀ d ∈ c :: word, isPlain d) (h : Lexeme.scanConstant value word cs = .ok (l, rest)) :
    Stays (c :: cs) rest := by
  unfold Lexeme.scanConstant at h
  split at h
  · rename_i found
    simp only [Except.ok.injEq, Prod.mk.injEq] at h
    rw [← h.2]
    exact (stays_plain (plain c (by simp))).trans
      (stays_scanWord (fun d hd => plain d (by simp [hd])) found)
  · contradiction

/-- Every lexeme of JSON stays: punctuation, texts, constants and numbers alike. What is left behind
the lexeme is the same for the reader and for the search. -/
theorem stays_scan {c : Char} {cs rest : List Char} {l : Lexeme}
    (h : Lexeme.scan c cs = .ok (l, rest)) : Stays (c :: cs) rest := by
  unfold Lexeme.scan at h
  split at h
  · rename_i mark found
    simp only [Except.ok.injEq, Prod.mk.injEq] at h
    rw [← h.2]
    refine stays_plain ?_
    unfold Lexeme.punctuation? at found
    split at found <;> first | rfl | contradiction
  · split at h
    · -- Texts are the only lexemes in which comment marks may stand, and they are literals.
      rename_i quote
      split at h
      · rename_i found
        simp only [Except.ok.injEq, Prod.mk.injEq] at h
        obtain ⟨text, literal⟩ := literal?_of_scanText found
        rw [← h.2, quote]
        exact stays_literal literal
      · contradiction
    · split at h
      · exact stays_scanConstant (by simp_all; decide) h
      · split at h
        · exact stays_scanConstant (by simp_all; decide) h
        · split at h
          · exact stays_scanConstant (by simp_all; decide) h
          · split at h
            · -- A number needs no look at its parts: it is characters of a literal in a row.
              obtain ⟨taken, eq, parts⟩ := (Lexeme.takes_scanNumber h).1
              rw [← eq]
              exact stays_append fun d hd => isPlain_of_isPart (parts d hd)
            · contradiction

/-- If the rest is left as it is and what is in front of it stays, all of it is left as it is. -/
theorem Stays.strip_eq {cs rest : List Char} (stays : Stays cs rest) (same : strip rest = rest) :
    strip cs = cs := by
  obtain ⟨taken, rfl, eq⟩ := stays
  rw [eq, same]

/-- What stays in front of a rest is known if the rest is. -/
theorem Stays.strip_append {taken rest : List Char} (stays : Stays (taken ++ rest) rest) :
    strip (taken ++ rest) = taken ++ strip rest := by
  obtain ⟨kept, eq, stripped⟩ := stays
  rw [stripped, List.append_cancel_right eq]

/-- A character that starts no comment stays in front of what is left of the rest. -/
theorem strip_plain {c : Char} {rest : List Char} (plain : isPlain c) :
    strip (c :: rest) = c :: strip rest := by
  show strip ([c] ++ rest) = [c] ++ strip rest
  exact (stays_plain plain).strip_append

/-- What the reader gets through is left as it is. The induction is along its lexemes, since
comments are searched for between them. -/
theorem strip_eq_self_of_foldlM_step (line : Nat) {cs : List Char} {state final : State}
    (h : (Json.tokens cs).foldlM State.step state = .ok final) : strip cs = cs := by
  fun_induction Json.lexemes line cs generalizing state with
  | case1 => exact strip_nil
  | case2 line c rest space ih =>
    rw [Json.tokens_space space] at h
    exact (stays_plain (isPlain_of_isSpace space)).strip_eq (ih h)
  | case3 line c rest space lexeme rest' found ih =>
    obtain ⟨l, tail, next, found', -, after⟩ :=
      Json.exists_scan_of_foldlM_step (Bool.not_eq_true _ ▸ space) h
    rw [found] at found'
    simp only [Except.ok.injEq, Prod.mk.injEq] at found'
    obtain ⟨-, rfl⟩ := found'
    exact (stays_scan found).strip_eq (ih after)
  -- A broken lexeme would have stopped the reader.
  | case4 line c rest space broken found =>
    obtain ⟨l, tail, next, found', -, -⟩ :=
      Json.exists_scan_of_foldlM_step (Bool.not_eq_true _ ▸ space) h
    rw [found] at found'
    contradiction

/-- A text without broken lexemes is left as it is, whether or not it can be read. -/
theorem strip_eq_self_of_not_isBroken (line : Nat) {cs : List Char}
    (whole : ∀ l ∈ Json.tokens cs, ¬l.isBroken) : strip cs = cs := by
  fun_induction Json.lexemes line cs with
  | case1 => exact strip_nil
  | case2 line c rest space ih =>
    rw [Json.tokens_space space] at whole
    exact (stays_plain (isPlain_of_isSpace space)).strip_eq (ih whole)
  | case3 line c rest space lexeme rest' found ih =>
    rw [Json.tokens_scan (Bool.not_eq_true _ ▸ space) found] at whole
    exact (stays_scan found).strip_eq (ih (List.forall_mem_cons.1 whole).2)
  | case4 line c rest space broken found =>
    rw [Json.tokens_broken (Bool.not_eq_true _ ▸ space) found] at whole
    exact absurd (Json.isBroken_of_scan found) (whole broken List.mem_cons_self)

/-- A text that is read as JSON is left as it is. So stripping comments harms no document that has
none. -/
theorem strip_eq_self_of_read {cs : List Char} {v : Json.Value} (h : Json.read cs = .ok v) :
    strip cs = cs :=
  strip_eq_self_of_foldlM_step 1 (Json.read_eq_ok_iff.1 h)

/-! ### Line comments -/

/-- Of a line comment only its line end is left, whatever marks and quotes are in it. -/
theorem strip_line {text rest : List Char} (oneLine : '\n' ∉ text) :
    strip ('/' :: '/' :: (text ++ '\n' :: rest)) = '\n' :: strip rest := by
  have inLine : ∀ c ∈ text, (c != '\n') = true := fun c hc => by
    rw [bne_iff_ne]
    rintro rfl
    exact oneLine hc
  have taken : (text ++ '\n' :: rest).takeWhile (· != '\n') = text := by
    rw [List.takeWhile_append_of_pos inLine]
    simp
  have left : (text ++ '\n' :: rest).dropWhile (· != '\n') = '\n' :: rest := by
    rw [List.dropWhile_append_of_pos inLine]
    simp
  have dropped : text.filter (· == '\n') = [] := by
    rw [List.filter_eq_nil_iff]
    intro c hc
    simpa using inLine c hc
  have stays : Stays ('\n' :: rest) rest := stays_plain rfl
  -- The line end is no part of the comment and stays.
  obtain ⟨newline, eq, kept⟩ := stays
  rw [strip_cons]
  simp only [first, taken, left, Piece.kept, List.filter_cons, dropped, kept]
  rw [List.append_cancel_right (eq.trans (List.singleton_append (l := rest)).symm)]
  rfl

/-! ### Block comments -/

/-- A block comment goes up to the first end mark, so that it has none inside. -/
theorem block?_append_of_not_infix {body : List Char} (rest : List Char)
    (open_body : ¬['*', '/'] <:+: body) :
    block? (body ++ '*' :: '/' :: rest) = some (body ++ ['*', '/'], rest) := by
  induction body with
  | nil => rfl
  | cons c body ih =>
    -- The rest of the body has no end mark either.
    have inner : ¬['*', '/'] <:+: body := fun mark =>
      open_body (mark.trans (List.suffix_cons c body).isInfix)
    -- A star in the block is followed by no slash.
    have unmarked : ∀ tail, c = '*' → body ++ '*' :: '/' :: rest ≠ '/' :: tail := by
      intro tail star eq
      cases body with
      | nil => simp at eq
      | cons d body =>
        simp only [List.cons_append, List.cons.injEq] at eq
        exact open_body ⟨[], body, by rw [star, eq.1]; rfl⟩
    rw [List.cons_append, block?, ih inner]
    · rfl
    · exact fun tail star eq => unmarked tail star eq

/-- Of a block comment only its line ends are left, so that what follows stays on its line. -/
theorem strip_block {body rest : List Char} (open_body : ¬['*', '/'] <:+: body) :
    strip ('/' :: '*' :: (body ++ '*' :: '/' :: rest)) =
      body.filter (· == '\n') ++ strip rest := by
  rw [strip_cons]
  simp [first, block?_append_of_not_infix rest open_body, Piece.kept]

end TemplateCoverage.Comment
