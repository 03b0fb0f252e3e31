import TemplateCoverage.Json

/-!
# `TemplateCoverage.Json.Lexeme`: the lexemes of JSON texts

A text is read into its lexemes, each with the line it starts on. A malformed lexeme ends the list
and tells how many line ends were consumed up to the character at fault, that character included.
Main statements:

* `lexemes_blank`, `lexemes_newline`: white space separates lexemes and leaves nothing else behind.
-/

set_option autoImplicit false

namespace TemplateCoverage.Json

/-- The smallest parts of a JSON text. -/
inductive Lexeme where
  | beginArray
  | endArray
  | beginObject
  | endObject
  | comma
  | colon
  | text (s : String)
  /-- A constant or a number. -/
  | scalar (v : Value)
  | brokenText (lines : Nat)
  | brokenScalar (lines : Nat)
  /-- A character that starts no lexeme. -/
  | stray

namespace Lexeme

open Literal (lineEnds headLineEnds)

/-! ### Texts -/

/-- The value of a hexadecimal digit. -/
def hexDigit? (c : Char) : Option Nat :=
  if '0' ≤ c ∧ c ≤ '9' then some (c.toNat - '0'.toNat)
  else if 'a' ≤ c ∧ c ≤ 'f' then some (c.toNat - 'a'.toNat + 10)
  else if 'A' ≤ c ∧ c ≤ 'F' then some (c.toNat - 'A'.toNat + 10)
  else none

/-- The line ends among the characters that start within a number of UTF-8 bytes. -/
def lineEndsWithin (bytes : Nat) : List Char → Nat
  | [] => 0
  | c :: rest =>
    if bytes = 0 then 0 else lineEnds c + lineEndsWithin (bytes - c.utf8Size) rest

/-- A unit of four hexadecimal digits, which is consumed as four bytes. -/
def hexUnit (cs : List Char) : Except Nat (Nat × List Char) :=
  match cs with
  | a :: b :: c :: d :: rest =>
    match hexDigit? a, hexDigit? b, hexDigit? c, hexDigit? d with
    | some a, some b, some c, some d => .ok (((a * 16 + b) * 16 + c) * 16 + d, rest)
    | _, _, _, _ => .error (lineEndsWithin 4 cs)
  | _ => .error (lineEndsWithin 4 cs)

/-- Whether a unit is the first half of a pair. -/
def isLead (unit : Nat) : Bool := 0xD800 ≤ unit && unit ≤ 0xDBFF

/-- Whether a unit is the second half of a pair. -/
def isTrail (unit : Nat) : Bool := 0xDC00 ≤ unit && unit ≤ 0xDFFF

/-- The character of a pair of units. -/
def pairChar (lead trail : Nat) : Char :=
  Char.ofNat (0x10000 + (lead - 0xD800) * 0x400 + (trail - 0xDC00))

/-- The second half of a pair, an escape of its own, and the character of the pair. -/
def trailUnit (lead : Nat) : List Char → Except Nat (Char × List Char)
  | '\\' :: 'u' :: rest =>
    match hexUnit rest with
    | .ok (trail, rest) => if isTrail trail then .ok (pairChar lead trail, rest) else .error 0
    | .error lines => .error lines
  | '\\' :: rest => .error (headLineEnds rest)
  | rest => .error (headLineEnds rest)

/-- What an escape stands for, read after its backslash. -/
def escape : List Char → Except Nat (Char × List Char)
  | [] => .error 0
  | c :: rest =>
    match c with
    | '"' => .ok ('"', rest)
    | '\\' => .ok ('\\', rest)
    | '/' => .ok ('/', rest)
    | 'b' => .ok ('\x08', rest)
    | 'f' => .ok ('\x0c', rest)
    | 'n' => .ok ('\n', rest)
    | 'r' => .ok ('\r', rest)
    | 't' => .ok ('\t', rest)
    | 'u' =>
      match hexUnit rest with
      | .ok (unit, rest) =>
        if isTrail unit then .error 0
        else if isLead unit then trailUnit unit rest
        else .ok (Char.ofNat unit, rest)
      | .error lines => .error lines
    | c => .error (lineEnds c)

theorem hexUnit_length {cs rest : List Char} {unit : Nat}
    (h : hexUnit cs = .ok (unit, rest)) : rest.length < cs.length := by
  unfold hexUnit at h
  split at h
  · split at h
    · simp only [Except.ok.injEq, Prod.mk.injEq] at h
      simp [← h.2]
      omega
    · simp at h
  · simp at h

theorem trailUnit_length {lead : Nat} {cs rest : List Char} {c : Char}
    (h : trailUnit lead cs = .ok (c, rest)) : rest.length < cs.length := by
  unfold trailUnit at h
  split at h
  · split at h
    · rename_i found
      have := hexUnit_length found
      split at h <;> simp_all
      omega
    · simp at h
  · simp at h
  · simp at h

theorem escape_length {cs rest : List Char} {c : Char}
    (h : escape cs = .ok (c, rest)) : rest.length < cs.length := by
  cases cs with
  | nil => simp [escape] at h
  | cons d cs =>
    simp only [escape] at h
    split at h <;> try simp_all
    split at h
    · rename_i found
      have := hexUnit_length found
      split at h
      · simp at h
      · split at h
        · have := trailUnit_length h
          omega
        · simp_all
          omega
    · simp at h

/-- The characters of a text, read after its opening quote, in reverse in front of those given. -/
def scanText (read : List Char) (cs : List Char) : Except Nat (String × List Char) :=
  match cs with
  | [] => .error 0
  | c :: rest =>
    if c = '"' then .ok (String.ofList read.reverse, rest)
    else if c = '\\' then
      match _found : escape rest with
      | .ok (d, rest') => scanText (d :: read) rest'
      | .error lines => .error lines
    else if c < ' ' then .error (lineEnds c)
    else scanText (c :: read) rest
termination_by cs.length
decreasing_by
  · have := escape_length _found
    simp only [List.length_cons]
    omega
  · simp

theorem scanText_length {read cs rest : List Char} {s : String}
    (h : scanText read cs = .ok (s, rest)) : rest.length < cs.length := by
  fun_induction scanText read cs with
  | case1 => simp at h
  | case2 => simp_all
  | case3 _ _ _ _ found _ ih =>
    have := ih h
    have := escape_length found
    simp only [List.length_cons]
    omega
  | case4 => simp at h
  | case5 => simp at h
  | case6 read c cs _ _ _ ih =>
    have := ih h
    simp only [List.length_cons]
    omega

/-! ### Constants and numbers -/

/-- The rest of a text after a word that it has to start with. -/
def scanWord : List Char → List Char → Except Nat (List Char)
  | [], cs => .ok cs
  | _ :: _, [] => .error 0
  | w :: word, c :: cs => if c = w then scanWord word cs else .error (lineEnds c)

theorem scanWord_length {word cs rest : List Char}
    (h : scanWord word cs = .ok rest) : rest.length ≤ cs.length := by
  fun_induction scanWord word cs with
  | case1 => simp_all
  | case2 => simp at h
  | case3 _ _ _ ih =>
    have := ih h
    simp only [List.length_cons]
    omega
  | case4 => simp at h

/-- A constant spelled out after its first letter. -/
def scanConstant (value : Value) (word cs : List Char) : Except Lexeme (Lexeme × List Char) :=
  match scanWord word cs with
  | .ok rest => .ok (.scalar value, rest)
  | .error lines => .error (.brokenScalar lines)

/-- A number; one that is too large for a double is malformed. -/
def scanNumber (cs : List Char) : Except Lexeme (Lexeme × List Char) :=
  match Literal.scan cs with
  | .ok (literal, rest) =>
    match literal.value? with
    | some n => .ok (.scalar ⟨.number n, trivial⟩, rest)
    | none => .error (.brokenScalar 0)
  | .error lines => .error (.brokenScalar lines)

/-- The punctuation mark of a character. -/
def punctuation? (c : Char) : Option Lexeme :=
  match c with
  | '[' => some .beginArray
  | ']' => some .endArray
  | '\x7b' => some .beginObject
  | '\x7d' => some .endObject
  | ',' => some .comma
  | ':' => some .colon
  | _ => none

/-- The lexeme that starts with a character, and the text after it. -/
def scan (c : Char) (rest : List Char) : Except Lexeme (Lexeme × List Char) :=
  match punctuation? c with
  | some mark => .ok (mark, rest)
  | none =>
    if c = '"' then
      match scanText [] rest with
      | .ok (s, rest) => .ok (.text s, rest)
      | .error lines => .error (.brokenText lines)
    else if c = 'n' then scanConstant Value.null ['u', 'l', 'l'] rest
    else if c = 't' then scanConstant (Value.bool true) ['r', 'u', 'e'] rest
    else if c = 'f' then scanConstant (Value.bool false) ['a', 'l', 's', 'e'] rest
    else if c = '-' ∨ c.isDigit then scanNumber (c :: rest)
    else .error .stray

theorem scanConstant_length {value : Value} {word cs rest : List Char} {l : Lexeme}
    (h : scanConstant value word cs = .ok (l, rest)) : rest.length ≤ cs.length := by
  unfold scanConstant at h
  split at h
  · rename_i found
    have := scanWord_length found
    simp_all
  · simp at h

theorem scanNumber_length {cs rest : List Char} {l : Lexeme}
    (h : scanNumber cs = .ok (l, rest)) : rest.length < cs.length := by
  unfold scanNumber at h
  split at h
  · rename_i found
    have := Literal.scan_length found
    split at h <;> simp_all
  · simp at h

theorem scan_length {c : Char} {cs rest : List Char} {l : Lexeme}
    (h : scan c cs = .ok (l, rest)) : rest.length ≤ cs.length := by
  unfold scan at h
  split at h
  · simp_all
  · split at h
    · split at h
      · rename_i found
        have := scanText_length found
        simp_all
        omega
      · simp at h
    · repeat' split at h
      · exact scanConstant_length h
      · exact scanConstant_length h
      · exact scanConstant_length h
      · have := scanNumber_length h
        simp only [List.length_cons] at this
        omega
      · simp at h

end Lexeme

/-! ### The lexemes of a text -/

/-- Whether a character only separates lexemes. -/
def isSpace (c : Char) : Bool := c == ' ' || c == '\t' || c == '\n' || c == '\x0d'

/-- The lexemes of a text whose first line has the number given, each with its line. -/
def lexemes (line : Nat) (cs : List Char) : List (Nat × Lexeme) :=
  match cs with
  | [] => []
  | c :: rest =>
    if isSpace c then lexemes (line + Literal.lineEnds c) rest
    else
      match _found : Lexeme.scan c rest with
      | .ok (lexeme, rest') => (line, lexeme) :: lexemes line rest'
      | .error broken => [(line, broken)]
termination_by cs.length
decreasing_by
  · simp
  · have := Lexeme.scan_length _found
    simp only [List.length_cons]
    omega

theorem lexemes_nil (line : Nat) : lexemes line [] = [] := by
  rw [lexemes]

/-- Blanks within a line leave nothing behind. -/
theorem lexemes_blank {line : Nat} {c : Char} {cs : List Char} (h : isSpace c)
    (ne : c ≠ '\n') : lexemes line (c :: cs) = lexemes line cs := by
  rw [lexemes]
  simp [h, Literal.lineEnds, ne]

/-- A line end moves what follows to the next line. -/
theorem lexemes_newline (line : Nat) (cs : List Char) :
    lexemes line ('\n' :: cs) = lexemes (line + 1) cs := by
  rw [lexemes]
  simp [isSpace, Literal.lineEnds]

/-- A lexeme stands in front of those of the text after it. -/
theorem lexemes_scan {line : Nat} {c : Char} {cs rest : List Char} {lexeme : Lexeme}
    (space : isSpace c = false) (h : Lexeme.scan c cs = .ok (lexeme, rest)) :
    lexemes line (c :: cs) = (line, lexeme) :: lexemes line rest := by
  rw [lexemes]
  simp only [space, Bool.false_eq_true, if_false]
  split <;> simp_all

end TemplateCoverage.Json
