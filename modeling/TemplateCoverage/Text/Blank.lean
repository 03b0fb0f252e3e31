/-!
# `TemplateCoverage.Text.Blank`: blank characters and trimming

Blank characters are those of the Unicode property `White_Space`. Main statements:

* `isBlank_of_isWhitespace`: the blank characters of ASCII text are among them;
* `trim_eq_of_ends`: a text that neither starts nor ends with a blank is left as it is.
-/

set_option autoImplicit false

namespace TemplateCoverage.Text

/-- Whether a character has the Unicode property `White_Space`. -/
def isBlank (c : Char) : Bool :=
  ('\t' ≤ c && c ≤ '\r') || c == ' ' || c == '\u0085' || c == '\u00a0' || c == '\u1680' ||
    ('\u2000' ≤ c && c ≤ '\u200a') || c == '\u2028' || c == '\u2029' || c == '\u202f' ||
    c == '\u205f' || c == '\u3000'

/-- The text without the blanks at its two ends. -/
def trim (s : String) : String :=
  String.ofList ((s.toList.dropWhile isBlank).reverse.dropWhile isBlank).reverse

/-- The text without the blanks at its two ends and with the letters of ASCII in lower case. -/
def cleaned (s : String) : String := String.ofList ((trim s).toList.map Char.toLower)

theorem isBlank_of_isWhitespace {c : Char} (h : c.isWhitespace) : isBlank c := by
  simp only [Char.isWhitespace, Bool.or_eq_true, decide_eq_true_eq] at h
  rcases h with ((rfl | rfl) | rfl) | rfl <;> decide

private theorem dropWhile_eq_self {p : Char → Bool} {l : List Char}
    (h : ∀ c ∈ l.head?, p c = false) : l.dropWhile p = l := by
  cases l with
  | nil => rfl
  | cons c l => simp [List.dropWhile, h c (by simp)]

theorem trim_eq_of_ends {s : String} (head : ∀ c ∈ s.toList.head?, isBlank c = false)
    (last : ∀ c ∈ s.toList.getLast?, isBlank c = false) : trim s = s := by
  have hl : ∀ c ∈ s.toList.reverse.head?, isBlank c = false := by simpa using last
  rw [trim, dropWhile_eq_self head, dropWhile_eq_self hl, List.reverse_reverse,
    String.ofList_toList]

end TemplateCoverage.Text
