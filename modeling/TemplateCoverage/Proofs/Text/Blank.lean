import Mathlib.Data.List.TakeWhile
import TemplateCoverage.Text.Blank

/-!
# `TemplateCoverage.Proofs.Text.Blank`: words among blanks

A text that is cleaned gives the word that stands in it between blanks, whatever the case of its
letters. The theorems:

* `exists_blanks_trim`: what trimming takes away is blank;
* `trim_eq_of_blanks`: what stands between blanks and holds none is what trimming leaves;
* `isBlank_toLower`: a blank stays one in lower case;
* `cleaned_eq_iff`: a text is cleaned to a word if and only if it spells it.
-/

set_option autoImplicit false

namespace TemplateCoverage.Text

/-- A text spells a word: there are only blanks around it, and the letters of ASCII in it are in any
case. -/
def Spells (text word : String) : Prop :=
  ∃ before letters after, text.toList = before ++ letters ++ after ∧
    (∀ c ∈ before ++ after, isBlank c) ∧ letters.map Char.toLower = word.toList

variable {s : String}

/-! ### Trimming -/

/-- What trimming takes away is blank, on either side, and what it leaves stands in between. -/
theorem exists_blanks_trim (s : String) : ∃ before after,
    s.toList = before ++ (trim s).toList ++ after ∧ ∀ c ∈ before ++ after, isBlank c := by
  let rest := s.toList.dropWhile isBlank
  have front : s.toList = s.toList.takeWhile isBlank ++ rest := List.takeWhile_append_dropWhile.symm
  have back : rest = (rest.reverse.dropWhile isBlank).reverse ++
      (rest.reverse.takeWhile isBlank).reverse := by
    rw [← List.reverse_append, List.takeWhile_append_dropWhile, List.reverse_reverse]
  refine ⟨s.toList.takeWhile isBlank, (rest.reverse.takeWhile isBlank).reverse, ?_, fun c mem => ?_⟩
  · rw [trim, String.toList_ofList, List.append_assoc, ← back]
    exact front
  · rw [List.mem_append, List.mem_reverse] at mem
    rcases mem with mem | mem <;> exact List.mem_takeWhile_imp mem

/-- Nothing is dropped from the front of letters that are no blanks. -/
theorem dropWhile_eq_of_solid {letters : List Char} (solid : ∀ c ∈ letters, isBlank c = false) :
    letters.dropWhile isBlank = letters :=
  List.dropWhile_eq_self_iff.2 fun nonempty => by simp [solid _ (List.getElem_mem nonempty)]

/-- What stands between blanks and holds none is what trimming leaves. Names have no blank inside,
so that this covers all of them. -/
theorem trim_eq_of_blanks {before letters after : List Char}
    (text : s.toList = before ++ letters ++ after) (blank : ∀ c ∈ before ++ after, isBlank c)
    (solid : ∀ c ∈ letters, isBlank c = false) : trim s = String.ofList letters := by
  obtain ⟨blankBefore, blankAfter⟩ := List.forall_mem_append.1 blank
  have front : s.toList.dropWhile isBlank = (letters ++ after).dropWhile isBlank := by
    rw [text, List.append_assoc, List.dropWhile_append_of_pos blankBefore]
  rw [trim, front]
  congr 1
  cases letters with
  | nil =>
    -- Nothing but blanks is left behind those in front.
    rw [List.nil_append, List.dropWhile_eq_nil_iff.2 blankAfter]
    rfl
  | cons c letters =>
    have start : isBlank c = false := solid c List.mem_cons_self
    have blankEnd : ∀ c ∈ after.reverse, isBlank c := fun c mem =>
      blankAfter c (List.mem_reverse.1 mem)
    have solidEnd : ∀ d ∈ (c :: letters).reverse, isBlank d = false := fun d mem =>
      solid d (List.mem_reverse.1 mem)
    rw [List.cons_append, List.dropWhile_cons_of_neg (by simp [start]), ← List.cons_append,
      List.reverse_append, List.dropWhile_append_of_pos blankEnd, dropWhile_eq_of_solid solidEnd,
      List.reverse_reverse]

/-! ### Cleaning -/

/-- A blank is no letter of ASCII, so it stays one in lower case. -/
theorem isBlank_toLower {c : Char} (blank : isBlank c) : isBlank c.toLower := by
  have capitals : ∀ code ∈ List.range' 65 26, isBlank (Char.ofNat code) = false := by decide
  have same : c.toLower = c := by
    unfold Char.toLower
    split
    · rename_i capital
      have code : c.toNat ∈ List.range' 65 26 :=
        List.mem_range'_1.2 ⟨capital.1, Nat.lt_succ_of_le capital.2⟩
      have solid := capitals _ code
      rw [Char.ofNat_toNat, blank] at solid
      contradiction
    · rfl
  rwa [same]

/-- A text is cleaned to a word if and only if it spells it. The word must have no blank, else no
text between blanks would be cut at the right place. -/
theorem cleaned_eq_iff {word : String} (solid : ∀ c ∈ word.toList, isBlank c = false) :
    cleaned s = word ↔ Spells s word := by
  constructor
  · rintro rfl
    obtain ⟨before, after, text, blank⟩ := exists_blanks_trim s
    exact ⟨before, (trim s).toList, after, text, blank, by rw [cleaned, String.toList_ofList]⟩
  · rintro ⟨before, letters, after, text, blank, lower⟩
    -- A blank among the letters would be one in the word.
    have letterSolid : ∀ c ∈ letters, isBlank c = false := by
      intro c mem
      have lowerSolid : isBlank c.toLower = false :=
        solid _ (lower ▸ List.mem_map_of_mem mem)
      exact Bool.eq_false_iff.2 fun blank => by simp [isBlank_toLower blank] at lowerSolid
    rw [cleaned, trim_eq_of_blanks text blank letterSolid, String.toList_ofList, lower,
      String.ofList_toList]

end TemplateCoverage.Text
