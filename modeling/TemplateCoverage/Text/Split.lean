/-!
# `TemplateCoverage.Text.Split`: splitting a text at a mark

A text is cut at every occurrence of a mark into its fields, of which some may be empty. Main
statements:

* `length_splitChars`: there is one field more than there are marks;
* `not_mem_of_mem_splitChars`: no field holds the mark.
-/

set_option autoImplicit false

namespace TemplateCoverage.Text

/-- The fields between the marks. -/
def splitChars (mark : Char) : List Char → List (List Char)
  | [] => [[]]
  | c :: rest =>
    if c = mark then [] :: splitChars mark rest
    else
      match splitChars mark rest with
      | [] => [[c]]
      | field :: fields => (c :: field) :: fields

/-- The fields of a text that are not empty. -/
def words (mark : Char) (s : String) : List String :=
  ((splitChars mark s.toList).filter (!·.isEmpty)).map String.ofList

/-- There is one field more than there are marks. -/
theorem length_splitChars (mark : Char) (cs : List Char) :
    (splitChars mark cs).length = cs.count mark + 1 := by
  induction cs with
  | nil => rfl
  | cons c rest ih =>
    simp only [splitChars]
    split
    · rename_i eq
      simp [eq, ih]
    · rename_i ne
      split
      · rename_i none
        simp [none] at ih
      · rename_i some
        rw [some] at ih
        simpa [List.count_cons, ne] using ih

/-- No field holds the mark. -/
theorem not_mem_of_mem_splitChars {mark : Char} {cs field : List Char}
    (h : field ∈ splitChars mark cs) : mark ∉ field := by
  induction cs generalizing field with
  | nil => simp_all [splitChars]
  | cons c rest ih =>
    simp only [splitChars] at h
    split at h
    · rcases List.mem_cons.1 h with rfl | h
      · simp
      · exact ih h
    · rename_i ne
      split at h
      · simp only [List.mem_singleton] at h
        simp [h, Ne.symm ne]
      · rename_i first fields some
        rcases List.mem_cons.1 h with rfl | h
        · have free : mark ∉ first := ih (by simp [some])
          simp [free, Ne.symm ne]
        · exact ih (by simp [some, h])

end TemplateCoverage.Text
