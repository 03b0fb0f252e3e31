import TemplateCoverage.Text.Split

/-!
# `TemplateCoverage.Files.Path`: paths

A path is a list of names between slashes, absolute if it starts with one. Two readings of it
matter: every name is followed when a file is looked up, and a name `.` is passed over when paths
are compared or their parents taken, unless it starts a relative path. Main statements:

* `Path.parent?_eq_some_iff`: a parent is what is left without the last name that counts;
* `Path.names_parent`: a parent has fewer names.
-/

set_option autoImplicit false

namespace TemplateCoverage

/-- A path. -/
structure Path where
  absolute : Bool
  names : List String
  /-- Whether a slash follows the last name. -/
  endsInSlash : Bool
  deriving DecidableEq

namespace Path

/-- The path that a text spells. -/
def parse (s : String) : Path where
  absolute := s.toList.head? == some '/'
  names := Text.words '/' s
  endsInSlash := s.toList.getLast? == some '/'

/-- The path of the directory that the program works in. -/
def here : Path := ⟨false, ["."], false⟩

/-- Whether the path is the empty one, which names nothing. -/
def isEmpty (p : Path) : Bool := !p.absolute && p.names.isEmpty

/-- The names that count when paths are compared. -/
def parts (p : Path) : List String :=
  match p.absolute, p.names with
  -- A leading `.` tells a relative path from the empty one, so it counts.
  | false, "." :: names => "." :: names.filter (· ≠ ".")
  | _, names => names.filter (· ≠ ".")

/-- Whether two paths have the same names that count. -/
def same (p q : Path) : Bool := p.absolute == q.absolute && p.parts == q.parts

/-- The path without its last part; the root and the empty path have no parent. -/
def parent? (p : Path) : Option Path :=
  if p.parts.isEmpty then none else some ⟨p.absolute, p.parts.dropLast, false⟩

/-- The text of a path. -/
def text (p : Path) : String :=
  (if p.absolute then "/" else "") ++ "/".intercalate p.names ++
    if p.endsInSlash && !p.names.isEmpty then "/" else ""

/-- The text of a file inside a directory: a slash is put between them unless the directory is empty
or ends in one. -/
def join (dir file : String) : String :=
  if dir = "" ∨ dir.toList.getLast? = some '/' then dir ++ file else dir ++ "/" ++ file

/-- A path with a last name is not the empty one. -/
theorem isEmpty_eq_false_of_concat {p : Path} {init : List String} {name : String}
    (names : p.names = init ++ [name]) : p.isEmpty = false := by
  simp [isEmpty, names]

/-- A parent is what is left without the last name that counts, so that proofs about parents need
not open `parent?`. -/
theorem parent?_eq_some_iff {p q : Path} :
    p.parent? = some q ↔ p.parts ≠ [] ∧ q = ⟨p.absolute, p.parts.dropLast, false⟩ := by
  unfold parent?
  cases p.parts with
  | nil => simp
  | cons name names => simp [eq_comm]

theorem length_parts_le (p : Path) : p.parts.length ≤ p.names.length := by
  unfold parts
  split
  · rename_i names _ eq
    have := (List.filter_sublist (l := names) (p := fun n => decide (n ≠ "."))).length_le
    simp only [eq, List.length_cons]
    omega
  · exact List.filter_sublist.length_le

/-- A parent has fewer names. -/
theorem names_parent {p q : Path} (h : p.parent? = some q) :
    q.names.length < p.names.length := by
  obtain ⟨some, rfl⟩ := parent?_eq_some_iff.1 h
  have fewer := length_parts_le p
  have positive : 0 < p.parts.length := List.length_pos_iff.2 some
  simp only [List.length_dropLast]
  omega

end Path

end TemplateCoverage
