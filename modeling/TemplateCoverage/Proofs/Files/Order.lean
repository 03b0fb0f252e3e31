import TemplateCoverage.Proofs.Files.Making

/-!
# `TemplateCoverage.Proofs.Files.Order`: the order of writes does not matter

Whether a document can be written depends on the spelling of its path, on what stands in its place
and on the files on the way to it. So a document that can be written after another one could have
been written before it, and the other one after it unless one document takes a place that the other
one needs. The theorems:

* `admits_of_write`, `Admits.exists_write`: which documents can be written;
* `get?_of_write`: what stands where after a document has been written;
* `write_comm`: two documents at different places can be written in either order;
* `Writes.perm`: any number of documents at different places can be written in any order.
-/

set_option autoImplicit false

namespace TemplateCoverage.FileTree

variable {t t' t₁ t₂ : FileTree} {place dir q : Place} {p : Path} {name : String}
  {names init : List String} {path text : String}

/-! ### The directory of a document -/

/-- A document is written in the directory that its path has as its parent, or in `.` for a name
alone and for what has no parent. -/
theorem documentDirectory_cases (p : Path) : documentDirectory p = Path.here ∨
    p.parent? = some (documentDirectory p) ∧ (documentDirectory p).isEmpty = false := by
  unfold documentDirectory
  split
  · rename_i parent above
    split
    · exact .inl rfl
    · rename_i some
      exact .inr ⟨above, Bool.eq_false_iff.2 some⟩
  · exact .inl rfl

/-- The directory that a document is written in has a tidy path, since a parent is made of the names
that count. -/
theorem tidy_documentDirectory (p : Path) : (documentDirectory p).Tidy := by
  rcases documentDirectory_cases p with here | ⟨above, _⟩
  · rw [here]
    rfl
  · obtain ⟨_, eq⟩ := Path.parent?_eq_some_iff.1 above
    rw [eq]
    exact p.tidy_parts.dropLast

/-- The directory of a well spelled document is well spelled, being its path without the last name.
-/
theorem WellSpelled.documentDirectory (good : WellSpelled p) :
    WellSpelled (documentDirectory p) := by
  rcases documentDirectory_cases p with here | ⟨above, _⟩
  · rw [here]
    exact ⟨by decide, by decide⟩
  · exact good.parent above

/-- Names that count lead to a directory where all names lead. It is the converse of `walk_filter`
and needs the directory at the end: `.` asks for one where it stands. -/
theorem walk_of_filter (walked : t.walk place (names.filter (· ≠ ".")) = .ok dir)
    (found : t.node? dir = some .directory) : t.walk place names = .ok dir := by
  induction names generalizing place with
  | nil => exact walked
  | cons name names ih =>
    have directory : t.node? place = some .directory := directory_of_walk walked found mem_way_self
    by_cases dot : name = "."
    · rw [List.filter_cons_of_neg (by simpa using dot)] at walked
      exact walk_cons_eq_ok_iff.2 ⟨directory, place, if_pos dot, ih walked⟩
    · rw [List.filter_cons_of_pos (by simpa using dot)] at walked
      obtain ⟨_, next, entered, rest⟩ := walk_cons_eq_ok_iff.1 walked
      exact walk_cons_eq_ok_iff.2 ⟨directory, next, entered, ih rest⟩

/-- The same of the names of a path that count. Dots do not, as they lead nowhere else. -/
theorem walk_of_parts (walked : t.walk place p.parts = .ok dir)
    (found : t.node? dir = some .directory) : t.walk place p.names = .ok dir := by
  unfold Path.parts at walked
  split at walked
  · rename_i names _ eq
    rw [eq]
    obtain ⟨directory, next, entered, rest⟩ := walk_cons_eq_ok_iff.1 walked
    exact walk_cons_eq_ok_iff.2 ⟨directory, next, entered, walk_of_filter rest found⟩
  · exact walk_of_filter walked found

/-- Where the directory of a document is there, so is the one that the names before the last one
lead to. These may hold `.`, which the path of the directory leaves out. -/
theorem exists_walk_of_documentDirectory
    (ends : p.names = p.names.dropLast ++ [name]) (ne : name ≠ ".")
    (there : t.isDirectory (documentDirectory p)) :
    ∃ dir, t.walk (t.origin p) p.names.dropLast = .ok dir ∧ t.node? dir = some .directory := by
  rw [documentDirectory_eq ends ne] at there
  split at there
  · rename_i none
    have walked : t.walk (t.origin p) (above p).names = .ok t.home := walk_of_isEmpty none
    exact ⟨t.home, walk_of_parts walked t.home_directory, t.home_directory⟩
  · obtain ⟨dir, located, found⟩ := isDirectory_iff.1 there
    exact ⟨dir, walk_of_parts (locate_eq_ok_iff.1 located).2.2 found, found⟩

/-- The directory of a document is never the empty path: for a name alone it is `.`. -/
theorem documentDirectory_isEmpty (p : Path) : (documentDirectory p).isEmpty = false := by
  rcases documentDirectory_cases p with here | ⟨_, some⟩
  · rw [here]
    rfl
  · exact some

/-! ### Documents that can be written -/

/-- The spelling of a path and what stands on the way and at its end let a document be written. -/
structure Admits (t : FileTree) (path : String) : Prop where
  good : WellSpelled (Path.parse path)
  no_slash : (Path.parse path).endsInSlash = false
  last : ∃ name, (Path.parse path).names = (Path.parse path).names.dropLast ++ [name] ∧
    name ≠ "." ∧ name ≠ ".."
  free : t.FreeOfFiles (t.wayTo path)
  no_directory : t.node? (t.target path) ≠ some .directory
  /-- The directories that are made do not take the place of the document. -/
  not_passed : t.target path ∉ t.wayTo path

/-- All directories on the way to a document are there once they have been made, also those that
were there before. -/
theorem directory_of_makeDirectories
    (made : t.makeDirectories (documentDirectory (Path.parse path)) = (.ok (), t₁))
    {q : Place} (mem : q ∈ t.wayTo path) : t₁.node? q = some .directory := by
  have there := isDirectory_of_makeDirectories (documentDirectory_isEmpty _) made
  obtain ⟨dir, located, found⟩ := isDirectory_iff.1 there
  rw [wayTo, ← placesOf_eq_of_home (addsDirectories_of_makeDirectories made).home] at mem
  exact directory_of_walk (locate_eq_ok_iff.1 located).2.2 found mem

/-- A document that is written can be written: each condition is read off the steps of the write. -/
theorem admits_of_write (h : t.write path text = (.ok (), t')) : t.Admits path := by
  obtain ⟨t₁, slot, free, made, ends, noSlash, _⟩ := exists_of_write h
  have adds := addsDirectories_of_makeDirectories made
  have target : t.target path = slot.place := by
    rw [← adds.target_eq, target_eq_of_locate ends.locate]
  rw [← target] at free
  have goodNames : ∀ name ∈ (Path.parse path).names, isBadName name = false :=
    good_of_walk (locate_eq_ok_iff.1 ends.locate).2.2
  refine ⟨⟨ends.good_path, goodNames⟩, noSlash, ⟨slot.name, ends.names, ends.ne_dot, ends.ne_dots⟩,
    fun q mem content found => ?_, fun found => free (adds.node?_eq_some found),
    fun passed => free (directory_of_makeDirectories made passed)⟩
  -- A file on the way would still be there.
  have there := directory_of_makeDirectories made mem
  rw [adds.node?_eq_some found] at there
  cases there

/-- A document that can be written is written, whatever its text. With `admits_of_write` the
conditions are exact, so that the order of writes can be discussed without the trees in between. -/
theorem Admits.exists_write (admits : t.Admits path) (text : String) :
    ∃ t', t.write path text = (.ok (), t') := by
  obtain ⟨name, ends, ne_dot, ne_dots⟩ := admits.last
  obtain ⟨t₁, made⟩ := exists_makeDirectories admits.good.documentDirectory
    (tidy_documentDirectory _) admits.free
  have adds := addsDirectories_of_makeDirectories made
  have there := isDirectory_of_makeDirectories (documentDirectory_isEmpty _) made
  obtain ⟨dir, walked, found⟩ :=
    exists_walk_of_documentDirectory ends ne_dot there
  have goodName : isBadName name = false := admits.good.good_names name (by rw [ends]; simp)
  let slot : t₁.Slot := ⟨dir, name, found⟩
  have endsIn : t₁.EndsIn (Path.parse path) slot :=
    ⟨admits.good.good_path, ends, walked, ne_dot, ne_dots, goodName⟩
  have free : t₁.node? slot.place ≠ some .directory := by
    rw [← target_eq_of_locate endsIn.locate, adds.target_eq]
    rcases adds.node? (t.target path) with same | ⟨passed, _, _⟩
    · rw [same]
      exact admits.no_directory
    · exact (admits.not_passed passed).elim
  exact ⟨t₁.put slot (.file (.text text)) free,
    by simp only [FileTree.write, made, endsIn.replace free admits.no_slash]⟩

/-! ### What a write leaves -/

/-- A file is in the place of a document that is written, directories are on the way to it, and the
rest is as before. -/
theorem get?_of_write (h : t.write path text = (.ok (), t')) (q : Place) :
    t'.nodes.get? q =
      if q = t.target path then some (.file (.text text))
      else if q ∈ t.wayTo path ∧ t.node? q = none then some .directory
      else t.nodes.get? q := by
  obtain ⟨t₁, slot, _, made, ends, _, rfl⟩ := exists_of_write h
  have adds := addsDirectories_of_makeDirectories made
  rw [put, SortedMap.get?_insert, ← adds.target_eq, target_eq_of_locate ends.locate]
  congr 1
  split
  · rename_i new
    have below : q ≠ [] := fun root => by
      rw [root] at new
      cases new.2
    have there := directory_of_makeDirectories made new.1
    rwa [node?, nodeAt, if_neg below] at there
  · rename_i old
    rcases adds.nodes q with same | ⟨mem, none, _⟩
    · exact same
    · exact (old ⟨mem, none⟩).elim

/-- Nothing stands at a place if it is not the root and the table has nothing for it. -/
theorem node?_eq_none_iff : t.node? q = none ↔ q ≠ [] ∧ t.nodes.get? q = none := by
  unfold node? nodeAt
  split
  · rename_i root
    simp [root]
  · rename_i below
    simp [below]

/-- Directories on the way to a document stay when the document is put in place, since it takes the
place of none. -/
theorem directory_of_write (h : t.write path text = (.ok (), t')) (mem : q ∈ t.wayTo path) :
    t'.node? q = some .directory := by
  obtain ⟨t₁, slot, free, made, ends, _, rfl⟩ := exists_of_write h
  have there := directory_of_makeDirectories made mem
  have other : q ≠ slot.place := fun eq => free (eq ▸ there)
  rw [node?_put, if_neg other, there]

/-- What is neither on the way to a document nor in its place stays as it is, be it there or not. -/
theorem node?_of_write (h : t.write path text = (.ok (), t')) (ne : q ≠ t.target path)
    (apart : q ∉ t.wayTo path) : t'.node? q = t.node? q := by
  have held : t'.nodes.get? q = t.nodes.get? q := by
    rw [get?_of_write h, if_neg ne, if_neg fun new => apart new.1]
  rw [node?, node?, nodeAt, nodeAt, held]

/-- The document is in its place after a write, with the text that was written and no other. -/
theorem file_of_write (h : t.write path text = (.ok (), t')) :
    t'.node? (t.target path) = some (.file (.text text)) := by
  obtain ⟨q, located, found, _⟩ := read_eq_ok_iff.1 (read_write h)
  rwa [← (keeps_of_write h).target_eq, target_eq_of_locate located]

variable {path' text' : String}

/-- A document that can be written after another one can be written before it. The other one has
only put things there, all of which are files or directories still. -/
theorem Admits.before_write (admits : t'.Admits path') (h : t.write path text = (.ok (), t')) :
    t.Admits path' := by
  have keeps := keeps_of_write h
  have way : t'.wayTo path' = t.wayTo path' := wayTo_eq_of_home keeps.home path'
  refine ⟨admits.good, admits.no_slash, admits.last, fun q mem content found => ?_, fun found => ?_,
    ?_⟩
  · -- A file that is on the way before the write is a file after it.
    have held : ∃ content, t'.node? q = some (.file content) := by
      by_cases here : q = t.target path
      · exact ⟨_, here ▸ file_of_write h⟩
      · exact ⟨content, keeps.nodes q _ here found⟩
    obtain ⟨content', found'⟩ := held
    exact admits.free q (way ▸ mem) content' found'
  · refine admits.no_directory ?_
    rw [keeps.target_eq]
    exact keeps.directories _ found
  · rw [← keeps.target_eq, ← way]
    exact admits.not_passed

/-- A document can be written after another one if neither is on the way to the other one and they
are at different places. -/
theorem Admits.after_write (admits : t.Admits path') (h : t.write path text = (.ok (), t'))
    (ne : t.target path' ≠ t.target path) (apart : t.target path ∉ t.wayTo path')
    (apart' : t.target path' ∉ t.wayTo path) : t'.Admits path' := by
  have keeps := keeps_of_write h
  have way : t'.wayTo path' = t.wayTo path' := wayTo_eq_of_home keeps.home path'
  refine ⟨admits.good, admits.no_slash, admits.last, fun q mem content found => ?_, ?_, ?_⟩
  · rw [way] at mem
    by_cases passed : q ∈ t.wayTo path
    · rw [directory_of_write h passed] at found
      cases found
    · have ne' : q ≠ t.target path := fun eq => apart (eq ▸ mem)
      rw [node?_of_write h ne' passed] at found
      exact admits.free q mem content found
  · rw [keeps.target_eq, node?_of_write h ne apart']
    exact admits.no_directory
  · rw [keeps.target_eq, way]
    exact admits.not_passed

/-- Documents at different places can be written in either order, with the same outcome. That the
second one can be written after the first one rules out that either lies on the way to the other. -/
theorem write_comm (ne : t.target path ≠ t.target path')
    (first : t.write path text = (.ok (), t₁)) (second : t₁.write path' text' = (.ok (), t₂)) :
    ∃ t₁', t.write path' text' = (.ok (), t₁') ∧ t₁'.write path text = (.ok (), t₂) := by
  have keeps := keeps_of_write first
  have admits₁ := admits_of_write second
  have way : t₁.wayTo path' = t.wayTo path' := wayTo_eq_of_home keeps.home path'
  have target : t₁.target path' = t.target path' := keeps.target_eq path'
  -- After the first write its document is a file, and what is on the way to it are directories.
  have apart : t.target path ∉ t.wayTo path' := fun mem =>
    admits₁.free _ (way ▸ mem) _ (file_of_write first)
  have apart' : t.target path' ∉ t.wayTo path := fun mem =>
    admits₁.no_directory (target ▸ directory_of_write first mem)
  obtain ⟨t₁', first'⟩ := (admits₁.before_write first).exists_write text'
  obtain ⟨t₂', second'⟩ :=
    ((admits_of_write first).after_write first' ne apart' apart).exists_write text
  refine ⟨t₁', first', ?_⟩
  have keeps' := keeps_of_write first'
  have way' : t₁'.wayTo path = t.wayTo path := wayTo_eq_of_home keeps'.home path
  have same : t₂' = t₂ := by
    -- Both outcomes have the two documents and the directories on the two ways, and otherwise the
    -- first tree.
    refine ext_get? ?_ fun q => ?_
    · rw [(keeps_of_write second').home, keeps'.home, (keeps_of_write second).home, keeps.home]
    · simp only [get?_of_write second', get?_of_write second, node?_eq_none_iff,
        get?_of_write first', get?_of_write first, keeps.target_eq, keeps'.target_eq, way, way']
      grind
  rw [second', same]

/-! ### Several documents -/

variable {ws ws' : List (String × String)}

/-- Documents at different places can be written in any order, with the same outcome. The induction
is on the permutation, and `write_comm` is the case of two that change places. -/
theorem Writes.perm (perm : ws.Perm ws')
    (apart : (ws.map (t.target ·.1)).Nodup) (writes : Writes ws t t') : Writes ws' t t' := by
  induction perm generalizing t with
  | nil => exact writes
  | cons w perm ih =>
    obtain ⟨t₁, written, rest⟩ := writes
    rw [List.map_cons, List.nodup_cons] at apart
    refine ⟨t₁, written, ih ?_ rest⟩
    simpa only [(keeps_of_write written).target_eq] using apart.2
  | swap w w' ws =>
    obtain ⟨t₁, first, t₂, second, rest⟩ := writes
    have ne : t.target w'.1 ≠ t.target w.1 := by
      simp only [List.map_cons, List.nodup_cons, List.mem_cons, not_or] at apart
      exact apart.1.1
    obtain ⟨t₁', first', second'⟩ := write_comm ne first second
    exact ⟨t₁', first', t₂, second', rest⟩
  | trans perm _ ih ih' =>
    exact ih' ((perm.map _).nodup_iff.1 apart) (ih apart writes)

end TemplateCoverage.FileTree
