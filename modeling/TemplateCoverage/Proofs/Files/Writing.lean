import TemplateCoverage.Proofs.Files.Tree
import TemplateCoverage.Proofs.Sorted.Map

/-!
# `TemplateCoverage.Proofs.Files.Writing`: which documents can be written

A document is written in a directory that is made for it, so a write may fail at the directory or at
the document. Where the directory is there, only the document matters; a document that can be read
has such a directory. No file is read through a path that ends in `..`, as every node of a tree
stands in a directory. The theorems:

* `EndsIn.write`: writing a document in a directory that is there puts it in place;
* `exists_writes_of_reads`: documents that can be read can all be written;
* `Writes.eq_self`: writing the texts that documents have changes nothing;
* `sameFiles_of_write_error`: a write that fails makes no file and changes none.
-/

set_option autoImplicit false

namespace TemplateCoverage

/-! ### Parents of paths -/

namespace Path

/-- The names that count are some of all names, in their order: those but `.`, which counts only in
front. -/
theorem parts_sublist (p : Path) : p.parts.Sublist p.names := by
  unfold parts
  split
  · -- A relative path that starts with `.` keeps this one.
    rename_i names _ eq
    rw [eq]
    exact List.filter_sublist.cons_cons "."
  · exact List.filter_sublist

/-- The names that count, of a path that ends in one of them, are those of the path without it and
then the name itself. -/
theorem parts_concat {p : Path} {init : List String} {name : String}
    (names : p.names = init ++ [name]) (ne : name ≠ ".") :
    p.parts = Path.parts ⟨p.absolute, init, false⟩ ++ [name] := by
  obtain ⟨absolute, all, slash⟩ := p
  subst names
  cases absolute with
  | true => simp [parts, ne]
  | false =>
    cases init with
    | nil => simp [parts, ne]
    | cons first rest =>
      by_cases dot : first = "."
      · simp [parts, dot, ne]
      · simp [parts, dot, ne]

/-- With fewer names between slashes a text is no longer. The induction is on what is left out; a
name that goes takes its slash with it. -/
theorem utf8ByteSize_intercalate_le {names names' : List String} (sub : names.Sublist names') :
    ("/".intercalate names).utf8ByteSize ≤ ("/".intercalate names').utf8ByteSize := by
  induction sub with
  | slnil => exact Nat.le_refl _
  | @cons names names' name sub ih =>
    cases names' with
    | nil =>
      rw [List.sublist_nil.1 sub]
      exact Nat.zero_le _
    | cons next rest =>
      rw [String.intercalate_cons_cons, String.utf8ByteSize_append]
      omega
  | @cons_cons names names' name sub ih =>
    cases names' with
    | nil => exact Nat.le_of_eq (by rw [List.sublist_nil.1 sub])
    | cons next rest =>
      rw [String.intercalate_cons_cons, String.utf8ByteSize_append, String.utf8ByteSize_append]
      -- With nothing left behind the first name there is no slash either.
      cases names with
      | nil =>
        rw [String.intercalate_singleton]
        omega
      | cons first others =>
        rw [String.intercalate_cons_cons, String.utf8ByteSize_append, String.utf8ByteSize_append]
        omega

/-- With fewer names a path is no longer, so that a limit on the length is not exceeded by a path
above one that keeps to it. -/
theorem utf8ByteSize_text_le {p : Path} {names : List String} (sub : names.Sublist p.names) :
    (Path.text ⟨p.absolute, names, false⟩).utf8ByteSize ≤ p.text.utf8ByteSize := by
  have fewer := utf8ByteSize_intercalate_le sub
  have noSlash : (if (false && !names.isEmpty) = true then "/" else "") = "" := rfl
  simp only [text, String.utf8ByteSize_append, noSlash, String.utf8ByteSize_empty]
  omega

end Path

namespace FileTree

variable {t t' : FileTree} {place q : Place} {p : Path} {name : String} {slot : t.Slot}

/-- With fewer names a path does not become a bad one: no name is new, and the text is no longer. -/
theorem isBadPath_of_sublist {names : List String} (sub : names.Sublist p.names)
    (good : isBadPath p = false) : isBadPath ⟨p.absolute, names, false⟩ = false := by
  unfold isBadPath at good ⊢
  rw [Bool.or_eq_false_iff, List.any_eq_false, decide_eq_false_iff_not] at good ⊢
  have shorter := Path.utf8ByteSize_text_le sub
  exact ⟨fun name mem => good.1 name (sub.subset mem), by omega⟩

/-- Passing over `.` leads to the same place: walking it means staying, after a check that other
names make as well. -/
theorem walk_filter {names : List String} (h : t.walk place names = .ok q) :
    t.walk place (names.filter (· ≠ ".")) = .ok q := by
  induction names generalizing place with
  | nil => exact h
  | cons name names ih =>
    obtain ⟨directory, next, entered, walked⟩ := walk_cons_eq_ok_iff.1 h
    by_cases dot : name = "."
    · rw [enter, if_pos dot] at entered
      cases entered
      simpa [dot] using ih walked
    · rw [List.filter_cons_of_pos (by simpa using dot)]
      exact walk_cons_eq_ok_iff.2 ⟨directory, next, entered, ih walked⟩

/-- The names of a path that count lead where all of its names lead. -/
theorem walk_parts (h : t.walk place p.names = .ok q) : t.walk place p.parts = .ok q := by
  unfold Path.parts
  split
  · rename_i names _ eq
    rw [eq] at h
    obtain ⟨directory, next, entered, walked⟩ := walk_cons_eq_ok_iff.1 h
    exact walk_cons_eq_ok_iff.2 ⟨directory, next, entered, walk_filter walked⟩
  · exact walk_filter h

/-- A path leads to a directory if it can be followed to a place that holds one. -/
theorem isDirectory_iff : t.isDirectory p ↔
    ∃ place, t.locate p = .ok place ∧ t.node? place = some .directory := by
  unfold isDirectory
  split
  · rename_i located
    simp [located]
  · rename_i located
    simp [located]

/-- The form of it that is used where the place is known, as for a directory that has just been
made. -/
theorem isDirectory_of_locate (located : t.locate p = .ok q)
    (found : t.node? q = some .directory) : t.isDirectory p :=
  isDirectory_iff.2 ⟨q, located, found⟩

/-- The path `.` leads to the working directory, which is there by the type of file trees. -/
theorem isDirectory_here (t : FileTree) : t.isDirectory Path.here := by
  have good : isBadPath Path.here = false := by decide
  refine isDirectory_of_locate (locate_eq_ok_iff.2 ⟨good, rfl, ?_⟩) t.home_directory
  exact walk_cons_eq_ok_iff.2 ⟨t.home_directory, t.home, rfl, rfl⟩

/-- The path without its last name and names that do not count, which is what a parent is made from.
-/
def above (p : Path) : Path :=
  ⟨p.absolute, Path.parts ⟨p.absolute, p.names.dropLast, false⟩, false⟩

/-- The directory that a document is written in is the one above it, or the one in which the program
works if no name is left. -/
theorem documentDirectory_eq (names : p.names = p.names.dropLast ++ [name]) (ne : name ≠ ".") :
    documentDirectory p = if (above p).isEmpty then Path.here else above p := by
  have parent : p.parent? = some (above p) := by
    rw [Path.parent?, Path.parts_concat names ne]
    simp [above]
  rw [documentDirectory, parent]

/-- The directory that a document is written in is there if its path ends in a slot. -/
theorem EndsIn.isDirectory_documentDirectory (ends : t.EndsIn p slot) :
    t.isDirectory (documentDirectory p) := by
  have walked : t.walk (t.origin p) (above p).names = .ok slot.dir := walk_parts ends.walk
  rw [documentDirectory_eq ends.names ends.ne_dot]
  split
  · -- No name is left, so that the directory is the one in which the program works.
    exact isDirectory_here t
  · rename_i some
    refine isDirectory_of_locate (locate_eq_ok_iff.2 ⟨?_, Bool.eq_false_iff.2 some, walked⟩)
      slot.there
    exact isBadPath_of_sublist ((Path.parts_sublist _).trans (List.dropLast_sublist _))
      ends.good_path

/-! ### Writing in a directory that is there -/

/-- A directory that is there need not be made, and nothing else is made either. -/
theorem makeDirectories_of_isDirectory (there : t.isDirectory p) :
    t.makeDirectories p = (.ok (), t) := by
  have ensured : t.ensureDirectory p = .ok t := by
    unfold ensureDirectory
    split
    · rename_i made
      -- A directory is not made in place of another one.
      obtain ⟨slot, free, ends, _, _⟩ := exists_of_makeDirectory made
      rw [isDirectory, ends.locate] at there
      exact (free (beq_iff_eq.1 there)).elim
    · rw [if_pos there]
  rw [makeDirectories, ensured]
  split <;> rfl

/-- A file is put in the slot that its path ends in unless a directory is there. -/
theorem EndsIn.replace {content : Content} (ends : t.EndsIn p slot)
    (free : t.node? slot.place ≠ some .directory) (noSlash : p.endsInSlash = false) :
    t.replace p content = .ok (t.put slot (.file content) free) := by
  rw [FileTree.replace, newSlot_eq_ok_iff.2 ends]
  simp only [bind, Except.bind, noSlash]
  rw [dif_neg free]
  rfl

/-- A document in a directory that is there is written unless it is a directory itself, and nothing
else is. -/
theorem EndsIn.write {path : String} (ends : t.EndsIn (Path.parse path) slot)
    (free : t.node? slot.place ≠ some .directory)
    (noSlash : (Path.parse path).endsInSlash = false) (text : String) :
    t.write path text = (.ok (), t.put slot (.file (.text text)) free) := by
  simp only [FileTree.write, makeDirectories_of_isDirectory ends.isDirectory_documentDirectory,
    ends.replace free noSlash]

/-- In place of a directory no document is written, and the tree stays as it is, since the
directories of the document are there. -/
theorem EndsIn.write_directory {path : String} (ends : t.EndsIn (Path.parse path) slot)
    (found : t.node? slot.place = some .directory) (text : String) :
    t.write path text = (.error .isADirectory, t) := by
  have replaced : t.replace (Path.parse path) (.text text) = .error .isADirectory := by
    rw [FileTree.replace, newSlot_eq_ok_iff.2 ends]
    simp only [bind, Except.bind]
    rw [dif_pos found]
  simp only [FileTree.write, makeDirectories_of_isDirectory ends.isDirectory_documentDirectory,
    replaced]

/-! ### Documents that are there -/

/-- No path to a file ends in `..`: the name would lead to the directory that something stands in.
-/
theorem getLast?_ne_of_locate {content : Content} (located : t.locate p = .ok q)
    (found : t.node? q = some (.file content)) : p.names.getLast? ≠ some ".." := by
  intro last
  obtain ⟨init, names⟩ := List.getLast?_eq_some_iff.1 last
  obtain ⟨_, _, walked⟩ := locate_eq_ok_iff.1 located
  rw [names] at walked
  obtain ⟨dir, _, up⟩ := walk_append_iff.1 walked
  obtain ⟨directory, next, entered, here⟩ := walk_cons_eq_ok_iff.1 up
  cases entered
  cases here
  rw [t.node?_dropLast directory] at found
  cases found

/-- A path to a file ends in a slot, since the root and every step to a parent are directories. -/
theorem exists_endsIn_of_locate {content : Content} (located : t.locate p = .ok q)
    (found : t.node? q = some (.file content)) :
    ∃ slot : t.Slot, t.EndsIn p slot ∧ q = slot.place := by
  have last := getLast?_ne_of_locate located found
  obtain ⟨good, present, walked⟩ := locate_eq_ok_iff.1 located
  cases names : p.names.getLast? with
  | none =>
    -- The path is the root, which is a directory.
    rw [List.getLast?_eq_none_iff] at names
    rw [names, origin_eq_nil present names] at walked
    cases walked
    cases found
  | some name =>
    obtain ⟨init, eq⟩ := List.getLast?_eq_some_iff.1 names
    rw [eq] at walked
    obtain ⟨dir, before, walked⟩ := walk_append_iff.1 walked
    obtain ⟨directory, next, entered, here⟩ := walk_cons_eq_ok_iff.1 walked
    cases here
    have ne_dots : name ≠ ".." := fun up => last (names.trans (congrArg some up))
    unfold enter at entered
    split at entered
    · -- After `.` the path leads to the directory that it has reached, not to a file.
      cases entered
      rw [directory] at found
      cases found
    · rename_i ne_dot
      split at entered
      · contradiction
      · rename_i goodName
        cases entered
        exact ⟨⟨dir, name, directory⟩, endsIn_of_walk good eq before ⟨ne_dot, ne_dots⟩
          (Bool.eq_false_iff.2 goodName), rfl⟩

/-- Putting a node where it stands changes nothing, not even the table of nodes. -/
theorem put_self {node : FileNode} (free : t.node? slot.place ≠ some .directory)
    (found : t.node? slot.place = some node) : t.put slot node free = t := by
  have held : t.nodes.get? slot.place = some node := by
    rwa [node?, nodeAt, if_neg slot.place_ne_nil] at found
  refine ext_get? rfl fun place => ?_
  rw [put, SortedMap.get?_insert]
  split
  · rename_i here
    rw [here, held]
  · rfl

/-! ### Writing again what is there -/

variable {path text : String}

/-- A document that can be read can be written: it stands in a directory, and no directory stands in
its place. -/
theorem exists_write_of_read (read : t.read path = .ok text) (text' : String) :
    ∃ t', t.write path text' = (.ok (), t') := by
  obtain ⟨q, located, found, noSlash⟩ := read_eq_ok_iff.1 read
  obtain ⟨slot, ends, rfl⟩ := exists_endsIn_of_locate located found
  exact ⟨_, ends.write (by simp [found]) noSlash text'⟩

/-- A document that can be read can still be read after a write, at whatever place that is. At the
written place the text may be another one, hence no claim about the text. -/
theorem exists_read_of_write {path' text' : String} (h : t.write path' text' = (.ok (), t'))
    (read : t.read path = .ok text) : ∃ text, t'.read path = .ok text := by
  have keeps := keeps_of_write h
  by_cases here : t.target path = t.target path'
  · obtain ⟨q, located, _, noSlash⟩ := read_eq_ok_iff.1 read
    obtain ⟨q', located', found, _⟩ := read_eq_ok_iff.1 (read_write h)
    -- Both paths lead to the place that is named, be they spelled alike or not.
    have same : q' = q := by
      rw [← target_eq_of_locate located', keeps.target_eq, ← here, target_eq_of_locate located]
    exact ⟨text', read_eq_ok_iff.2 ⟨q, keeps.locate located, same ▸ found, noSlash⟩⟩
  · exact ⟨text, keeps.read here read⟩

/-- Documents that can be read can all be written, also to one place. The induction carries that the
rest can still be read after each write, which is what makes the next one succeed. -/
theorem exists_writes_of_reads {ws : List (String × String)}
    (reads : ∀ w ∈ ws, ∃ text, t.read w.1 = .ok text) : ∃ t', Writes ws t t' := by
  induction ws generalizing t with
  | nil => exact ⟨t, rfl⟩
  | cons w ws ih =>
    obtain ⟨⟨text, read⟩, others⟩ := List.forall_mem_cons.1 reads
    obtain ⟨t₁, written⟩ := exists_write_of_read read w.2
    have reads₁ : ∀ v ∈ ws, ∃ text, t₁.read v.1 = .ok text := fun v mem =>
      (others v mem).elim fun _ read => exists_read_of_write written read
    obtain ⟨t', rest⟩ := ih reads₁
    exact ⟨t', t₁, written, rest⟩

/-- Writing the text that a document has changes nothing, as the document is read from the slot that
it is written to. -/
theorem write_self (read : t.read path = .ok text) (h : t.write path text = (.ok (), t')) :
    t' = t := by
  obtain ⟨q, located, found, noSlash⟩ := read_eq_ok_iff.1 read
  obtain ⟨slot, ends, rfl⟩ := exists_endsIn_of_locate located found
  have free : t.node? slot.place ≠ some .directory := by simp [found]
  rw [ends.write free noSlash, put_self free found] at h
  cases h
  rfl

/-- Writing the texts that documents have changes nothing, by induction: each write leaves the tree
in which the others were read. -/
theorem Writes.eq_self {ws : List (String × String)} (reads : ∀ w ∈ ws, t.read w.1 = .ok w.2)
    (writes : Writes ws t t') : t' = t := by
  induction ws with
  | nil => exact writes
  | cons w ws ih =>
    obtain ⟨first, others⟩ := List.forall_mem_cons.1 reads
    obtain ⟨t₁, written, rest⟩ := writes
    obtain rfl := write_self first written
    exact ih others rest

/-! ### Writes that fail -/

/-- Two trees have the same files with the same contents. Directories may differ. -/
def SameFiles (t t' : FileTree) : Prop :=
  ∀ place content, t'.node? place = some (.file content) ↔ t.node? place = some (.file content)

/-- Making directories makes no file and changes none, also if it fails in the end. -/
theorem sameFiles_makeDirectories (t : FileTree) (p : Path) :
    SameFiles t (t.makeDirectories p).2 := by
  refine makeDirectories_steps (Q := fun _ => True) (fun _ _ _ => Iff.rfl)
    (fun _ _ _ first second place content => (second place content).trans (first place content))
    (fun _ _ _ => id) ?_ t trivial
  intro t p t' _ made place content
  obtain ⟨slot, _, _, none, rfl⟩ := exists_of_makeDirectory made
  rw [node?_put]
  split
  · rename_i here
    simp [here, none]
  · rfl

/-- A write that fails makes no file and changes none. It may leave directories behind that were
made for it. -/
theorem sameFiles_of_write_error {fault : Fault} (h : t.write path text = (.error fault, t')) :
    SameFiles t t' := by
  have dirs := sameFiles_makeDirectories t (documentDirectory (Path.parse path))
  rcases write_cases t path text with ⟨_, failed⟩ | ⟨_, _, _, _, _, _, written⟩
  · rw [failed] at h
    cases h
    exact dirs
  · rw [written] at h
    cases h

/-! ### Plain names -/

/-- A name that is a path by itself and can be the name of a file. Of fixed names it is decided,
which spares the samples a walk. -/
structure IsPlain (name : String) : Prop where
  parse_eq : Path.parse name = ⟨false, [name], false⟩
  ne_dot : name ≠ "."
  ne_dots : name ≠ ".."
  good_name : isBadName name = false
  good_path : isBadPath ⟨false, [name], false⟩ = false

/-- Whether a name is plain is computed. -/
instance (name : String) : Decidable (IsPlain name) :=
  decidable_of_iff (Path.parse name = ⟨false, [name], false⟩ ∧ name ≠ "." ∧ name ≠ ".." ∧
      isBadName name = false ∧ isBadPath ⟨false, [name], false⟩ = false)
    ⟨fun ⟨parse, dot, dots, goodName, goodPath⟩ => ⟨parse, dot, dots, goodName, goodPath⟩,
      fun plain => ⟨plain.parse_eq, plain.ne_dot, plain.ne_dots, plain.good_name, plain.good_path⟩⟩

/-- The tree whose root is the working directory and holds the given files and empty directories,
each under its name. -/
def inRoot (nodes : List (String × FileNode)) : FileTree where
  nodes := SortedMap.ofList (nodes.map fun n => ([n.1], n.2))
  home := []
  rooted place node found := by
    unfold nodeAt at found
    split at found
    · rename_i root
      rw [root]
      rfl
    · obtain ⟨n, _, eq⟩ := List.mem_map.1 (SortedMap.mem_of_get?_ofList found)
      cases eq
      rfl
  home_directory := rfl

/-- The slot of a name in the working directory, which is there in every tree. -/
def homeSlot (t : FileTree) (name : String) : t.Slot := ⟨t.home, name, t.home_directory⟩

/-- A plain name is one in the working directory, as a path without a slash and without dots. -/
theorem IsPlain.endsIn (plain : IsPlain name) (t : FileTree) :
    t.EndsIn (Path.parse name) (t.homeSlot name) := by
  rw [plain.parse_eq]
  exact ⟨plain.good_path, rfl, rfl, plain.ne_dot, plain.ne_dots, plain.good_name⟩

/-- What a file with a plain name holds is read from the working directory. -/
theorem IsPlain.read (plain : IsPlain name) {text : String}
    (found : t.node? (t.homeSlot name).place = some (.file (.text text))) :
    t.read name = .ok text :=
  read_eq_ok_iff.2 ⟨_, (plain.endsIn t).locate, found, by rw [plain.parse_eq]⟩

/-- A plain name that stands for nothing is not found, which is the fault of a document that is
missing. -/
theorem IsPlain.read_error (plain : IsPlain name) (none : t.node? (t.homeSlot name).place = none) :
    t.read name = .error .notFound := by
  simp only [FileTree.read, (plain.endsIn t).locate, none, bind, Except.bind]

/-- A document with a plain name can be written unless it is a directory. -/
theorem IsPlain.write (plain : IsPlain name)
    (free : t.node? (t.homeSlot name).place ≠ some .directory) (text : String) :
    t.write name text = (.ok (), t.put (t.homeSlot name) (.file (.text text)) free) :=
  (plain.endsIn t).write free (by rw [plain.parse_eq]) text

end FileTree

end TemplateCoverage
