import TemplateCoverage.Proofs.Files.Writing

/-!
# `TemplateCoverage.Proofs.Files.Directory`: files of one directory

The path of a file in a directory has the names of the directory's path and then the file's own one,
however the directory is spelled. So files with different names lie at different places, and where
one of them can be read another one is written without making a directory. The theorems:

* `words_join`: the names of a path that is joined;
* `target_join`: the place that it names;
* `leadsTo_of_read`: where a file can be read the directory is there;
* `LeadsTo.eq_put_of_write`: what writing a file does to a directory that is there;
* `LeadsTo.read_eq_of_writes`: writing files leaves the other ones as they were, or as missing.
-/

set_option autoImplicit false

namespace TemplateCoverage

/-! ### Names of joined paths -/

namespace Text

variable {mark : Char} {cs rest : List Char}

/-- A text without a mark is one field, the whole of it, so that a file name is one part of a path.
-/
theorem splitChars_of_not_mem (free : mark ∉ cs) : splitChars mark cs = [cs] := by
  induction cs with
  | nil => rfl
  | cons c cs ih =>
    rw [List.mem_cons, not_or] at free
    rw [splitChars, if_neg (Ne.symm free.1), ih free.2]

/-- The fields before a mark and those behind it are the fields of the whole text, so that a text
can be cut at any of its marks. -/
theorem splitChars_append_cons :
    splitChars mark (cs ++ mark :: rest) = splitChars mark cs ++ splitChars mark rest := by
  induction cs with
  | nil =>
    have none : splitChars mark [] = [[]] := rfl
    rw [List.nil_append, none, List.singleton_append, splitChars, if_pos rfl]
  | cons c cs ih =>
    rw [List.cons_append, splitChars, splitChars, ih]
    split
    · rw [List.cons_append]
    · have some : splitChars mark cs ≠ [] := by
        intro none
        have length := length_splitChars mark cs
        rw [none] at length
        contradiction
      -- There is a field before the first mark, to which the character belongs.
      obtain ⟨field, fields, eq⟩ := List.exists_cons_of_ne_nil some
      simp only [eq, List.cons_append]

/-- The words before a mark and those behind it are the words of the whole text. -/
theorem words_append (before after : String) :
    words '/' (before ++ "/" ++ after) = words '/' before ++ words '/' after := by
  have text : (before ++ "/" ++ after).toList = before.toList ++ '/' :: after.toList := by
    rw [String.toList_append, String.toList_append, List.append_assoc]
    rfl
  rw [words, text, splitChars_append_cons, List.filter_append, List.map_append]
  rfl

/-- A text without a mark is one word unless it is empty; empty fields are no words. -/
theorem words_of_not_mem {s : String} (some : s ≠ "") (free : '/' ∉ s.toList) :
    words '/' s = [s] := by
  have text : s.toList ≠ [] := fun none => some (String.toList_inj.1 none)
  rw [words, splitChars_of_not_mem free, List.filter_cons_of_pos (by simpa using text)]
  rw [List.filter_nil, List.map_singleton, String.ofList_toList]

end Text

namespace Path

variable {dir file : String}

/-- A text that a slash ends is another one before the slash. A directory may be named with that
slash or without. -/
theorem exists_append_slash (last : dir.toList.getLast? = some '/') :
    ∃ init, dir = init ++ "/" := by
  obtain ⟨init, eq⟩ := List.getLast?_eq_some_iff.1 last
  refine ⟨String.ofList init, String.toList_inj.1 ?_⟩
  rw [eq, String.toList_append, String.toList_ofList]
  rfl

/-- The names of a file's path are those of the directory and then the file's own. It makes no
difference whether the directory's path is empty or ends in slashes. -/
theorem words_join (some : file ≠ "") (noSlash : '/' ∉ file.toList) :
    Text.words '/' (join dir file) = Text.words '/' dir ++ [file] := by
  have nothing : Text.words '/' "" = [] := rfl
  rw [← Text.words_of_not_mem some noSlash]
  unfold join
  split
  · -- The directory's path is empty or ends in a slash, and no slash is put in between.
    rename_i short
    rcases short with rfl | last
    · rw [nothing, String.empty_append, List.nil_append]
    · obtain ⟨init, rfl⟩ := exists_append_slash last
      have ends : Text.words '/' (init ++ "/") = Text.words '/' init := by
        rw [← String.append_empty (s := init ++ "/"), Text.words_append, nothing, List.append_nil]
      rw [Text.words_append, ends]
  · rw [Text.words_append]

/-- The path of a file is absolute if that of the directory is. An empty path of a directory is a
relative one. -/
theorem absolute_join (noSlash : '/' ∉ file.toList) :
    (parse (join dir file)).absolute = (parse dir).absolute := by
  have relative : (file.toList.head? == some '/') = false := by
    rw [beq_eq_false_iff_ne]
    exact fun head => noSlash (List.mem_of_head? head)
  show ((join dir file).toList.head? == some '/') = (dir.toList.head? == some '/')
  by_cases none : dir = ""
  · subst none
    rw [join, if_pos (.inl rfl), String.empty_append, relative]
    rfl
  · have text : dir.toList ≠ [] := fun eq => none (String.toList_inj.1 eq)
    obtain ⟨c, cs, eq⟩ := List.exists_cons_of_ne_nil text
    unfold join
    split <;> simp [String.toList_append, eq]

end Path

/-! ### Files of a directory -/

namespace FileTree

variable {t t' : FileTree} {place : Place} {dir file : String}

/-- A name that a file in a directory can have: it is none of the two names with a meaning of their
own, and not a path. -/
structure IsFileName (name : String) : Prop where
  ne_empty : name ≠ ""
  no_slash : '/' ∉ name.toList
  ne_dot : name ≠ "."
  ne_dots : name ≠ ".."
  good_name : isBadName name = false

/-- The path of a file starts where the directory's does: at the root or at the working directory.
-/
theorem origin_join (named : IsFileName file) :
    t.origin (Path.parse (Path.join dir file)) = t.origin (Path.parse dir) := by
  rw [origin, origin, Path.absolute_join named.no_slash]

/-- A path that is joined has the directory's names and then the file's. -/
theorem names_join (named : IsFileName file) :
    (Path.parse (Path.join dir file)).names = (Path.parse dir).names ++ [file] :=
  Path.words_join named.ne_empty named.no_slash

/-- Names are followed one part after the other, from where the first part leads. -/
theorem follow_append {names names' : List String} :
    follow place (names ++ names') = follow (follow place names) names' := by
  induction names generalizing place with
  | nil => rfl
  | cons name names ih =>
    rw [List.cons_append, follow, follow]
    split
    · exact ih
    · split <;> exact ih

/-- The place of a file is one below that of the directory, whether or not the directory is there.
-/
theorem target_join (named : IsFileName file) :
    t.target (Path.join dir file) = t.target dir ++ [file] := by
  rw [target, origin_join named, names_join named, follow_append]
  show follow (t.target dir) [file] = _
  rw [follow, if_neg named.ne_dot, if_neg named.ne_dots, follow]

/-- The names of a directory's path lead to a directory. An empty path leads to the working
directory in this sense, although it cannot be followed itself. -/
structure LeadsTo (t : FileTree) (dir : String) (place : Place) : Prop where
  walk : t.walk (t.origin (Path.parse dir)) (Path.parse dir).names = .ok place
  directory : t.node? place = some .directory

/-- Where a file can be read the directory is there, since its names are walked on the way. -/
theorem leadsTo_of_read (named : IsFileName file) {text : String}
    (read : t.read (Path.join dir file) = .ok text) : ∃ place, t.LeadsTo dir place := by
  obtain ⟨q, located, _, _⟩ := read_eq_ok_iff.1 read
  obtain ⟨_, _, walked⟩ := locate_eq_ok_iff.1 located
  rw [origin_join named, names_join named] at walked
  obtain ⟨place, before, last⟩ := walk_append_iff.1 walked
  exact ⟨place, before, (walk_cons_eq_ok_iff.1 last).1⟩

/-- The slot of a file in the directory: the directory's place and the file's name. -/
def LeadsTo.slot (leads : t.LeadsTo dir place) (file : String) : t.Slot :=
  ⟨place, file, leads.directory⟩

/-- A file's path ends in its slot where the directory is there, unless the path is a bad one. -/
theorem LeadsTo.endsIn (leads : t.LeadsTo dir place) (named : IsFileName file)
    (good : isBadPath (Path.parse (Path.join dir file)) = false) :
    t.EndsIn (Path.parse (Path.join dir file)) (leads.slot file) := by
  have walked : t.walk (t.origin (Path.parse (Path.join dir file))) (Path.parse dir).names =
      .ok place := by
    rw [origin_join named, leads.walk]
  exact endsIn_of_walk good (names_join named) walked ⟨named.ne_dot, named.ne_dots⟩ named.good_name

/-- Writing a file in a directory that is there puts the file in place and does nothing else. -/
theorem LeadsTo.eq_put_of_write (leads : t.LeadsTo dir place) (named : IsFileName file)
    {text : String} (written : t.write (Path.join dir file) text = (.ok (), t')) :
    ∃ free, t' = t.put (leads.slot file) (.file (.text text)) free := by
  obtain ⟨t₁, slot, free, made, ends, _, rfl⟩ := exists_of_write written
  have own := leads.endsIn named ends.good_path
  rw [makeDirectories_of_isDirectory own.isDirectory_documentDirectory] at made
  obtain rfl : t = t₁ := (Prod.mk.inj made).2
  -- The path leads to one place, and a place belongs to one slot.
  obtain rfl := Slot.place_inj (Except.ok.inj (ends.locate.symm.trans own.locate))
  exact ⟨free, rfl⟩

/-- A file is read alike from two trees with the same directory and the same file in it, and fails
alike if it cannot be read. -/
theorem LeadsTo.read_congr (leads : t.LeadsTo dir place) (leads' : t'.LeadsTo dir place)
    (named : IsFileName file) (same : t'.node? (place ++ [file]) = t.node? (place ++ [file])) :
    t'.read (Path.join dir file) = t.read (Path.join dir file) := by
  have held : t'.node? (leads'.slot file).place = t.node? (leads.slot file).place := same
  unfold FileTree.read
  cases bad : isBadPath (Path.parse (Path.join dir file)) with
  | true => simp only [locate, bad, if_true, bind, Except.bind]
  | false =>
    simp only [(leads.endsIn named bad).locate, (leads'.endsIn named bad).locate, bind, Except.bind,
      held]

/-- Writing files of a directory that is there leaves the directory and its other files, by
induction on the writes. -/
theorem LeadsTo.of_writes {ws : List (String × String)} (leads : t.LeadsTo dir place)
    (writes : Writes ws t t')
    (others : ∀ w ∈ ws, ∃ name, IsFileName name ∧ name ≠ file ∧ w.1 = Path.join dir name) :
    t'.LeadsTo dir place ∧ t'.node? (place ++ [file]) = t.node? (place ++ [file]) := by
  induction ws generalizing t with
  | nil =>
    obtain rfl : t' = t := writes
    exact ⟨leads, rfl⟩
  | cons w ws ih =>
    obtain ⟨path, text⟩ := w
    obtain ⟨t₁, written, rest⟩ := writes
    obtain ⟨name, named, ne, rfl⟩ := others _ List.mem_cons_self
    have keeps := keeps_of_write written
    have leads₁ : t₁.LeadsTo dir place :=
      ⟨keeps.origin_eq _ ▸ keeps.walk leads.walk, keeps.directories _ leads.directory⟩
    obtain ⟨leads', same⟩ := ih leads₁ rest fun v mem => others v (List.mem_cons_of_mem _ mem)
    refine ⟨leads', same.trans ?_⟩
    -- The first write puts a file at another place of the directory.
    obtain ⟨_, rfl⟩ := leads.eq_put_of_write named written
    have apart : place ++ [file] ≠ (leads.slot name).place := fun eq =>
      ne (List.singleton_inj.1 (List.append_cancel_left eq)).symm
    rw [node?_put, if_neg apart]

/-- Writing files of a directory leaves what is read of its other files as it was, also that nothing
can be read. -/
theorem LeadsTo.read_eq_of_writes {ws : List (String × String)} (leads : t.LeadsTo dir place)
    (named : IsFileName file) (writes : Writes ws t t')
    (others : ∀ w ∈ ws, ∃ name, IsFileName name ∧ name ≠ file ∧ w.1 = Path.join dir name) :
    t'.read (Path.join dir file) = t.read (Path.join dir file) := by
  obtain ⟨leads', same⟩ := leads.of_writes writes others
  exact leads.read_congr leads' named same

end FileTree

end TemplateCoverage
