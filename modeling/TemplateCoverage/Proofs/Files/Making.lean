import TemplateCoverage.Proofs.Files.Way

/-!
# `TemplateCoverage.Proofs.Files.Making`: which directories can be made

Names are followed from directory to directory. In a file system where everything stands in a
directory, following them ends at a missing directory unless a file is in the way or a name cannot
be one, and missing directories can be made. So whether a directory can be made depends only on its
path and on the files on the way. The theorems:

* `walk_or_notFound`: without files in the way, names are followed or a directory is missing;
* `ensureDirectory_or_notFound`, `exists_ensureDirectory_of_walk`: the same for one directory, which
  can be made where the one above it is there;
* `isDirectory_of_makeDirectories`: a directory that has been made is there;
* `exists_makeDirectories`: without files in the way, a directory can be made with those above it.
-/

set_option autoImplicit false

namespace TemplateCoverage

/-! ### Paths whose names all count -/

namespace Path

variable {p : Path} {names : List String} {absolute slash : Bool}

/-- Every name of the path counts. Parents are tidy, so that going up from one takes a name at a
time. -/
def Tidy (p : Path) : Prop := p.parts = p.names

/-- A path is tidy if no name is `.` but the first one of a relative path. That one is kept, as in
`./file`. -/
theorem tidy_iff : (⟨absolute, names, slash⟩ : Path).Tidy ↔
    if absolute then "." ∉ names else "." ∉ names.tail := by
  have all (names : List String) : names.filter (· ≠ ".") = names ↔ "." ∉ names := by
    rw [List.filter_eq_self, ← List.forall_mem_ne']
    simp
  unfold Tidy parts
  cases absolute with
  | true => exact all names
  -- In a relative path the first name counts in any case.
  | false =>
    cases names with
    | nil => simp
    | cons name names =>
      by_cases dot : name = "."
      · simpa [dot] using all names
      · simpa [dot] using all names

/-- The names that count make up a tidy path: taking out what does not count once is enough. -/
theorem tidy_parts (p : Path) : (⟨p.absolute, p.parts, false⟩ : Path).Tidy := by
  obtain ⟨absolute, names, _⟩ := p
  rw [tidy_iff]
  cases absolute with
  | true => simp [parts]
  | false =>
    show "." ∉ (parts ⟨false, names, _⟩).tail
    unfold parts
    split
    · simp
    · exact fun mem => by simpa using List.mem_of_mem_tail mem

/-- A tidy path stays tidy without its last name, so that its parents can be made one after the
other. -/
theorem Tidy.dropLast (tidy : (⟨absolute, names, false⟩ : Path).Tidy) :
    (⟨absolute, names.dropLast, false⟩ : Path).Tidy := by
  rw [tidy_iff] at tidy ⊢
  cases absolute with
  | true => exact fun mem => tidy ((List.dropLast_sublist _).mem mem)
  | false => exact fun mem => tidy ((List.dropLast_sublist names).tail.mem mem)

/-- The parent of a tidy path is the path without its last name, and is tidy itself. So making the
directories above a tidy path is an induction on its names. -/
theorem Tidy.parent {parent : Path} (tidy : p.Tidy) (above : p.parent? = some parent) :
    parent.absolute = p.absolute ∧ parent.Tidy ∧ ∃ name, p.names = parent.names ++ [name] := by
  obtain ⟨some, rfl⟩ := parent?_eq_some_iff.1 above
  rw [tidy] at some ⊢
  refine ⟨rfl, Tidy.dropLast ?_, p.names.getLast some, ?_⟩
  · have all := p.tidy_parts
    rwa [tidy] at all
  · exact (List.dropLast_concat_getLast some).symm

/-- A tidy path without a parent has no names: it is the root or the empty path. -/
theorem Tidy.names_eq_nil (tidy : p.Tidy) (none : p.parent? = .none) : p.names = [] := by
  rw [← tidy]
  unfold parent? at none
  split at none
  · rename_i empty
    exact List.isEmpty_iff.1 empty
  · contradiction

end Path

namespace FileTree

variable {t t' : FileTree} {place dir : Place} {places places' : List Place} {p : Path}
  {name : String} {names init : List String}

/-! ### Without files in the way -/

/-- Neither the path nor one of its names is a bad one. Then following it fails only because of what
stands in the tree. -/
structure WellSpelled (p : Path) : Prop where
  good_path : isBadPath p = false
  good_names : ∀ name ∈ p.names, isBadName name = false

/-- At none of the places a file stands. Nothing or a directory may be there. -/
def FreeOfFiles (t : FileTree) (places : List Place) : Prop :=
  ∀ q ∈ places, ∀ content, t.node? q ≠ some (.file content)

/-- Fewer places are free of files if more are, which is how the places of a longer path serve its
parents. -/
theorem FreeOfFiles.mono (free : t.FreeOfFiles places) (subset : places' ⊆ places) :
    t.FreeOfFiles places' := fun q mem => free q (subset mem)

/-- With fewer names a path stays well spelled, so that the paths above one are as well. -/
theorem WellSpelled.of_sublist (good : WellSpelled p) (sub : names.Sublist p.names) :
    WellSpelled ⟨p.absolute, names, false⟩ :=
  ⟨isBadPath_of_sublist sub good.good_path, fun name mem => good.good_names name (sub.mem mem)⟩

/-- The parent of a well spelled path is well spelled, as it has one name less and no new one. -/
theorem WellSpelled.parent {parent : Path} (good : WellSpelled p)
    (above : p.parent? = some parent) : WellSpelled parent := by
  obtain ⟨_, rfl⟩ := Path.parent?_eq_some_iff.1 above
  exact good.of_sublist ((List.dropLast_sublist _).trans p.parts_sublist)

/-- A name that is no bad one leads where following it does. Names that are too long for a file
system are bad ones. -/
theorem enter_eq (good : isBadName name = false) :
    enter place name = .ok (follow place [name]) := by
  unfold enter
  rw [follow]
  split
  · rfl
  · split
    · rfl
    · simp [good, follow]

/-- A place without a file holds a directory or is not found; it cannot be something else. -/
theorem checkDirectory_or_notFound (free : ∀ content, t.node? place ≠ some (.file content)) :
    t.node? place = some .directory ∨ t.checkDirectory place = .error .notFound := by
  unfold checkDirectory
  split
  · rename_i found
    exact .inl found
  · rename_i found
    exact (free _ found).elim
  · exact .inr rfl

/-- Names are followed to their end, or a directory is missing. No other fault is left, as the names
are good and no file is in the way. -/
theorem walk_or_notFound (good : ∀ name ∈ names, isBadName name = false)
    (free : t.FreeOfFiles (way place names)) :
    t.walk place names = .ok (follow place names) ∨ t.walk place names = .error .notFound := by
  induction names generalizing place with
  | nil => exact .inl rfl
  | cons name names ih =>
    obtain ⟨goodName, goodNames⟩ := List.forall_mem_cons.1 good
    have entered : enter place name = .ok (follow place [name]) := enter_eq goodName
    rcases checkDirectory_or_notFound (free place mem_way_self) with found | missing
    · -- The directory is there, so that the walk goes on where the name leads.
      have walked : t.walk place (name :: names) = t.walk (follow place [name]) names := by
        rw [walk_cons, checkDirectory_eq_ok_iff.2 found, entered]
        rfl
      have led : follow place (name :: names) = follow (follow place [name]) names :=
        follow_cons entered
      rw [walked, led]
      exact ih goodNames (free.mono (List.subset_cons_self _ _))
    · rw [walk_cons, missing]
      exact .inr rfl

/-- All places that are passed hold directories if the last one does. Those before it do in any
case, as names are looked up in them. -/
theorem directory_of_walk (walked : t.walk place names = .ok dir)
    (last : t.node? dir = some .directory) {q : Place} (mem : q ∈ way place names) :
    t.node? q = some .directory := by
  induction names generalizing place with
  | nil =>
    cases walked
    rwa [List.mem_singleton.1 mem]
  | cons name names ih =>
    obtain ⟨directory, next, entered, rest⟩ := walk_cons_eq_ok_iff.1 walked
    rcases List.mem_cons.1 mem with rfl | mem
    · exact directory
    · have next_eq : follow place [name] = next := follow_cons entered
      exact ih rest (next_eq ▸ mem)

/-- A name that leads somewhere is no bad one, be it that it names a file or that it has a meaning
of its own. -/
theorem good_of_enter {next : Place} (entered : enter place name = .ok next) :
    isBadName name = false := by
  cases bad : isBadName name with
  | false => rfl
  | true =>
    -- The names with a meaning of their own are good ones.
    have ne_dot : name ≠ "." := by
      rintro rfl
      contradiction
    have ne_dots : name ≠ ".." := by
      rintro rfl
      contradiction
    rw [enter, if_neg ne_dot, if_neg ne_dots, if_pos bad] at entered
    contradiction

/-- All names that are walked are good ones, since the walk ends at the first one that is not. -/
theorem good_of_walk (walked : t.walk place names = .ok dir) :
    ∀ name ∈ names, isBadName name = false := by
  induction names generalizing place with
  | nil => exact fun name mem => absurd mem List.not_mem_nil
  | cons name names ih =>
    obtain ⟨_, next, entered, rest⟩ := walk_cons_eq_ok_iff.1 walked
    exact List.forall_mem_cons.2 ⟨good_of_enter entered, ih rest⟩

/-! ### One directory -/

/-- A directory that is there need not be made, whatever making it would come to. -/
theorem exists_ensureDirectory_of_isDirectory (there : t.isDirectory p) :
    ∃ t', t.ensureDirectory p = .ok t' := by
  unfold ensureDirectory
  split
  · exact ⟨_, rfl⟩
  · exact ⟨t, if_pos there⟩

/-- In a directory that is there another one can be made unless a file is in its place. The path may
end in `..`, and then it leads to a directory because the tree is rooted. -/
theorem exists_ensureDirectory_of_walk (good : WellSpelled p)
    (free : t.FreeOfFiles (t.placesOf p)) (ends : p.names = init ++ [name])
    (walked : t.walk (t.origin p) init = .ok dir) (found : t.node? dir = some .directory) :
    ∃ t', t.ensureDirectory p = .ok t' := by
  have goodName : isBadName name = false := good.good_names name (by simp [ends])
  have some : p.isEmpty = false := Path.isEmpty_eq_false_of_concat ends
  have located : t.locate p = .ok (follow dir [name]) := by
    refine locate_eq_ok_iff.2 ⟨good.good_path, some, ?_⟩
    rw [ends]
    exact walk_append_iff.2 ⟨dir, walked, walk_cons_eq_ok_iff.2 ⟨found, _, enter_eq goodName, rfl⟩⟩
  by_cases plain : name = "." ∨ name = ".."
  · -- The path leads to the directory itself or to the one above it.
    have there : t.node? (follow dir [name]) = .some .directory := by
      rcases plain with rfl | rfl
      · exact found
      · exact t.node?_dropLast found
    exact exists_ensureDirectory_of_isDirectory (isDirectory_of_locate located there)
  · rw [not_or] at plain
    have place : follow dir [name] = dir ++ [name] := by
      rw [follow, if_neg plain.1, if_neg plain.2, follow]
    let slot : t.Slot := ⟨dir, name, found⟩
    have endsIn : t.EndsIn p slot := endsIn_of_walk good.good_path ends walked plain goodName
    -- The place of the directory is among those that are free of files.
    have onWay : follow dir [name] ∈ t.placesOf p := by
      rw [← follow_eq_of_walk (locate_eq_ok_iff.1 located).2.2]
      exact follow_mem_way
    -- Something may be there already, and then it is a directory.
    cases held : t.node? slot.place with
    | none =>
      have made : t.makeDirectory p = .ok (t.put slot .directory (by simp [held])) := by
        rw [makeDirectory, newSlot_eq_ok_iff.2 endsIn]
        simp only [bind, Except.bind]
        rw [dif_pos held]
      exact ⟨_, by rw [ensureDirectory, made]⟩
    | some node =>
      cases node with
      | directory =>
        exact exists_ensureDirectory_of_isDirectory
          (isDirectory_of_locate endsIn.locate held)
      | file content => exact (free _ onWay content (place ▸ held)).elim

/-- There is no slot where the directory above is not found, so that none is made there. -/
theorem newSlot_eq_notFound {there : Fault} (good : WellSpelled p) (ends : p.names = init ++ [name])
    (missing : (t.walk (t.origin p) init >>= t.checkDirectory) = .error .notFound) :
    t.newSlot p there = .error .notFound := by
  have some : p.isEmpty = false := Path.isEmpty_eq_false_of_concat ends
  have last : p.names.getLast? = .some name := by rw [ends, List.getLast?_concat]
  have above : p.names.dropLast = init := by rw [ends, List.dropLast_concat]
  rw [newSlot, good.good_path, some, last, above]
  cases walked : t.walk (t.origin p) init with
  | error fault =>
    rw [walked] at missing
    cases missing
    rfl
  | ok dir =>
    rw [walked] at missing
    have unchecked : t.checkDirectory dir = .error .notFound := missing
    simp only [bind, Except.bind, Bool.false_eq_true, if_false]
    split
    · rename_i failed
      exact congrArg Except.error (Except.error.inj (failed.symm.trans unchecked))
    · rename_i checked
      rw [unchecked] at checked
      contradiction

/-- A directory is not found if the one above it is not. This is the fault after which the one above
is made. -/
theorem makeDirectory_eq_notFound (good : WellSpelled p) (ends : p.names = init ++ [name])
    (missing : (t.walk (t.origin p) init >>= t.checkDirectory) = .error .notFound) :
    t.makeDirectory p = .error .notFound := by
  rw [makeDirectory, newSlot_eq_notFound good ends missing]
  rfl

/-- The root is there, so that a path without names needs no directory. -/
theorem exists_ensureDirectory_root (good : WellSpelled p) (some : p.isEmpty = false)
    (root : p.names = []) : ∃ t', t.ensureDirectory p = .ok t' := by
  have located : t.locate p = .ok [] := by
    refine locate_eq_ok_iff.2 ⟨good.good_path, some, ?_⟩
    rw [origin_eq_nil some root, root, walk]
  exact exists_ensureDirectory_of_isDirectory (isDirectory_of_locate located rfl)

/-- Without files in the way a directory is there, can be made, or is to lie in a missing one. Only
in the last case the one above it is made first. -/
theorem ensureDirectory_or_notFound (good : WellSpelled p)
    (free : t.FreeOfFiles (t.placesOf p)) (some : p.isEmpty = false) :
    (∃ t', t.ensureDirectory p = .ok t') ∨ t.ensureDirectory p = .error .notFound := by
  cases last : p.names.getLast? with
  | none =>
    exact .inl (exists_ensureDirectory_root good some (List.getLast?_eq_none_iff.1 last))
  | some name =>
    obtain ⟨init, ends⟩ := List.getLast?_eq_some_iff.1 last
    have passed : way (t.origin p) init ⊆ t.placesOf p := by
      rw [placesOf, ends]
      exact way_subset_way (List.prefix_append init [name])
    have goodNames : ∀ name ∈ init, isBadName name = false := fun name mem =>
      good.good_names name (ends ▸ List.mem_append_left _ mem)
    have missing (walked : (t.walk (t.origin p) init >>= t.checkDirectory) = .error .notFound) :
        (∃ t', t.ensureDirectory p = .ok t') ∨ t.ensureDirectory p = .error .notFound := by
      rw [ensureDirectory, makeDirectory_eq_notFound good ends walked]
      by_cases there : t.isDirectory p
      · exact .inl ⟨t, if_pos there⟩
      · exact .inr (if_neg there)
    rcases walk_or_notFound goodNames (free.mono passed) with walked | unwalked
    · rcases checkDirectory_or_notFound (free _ (passed follow_mem_way)) with found | unfound
      · exact .inl (exists_ensureDirectory_of_walk good free ends walked found)
      · exact missing (by rw [walked]; exact unfound)
    · exact missing (by rw [unwalked]; rfl)

/-- A directory that has been made unless it was there is there, in either case. -/
theorem isDirectory_of_ensureDirectory (ensured : t.ensureDirectory p = .ok t') :
    t'.isDirectory p := by
  unfold ensureDirectory at ensured
  split at ensured
  · rename_i made
    cases ensured
    obtain ⟨slot, free, ends, none, rfl⟩ := exists_of_makeDirectory made
    have kept : Keeps slot.place t (t.put slot .directory free) := keeps_put_directory none
    refine isDirectory_of_locate (kept.locate ends.locate) ?_
    rw [node?_put, if_pos rfl]
  · split at ensured
    · rename_i there
      cases ensured
      exact there
    · contradiction

/-! ### Directories and those above them -/

/-- A directory that has been made with those above it is there, whichever of the cases has made it.
-/
theorem isDirectory_of_makeDirectories (some : p.isEmpty = false)
    (made : t.makeDirectories p = (.ok (), t')) : t'.isDirectory p := by
  revert made
  fun_cases makeDirectories t p with
  | case1 empty =>
    rw [some] at empty
    contradiction
  | case2 _ made' ensured =>
    rintro ⟨⟩
    exact isDirectory_of_ensureDirectory ensured
  | case5 _ _ _ _ _ _ made' ensured =>
    rintro ⟨⟩
    exact isDirectory_of_ensureDirectory ensured
  | _ => nofun

/-- `addsDirectories_makeDirectories` in terms of the tree that is left. -/
theorem addsDirectories_of_makeDirectories {result : Except Fault Unit}
    (made : t.makeDirectories p = (result, t')) : AddsDirectories (t.placesOf p) t t' := by
  have adds := addsDirectories_makeDirectories t p
  rwa [made] at adds

/-- The directory above a path, made with those above it, can be walked to. The empty path, for
which nothing is made, stands for the working directory. -/
theorem exists_walk_of_makeDirectories (made : t.makeDirectories p = (.ok (), t')) :
    ∃ dir, t'.walk (t'.origin p) p.names = .ok dir ∧ t'.node? dir = some .directory := by
  cases empty : p.isEmpty with
  | true => exact ⟨t'.home, walk_of_isEmpty empty, t'.home_directory⟩
  | false =>
    obtain ⟨dir, located, found⟩ := isDirectory_iff.1 (isDirectory_of_makeDirectories empty made)
    exact ⟨dir, (locate_eq_ok_iff.1 located).2.2, found⟩

/-- Places stay free of files when directories are made, as making them puts no file anywhere. -/
theorem FreeOfFiles.of_makeDirectories (free : t.FreeOfFiles places)
    (made : t.makeDirectories p = (.ok (), t')) : t'.FreeOfFiles places := by
  intro q mem content found
  rcases (addsDirectories_of_makeDirectories made).node? q with same | ⟨_, _, directory⟩
  · exact free q mem content (same ▸ found)
  · rw [directory] at found
    cases found

/-- Without files in the way, a directory can be made with those above it. The induction is that of
the function: from a directory to the one it lies in, and back down. -/
theorem exists_makeDirectories (good : WellSpelled p) (tidy : p.Tidy)
    (free : t.FreeOfFiles (t.placesOf p)) : ∃ t', t.makeDirectories p = (.ok (), t') := by
  fun_induction makeDirectories t p with
  | case1 => exact ⟨_, rfl⟩
  | case2 => exact ⟨_, rfl⟩
  | case3 p some failed none =>
    obtain ⟨_, ensured⟩ := exists_ensureDirectory_root (t := t) good (Bool.eq_false_iff.2 some)
      (tidy.names_eq_nil none)
    rw [failed] at ensured
    cases ensured
  | case4 p some failed parent above fault unmade unmade' ih =>
    -- The parent can be made, as no more is in its way.
    obtain ⟨_, made⟩ := ih (good.parent above) (tidy.parent above).2.1
      (free.mono (placesOf_parent above))
    rw [unmade'] at made
    cases made
  | case5 => exact ⟨_, rfl⟩
  | case6 p some failed parent above t₁ made fault failed' ih =>
    -- With the parent there, the directory itself can be made.
    obtain ⟨absolute, _, name, ends⟩ := tidy.parent above
    obtain ⟨dir, walked, found⟩ := exists_walk_of_makeDirectories made
    have home : t₁.home = t.home := (addsDirectories_of_makeDirectories made).home
    rw [origin, absolute, ← origin] at walked
    rw [← placesOf_eq_of_home home] at free
    obtain ⟨_, ensured⟩ := exists_ensureDirectory_of_walk good (free.of_makeDirectories made)
      ends walked found
    rw [failed'] at ensured
    cases ensured
  | case7 p some fault other failed =>
    rcases ensureDirectory_or_notFound good free (Bool.eq_false_iff.2 some) with
      ⟨_, ensured⟩ | missing
    · rw [failed] at ensured
      cases ensured
    · rw [failed] at missing
      cases missing
      exact (other rfl).elim

end FileTree

end TemplateCoverage
