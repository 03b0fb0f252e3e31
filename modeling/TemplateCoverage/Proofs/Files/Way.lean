import TemplateCoverage.Proofs.Files.Directory

/-!
# `TemplateCoverage.Proofs.Files.Way`: what a write touches

A path passes one place after each of its names. Directories are made only at these places, and only
where nothing is, also if making them fails in the end. So a write changes one file, to which its
path leads, and adds directories on the way to it. The theorems:

* `placesOf_parent`: a parent's path passes no other places;
* `addsDirectories_makeDirectories`: making directories adds some on the way and does nothing else;
* `ChangedBy.trans`: changes that documents make one after the other are changes that they make;
* `changedBy_write`: what a write changes, whether or not it succeeds.
-/

set_option autoImplicit false

namespace TemplateCoverage.FileTree

variable {t t' t'' : FileTree} {place q : Place} {places places' : List Place} {p : Path}
  {names names' : List String}

/-! ### The way of a path -/

/-- The places that names pass from a place on, which is the first of them. It goes by the names
alone, also where no directory is, and a place may be passed more than once. -/
def way (place : Place) : List String → List Place
  | [] => [place]
  | name :: names => place :: way (follow place [name]) names

/-- The places that a path passes, from the one where it starts to the one that it names. -/
def placesOf (t : FileTree) (p : Path) : List Place := way (t.origin p) p.names

/-- The places on the way to a document, at which directories are made before it is written. -/
def wayTo (t : FileTree) (path : String) : List Place :=
  t.placesOf (documentDirectory (Path.parse path))

/-- A way passes the place where it starts, also a way of no names. -/
theorem mem_way_self : place ∈ way place names := by
  cases names <;> exact List.mem_cons_self

/-- A way passes the place where it ends, so that a condition on its places is one on its end. -/
theorem follow_mem_way : follow place names ∈ way place names := by
  induction names generalizing place with
  | nil => exact List.mem_cons_self
  | cons name names ih =>
    have first : follow place (name :: names) = follow (follow place [name]) names := by
      rw [← follow_append, List.singleton_append]
    rw [first]
    exact List.mem_cons_of_mem _ ih

/-- Fewer names at the end pass fewer places, by induction on the names in front. -/
theorem way_subset_way (first : names <+: names') : way place names ⊆ way place names' := by
  induction names generalizing place names' with
  | nil =>
    refine List.cons_subset.2 ⟨mem_way_self, List.nil_subset _⟩
  | cons name names ih =>
    obtain ⟨rest, rfl⟩ := first
    exact List.cons_subset_cons _ (ih (List.prefix_append names rest))

/-- Passing over `.` passes no other places, as the name stays where it is. -/
theorem way_filter_subset : way place (names.filter (· ≠ ".")) ⊆ way place names := by
  induction names generalizing place with
  | nil => exact List.Subset.refl _
  | cons name names ih =>
    by_cases dot : name = "."
    · have stays : follow place [name] = place := by rw [follow, if_pos dot, follow]
      rw [List.filter_cons_of_neg (by simpa using dot), way, stays]
      exact List.subset_cons_of_subset _ ih
    · rw [List.filter_cons_of_pos (by simpa using dot)]
      exact List.cons_subset_cons _ ih

/-- The names of a path that count pass no places but those of all its names. -/
theorem way_parts_subset : way place p.parts ⊆ way place p.names := by
  unfold Path.parts
  split
  · -- The first name is kept even if it is `.`, so that only what is behind it is filtered.
    rename_i names _ eq
    rw [eq]
    exact List.cons_subset_cons _ way_filter_subset
  · exact way_filter_subset

/-- A parent's path passes no other places: its names are the ones that count without the last. -/
theorem placesOf_parent {parent : Path} (above : p.parent? = some parent) :
    t.placesOf parent ⊆ t.placesOf p := by
  obtain ⟨_, rfl⟩ := Path.parent?_eq_some_iff.1 above
  exact List.Subset.trans (way_subset_way (List.dropLast_prefix _)) way_parts_subset

/-- The places of a path depend on the working directory only, so that they are the same before and
after a write. -/
theorem placesOf_eq_of_home (home : t'.home = t.home) (p : Path) :
    t'.placesOf p = t.placesOf p := by
  rw [placesOf, placesOf, origin_eq_of_home home]

/-- The places on the way to a document are the same in trees with one working directory. -/
theorem wayTo_eq_of_home (home : t'.home = t.home) (path : String) :
    t'.wayTo path = t.wayTo path := placesOf_eq_of_home home _

/-! ### Added directories -/

/-- Two trees differ only by directories that the second one has at some places where nothing is in
the first one. -/
structure AddsDirectories (places : List Place) (t t' : FileTree) : Prop where
  home : t'.home = t.home
  nodes : ∀ q, t'.nodes.get? q = t.nodes.get? q ∨
    q ∈ places ∧ t.node? q = none ∧ t'.nodes.get? q = some .directory

/-- A tree differs from itself by no directory, as where all parents are there already. -/
theorem AddsDirectories.refl (places : List Place) (t : FileTree) : AddsDirectories places t t :=
  ⟨rfl, fun _ => .inl rfl⟩

/-- What stands in the second tree: what stood in the first one, or a directory at one of the places
where nothing was. -/
theorem AddsDirectories.node? (adds : AddsDirectories places t t') (q : Place) :
    t'.node? q = t.node? q ∨ q ∈ places ∧ t.node? q = none ∧ t'.node? q = some .directory := by
  unfold FileTree.node? nodeAt
  by_cases root : q = []
  · simp [root]
  · have held := adds.nodes q
    rw [FileTree.node?, nodeAt, if_neg root] at held
    simpa [root] using held

/-- What is there stays there, be it a file or a directory, and files keep their texts. -/
theorem AddsDirectories.node?_eq_some (adds : AddsDirectories places t t') {node : FileNode}
    (found : t.node? q = some node) : t'.node? q = some node := by
  rcases adds.node? q with same | ⟨_, none, _⟩
  · rw [same, found]
  · rw [none] at found
    contradiction

/-- Paths name the places that they named, as the working directory is the same. -/
theorem AddsDirectories.target_eq (adds : AddsDirectories places t t') (path : String) :
    t'.target path = t.target path := target_eq_of_home adds.home path

/-- Directories that are added in two steps at some places are added there. -/
theorem AddsDirectories.trans (first : AddsDirectories places t t')
    (second : AddsDirectories places t' t'') : AddsDirectories places t t'' := by
  refine ⟨second.home.trans first.home, fun q => ?_⟩
  rcases second.nodes q with same | ⟨mem, none, made⟩
  · rw [same]
    exact first.nodes q
  · -- What is added in the second step was not there before the first one either.
    rcases first.node? q with same | ⟨_, _, found⟩
    · exact .inr ⟨mem, same ▸ none, made⟩
    · rw [found] at none
      contradiction

/-- A directory that is made where nothing was is added, and this is the step for a row of
directories. -/
theorem addsDirectories_put {slot : t.Slot} {free : t.node? slot.place ≠ some .directory}
    (new : t.node? slot.place = none) (mem : slot.place ∈ places) :
    AddsDirectories places t (t.put slot .directory free) := by
  refine ⟨rfl, fun r => ?_⟩
  rw [put, SortedMap.get?_insert]
  split
  · rename_i here
    exact .inr ⟨here ▸ mem, here ▸ new, rfl⟩
  · exact .inl rfl

/-- Making directories adds some of those that the path passes, also if it fails in the end. Each
directory is made for the path or one above it, and their places are passed as well. -/
theorem addsDirectories_makeDirectories (t : FileTree) (p : Path) :
    AddsDirectories (t.placesOf p) t (t.makeDirectories p).2 := by
  -- The places are those of the first tree, so that each step is about trees with its working
  -- directory.
  let R (s s' : FileTree) : Prop := s.home = t.home → AddsDirectories (t.placesOf p) s s'
  have step : ∀ s q s', t.placesOf q ⊆ t.placesOf p → s.makeDirectory q = .ok s' → R s s' := by
    intro s q s' below made home
    obtain ⟨slot, _, ends, none, rfl⟩ := exists_of_makeDirectory made
    have place : slot.place = follow (s.origin q) q.names :=
      (follow_eq_of_walk (locate_eq_ok_iff.1 ends.locate).2.2).symm
    refine addsDirectories_put none (below ?_)
    rw [place, ← placesOf_eq_of_home home]
    exact follow_mem_way
  exact makeDirectories_steps (R := R) (Q := fun q => t.placesOf q ⊆ t.placesOf p)
    (fun s _ => .refl _ s)
    (fun _ _ _ first second home => (first home).trans (second ((first home).home.trans home)))
    (fun _ _ above below => List.Subset.trans (placesOf_parent above) below) step t
    (List.Subset.refl _) rfl

/-! ### What documents change -/

/-- Two trees differ only by what documents do to the first one: a file to whose place a document's
path leads holds the whole text of the document, and directories are added that are missing on the
way to one. `IsDocument` says of a path and a text whether they are a document's. -/
structure ChangedBy (IsDocument : String → String → Prop) (t t' : FileTree) : Prop where
  home : t'.home = t.home
  nodes : ∀ place, t'.node? place = t.node? place ∨
    (∃ path text, IsDocument path text ∧ t.target path = place ∧
      t.node? place ≠ some .directory ∧ t'.node? place = some (.file (.text text))) ∨
    ∃ path text, IsDocument path text ∧ place ∈ t.wayTo path ∧
      t.node? place = none ∧ t'.node? place = some .directory

variable {IsDocument : String → String → Prop}

/-- Documents may change nothing, as when the first of them cannot be written. -/
theorem ChangedBy.refl (IsDocument : String → String → Prop) (t : FileTree) :
    ChangedBy IsDocument t t :=
  ⟨rfl, fun _ => .inl rfl⟩

/-- Changes one after the other are changes. The places to which paths lead are those of the first
tree in both, as the working directory stays. -/
theorem ChangedBy.trans (first : ChangedBy IsDocument t t') (second : ChangedBy IsDocument t' t'') :
    ChangedBy IsDocument t t'' := by
  refine ⟨second.home.trans first.home, fun place => ?_⟩
  rcases second.nodes place with same | ⟨path, text, document, leads, free, written⟩ |
    ⟨path, text, document, passed, none, made⟩
  · rw [same]
    exact first.nodes place
  · rw [target_eq_of_home first.home] at leads
    refine .inr (.inl ⟨path, text, document, leads, fun found => free ?_, written⟩)
    -- A directory stays one in the first step.
    rcases first.nodes place with same | ⟨_, _, _, _, free', _⟩ | ⟨_, _, _, _, _, made⟩
    · rw [same, found]
    · exact (free' found).elim
    · exact made
  · rw [wayTo_eq_of_home first.home] at passed
    refine .inr (.inr ⟨path, text, document, passed, ?_, made⟩)
    -- What is missing after the first step was missing before.
    rcases first.nodes place with same | ⟨_, _, _, _, _, written⟩ | ⟨_, _, _, _, _, made'⟩
    · exact same ▸ none
    · rw [none] at written
      contradiction
    · rw [none] at made'
      contradiction

/-- Writing a document changes one file, if any, and adds directories on the way to it, also if it
fails. Whose document it is does not matter, as long as its path and text are some document's. -/
theorem changedBy_write {path text : String} (document : IsDocument path text) (t : FileTree) :
    ChangedBy IsDocument t (t.write path text).2 := by
  have adds := addsDirectories_makeDirectories t (documentDirectory (Path.parse path))
  have made : ChangedBy IsDocument t (t.makeDirectories (documentDirectory (Path.parse path))).2 :=
    ⟨adds.home, fun place => (adds.node? place).imp_right fun ⟨passed, free, found⟩ =>
      .inr ⟨path, text, document, passed, free, found⟩⟩
  rcases write_cases t path text with
    ⟨_, failed⟩ | ⟨t₁, slot, free, succeeded, ends, _, written⟩
  · rw [failed]
    exact made
  · rw [succeeded] at made
    rw [written]
    refine made.trans ⟨rfl, fun place => ?_⟩
    rw [node?_put]
    split
    · rename_i here
      exact .inr (.inl ⟨path, text, document, here ▸ target_eq_of_locate ends.locate, here ▸ free,
        rfl⟩)
    · exact .inl rfl

end TemplateCoverage.FileTree
