import TemplateCoverage.Files.Tree
import TemplateCoverage.Proofs.Except

/-!
# `TemplateCoverage.Proofs.Files.Tree`: what writing leaves alone

Writing a document makes directories where nothing was and puts one file in place. Whatever stands
elsewhere stays, and directories stay directories, so that every other document is read as before.
The theorems:

* `target_eq_of_locate`: a path leads to the place that it names, whatever the tree;
* `makeDirectories_steps`, `write_cases`: what making directories and writing a document come to;
* `keeps_write`: writing keeps everything but the file at the place of the path;
* `read_write`: the text that was written is read;
* `Keeps.read`: documents at other places are read as before;
* `Writes.read_of_mem`, `Writes.read_of_ne`: the same for several documents that are written.
-/

set_option autoImplicit false

namespace TemplateCoverage.FileTree

variable {t t' t'' : FileTree} {place q : Place} {p : Path}

/-- Trees with one working directory and equal tables are equal: the proofs that they carry add
nothing. The tables are compared, not what stands in the trees, as a table might have the root. -/
theorem ext_get? (home : t'.home = t.home) (nodes : ∀ q, t'.nodes.get? q = t.nodes.get? q) :
    t' = t := by
  obtain ⟨_, _, _, _⟩ := t
  obtain ⟨_, _, _, _⟩ := t'
  obtain rfl := home
  obtain rfl := SortedMap.ext nodes
  rfl

/-! ### Where paths lead -/

/-- The place that names lead to from a place if every directory on the way is there. It is computed
from the names alone, so that it is the same for all trees. -/
def follow (place : Place) : List String → Place
  | [] => place
  | name :: names =>
    if name = "." then follow place names
    else if name = ".." then follow place.dropLast names
    else follow (place ++ [name]) names

/-- The place that a path names, whether or not anything stands there. Only the working directory of
the tree counts, and only for a relative path. -/
def target (t : FileTree) (path : String) : Place :=
  follow (t.origin (Path.parse path)) (Path.parse path).names

/-- Paths start at the same places in trees with one working directory. -/
theorem origin_eq_of_home (home : t'.home = t.home) (p : Path) : t'.origin p = t.origin p := by
  rw [origin, origin, home]

/-- Paths name the same places in trees with one working directory: the names in them do not depend
on the tree. -/
theorem target_eq_of_home (home : t'.home = t.home) (path : String) :
    t'.target path = t.target path := by
  rw [target, target, origin_eq_of_home home]

/-- A place passes the check if and only if it holds a directory; the root always does. -/
theorem checkDirectory_eq_ok_iff :
    t.checkDirectory place = .ok () ↔ t.node? place = some .directory := by
  refine ⟨directory_of_check, fun found => ?_⟩
  rw [checkDirectory, found]

/-- The place that one name leads to from a directory. It is the step that walking names and
following them have in common: only a bad name stops it. -/
def enter (place : Place) (name : String) : Except Fault Place :=
  if name = "." then .ok place
  else if name = ".." then .ok place.dropLast
  else if isBadName name then .error .badName
  else .ok (place ++ [name])

/-- Walking names is a check that the place is a directory, one step, and a walk from there on. The
three cases of a name are folded into `enter`, so that no later proof repeats them. -/
theorem walk_cons {name : String} {names : List String} :
    t.walk place (name :: names) =
      t.checkDirectory place >>= fun _ => enter place name >>= fun next => t.walk next names := by
  rw [walk, enter]
  split
  · rfl
  · split
    · rfl
    · split <;> rfl

/-- Names can be walked if the place holds a directory and the rest can be walked from where the
first name leads. Every induction over a walk takes its step with it. -/
theorem walk_cons_eq_ok_iff {name : String} {names : List String} :
    t.walk place (name :: names) = .ok q ↔ t.node? place = some .directory ∧
      ∃ next, enter place name = .ok next ∧ t.walk next names = .ok q := by
  rw [walk_cons, bind_eq_ok_iff]
  constructor
  · rintro ⟨⟨⟩, checked, walked⟩
    exact ⟨checkDirectory_eq_ok_iff.1 checked, bind_eq_ok_iff.1 walked⟩
  · rintro ⟨directory, walked⟩
    exact ⟨(), checkDirectory_eq_ok_iff.2 directory, bind_eq_ok_iff.2 walked⟩

/-- Following names goes on from where the first one leads, if it leads anywhere. `follow` does not
ask whether a name is a bad one, hence the hypothesis. -/
theorem follow_cons {name : String} {names : List String} {next : Place}
    (h : enter place name = .ok next) : follow place (name :: names) = follow next names := by
  unfold enter at h
  rw [follow]
  split at h
  · rename_i same
    rw [if_pos same, Except.ok.inj h]
  · rename_i notSame
    rw [if_neg notSame]
    split at h
    · rename_i up
      rw [if_pos up, Except.ok.inj h]
    · rename_i notUp
      rw [if_neg notUp]
      split at h
      · contradiction
      · rw [Except.ok.inj h]

/-- A walk that succeeds ends where the names lead, by induction on the names. So what is walked to
can be told without the tree. -/
theorem follow_eq_of_walk {names : List String} (h : t.walk place names = .ok q) :
    follow place names = q := by
  induction names generalizing place with
  | nil =>
    cases h
    rfl
  | cons name names ih =>
    obtain ⟨_, next, entered, walked⟩ := walk_cons_eq_ok_iff.1 h
    rw [follow_cons entered, ih walked]

/-- Names are walked one part after the other, and the second part starts where the first one ends.
-/
theorem walk_append_iff {names names' : List String} :
    t.walk place (names ++ names') = .ok q ↔
      ∃ dir, t.walk place names = .ok dir ∧ t.walk dir names' = .ok q := by
  induction names generalizing place with
  | nil =>
    constructor
    · exact fun walked => ⟨place, rfl, walked⟩
    · rintro ⟨dir, here, walked⟩
      cases here
      exact walked
  | cons name names ih =>
    rw [List.cons_append, walk_cons_eq_ok_iff]
    constructor
    · rintro ⟨directory, next, entered, walked⟩
      obtain ⟨dir, first, second⟩ := ih.1 walked
      exact ⟨dir, walk_cons_eq_ok_iff.2 ⟨directory, next, entered, first⟩, second⟩
    · rintro ⟨dir, first, second⟩
      obtain ⟨directory, next, entered, walked⟩ := walk_cons_eq_ok_iff.1 first
      -- The first name is walked alike, and what is behind it comes in two parts.
      exact ⟨directory, next, entered, ih.2 ⟨dir, walked, second⟩⟩

/-- Where a path leads if it can be followed: it is neither bad nor empty, and its names can be
walked from where it starts. -/
theorem locate_eq_ok_iff : t.locate p = .ok q ↔
    isBadPath p = false ∧ p.isEmpty = false ∧ t.walk (t.origin p) p.names = .ok q := by
  unfold locate
  cases isBadPath p with
  | true => simp
  | false => cases p.isEmpty <;> simp

/-- A path without names that is not the empty one starts at the root, and is the root. -/
theorem origin_eq_nil (some : p.isEmpty = false) (none : p.names = []) : t.origin p = [] := by
  have absolute : p.absolute := by simpa [Path.isEmpty, none] using some
  rw [origin, if_pos absolute]

/-- The names of the empty path, which are none, are walked to the working directory, although the
path itself cannot be followed. -/
theorem walk_of_isEmpty (empty : p.isEmpty) : t.walk (t.origin p) p.names = .ok t.home := by
  obtain ⟨relative, none⟩ : p.absolute = false ∧ p.names = [] := by
    simpa [Path.isEmpty] using empty
  rw [none, origin, relative]
  rfl

/-- A path leads to the place that it names, whatever the tree. So two trees in which it can be
followed agree on where. -/
theorem target_eq_of_locate {path : String} (h : t.locate (Path.parse path) = .ok q) :
    t.target path = q :=
  follow_eq_of_walk (locate_eq_ok_iff.1 h).2.2

/-- The names of a path lead to a slot: those before the last one to its directory, and the last one
is a name that a file in a directory can have. -/
structure EndsIn (t : FileTree) (p : Path) (slot : t.Slot) : Prop where
  good_path : isBadPath p = false
  names : p.names = p.names.dropLast ++ [slot.name]
  walk : t.walk (t.origin p) p.names.dropLast = .ok slot.dir
  ne_dot : slot.name ≠ "."
  ne_dots : slot.name ≠ ".."
  good_name : isBadName slot.name = false

/-- A path that ends in a slot has a name, so that it is not the empty one. -/
theorem EndsIn.isEmpty_eq_false {slot : t.Slot} (ends : t.EndsIn p slot) : p.isEmpty = false :=
  Path.isEmpty_eq_false_of_concat ends.names

/-- A path ends in a slot if the names before the last one can be walked to the slot's directory.
This is `EndsIn` for names that come as a list and one more. -/
theorem endsIn_of_walk {slot : t.Slot} {init : List String} (good : isBadPath p = false)
    (names : p.names = init ++ [slot.name]) (walked : t.walk (t.origin p) init = .ok slot.dir)
    (plain : slot.name ≠ "." ∧ slot.name ≠ "..") (goodName : isBadName slot.name = false) :
    t.EndsIn p slot := by
  have above : p.names.dropLast = init := by rw [names, List.dropLast_concat]
  exact ⟨good, by rw [above, names], by rw [above, walked], plain.1, plain.2, goodName⟩

/-- A new file or directory goes where the path ends, and nowhere if it does not end in a slot. -/
theorem newSlot_eq_ok_iff {there : Fault} {slot : t.Slot} :
    t.newSlot p there = .ok slot ↔ t.EndsIn p slot := by
  constructor
  · intro h
    unfold newSlot at h
    split at h
    · contradiction
    · rename_i good
      split at h
      · contradiction
      · split at h
        · contradiction
        · rename_i name last
          obtain ⟨dir, walked, h⟩ := bind_eq_ok_iff.1 h
          split at h
          · contradiction
          · split at h
            · contradiction
            · rename_i plain
              split at h
              · contradiction
              · rename_i goodName
                cases h
                obtain ⟨init, eq⟩ := List.getLast?_eq_some_iff.1 last
                rw [eq, List.dropLast_concat] at walked
                exact endsIn_of_walk (Bool.eq_false_iff.2 good) eq walked (not_or.1 plain)
                  (Bool.eq_false_iff.2 goodName)
  · intro ends
    have last : p.names.getLast? = some slot.name :=
      List.getLast?_eq_some_iff.2 ⟨_, ends.names⟩
    have plain : ¬(slot.name = "." ∨ slot.name = "..") := not_or.2 ⟨ends.ne_dot, ends.ne_dots⟩
    have checked : t.checkDirectory slot.dir = .ok () := checkDirectory_eq_ok_iff.2 slot.there
    unfold newSlot
    rw [ends.good_path, ends.isEmpty_eq_false, last]
    simp only [Bool.false_eq_true, if_false, bind, Except.bind, ends.walk]
    split
    · rename_i fault failed
      rw [checked] at failed
      contradiction
    · rw [if_neg plain, ends.good_name]
      rfl

/-- A path that ends in a slot leads to its place, whether or not anything stands there yet. -/
theorem EndsIn.locate {slot : t.Slot} (ends : t.EndsIn p slot) : t.locate p = .ok slot.place := by
  have entered : enter slot.dir slot.name = .ok slot.place := by
    rw [enter, if_neg ends.ne_dot, if_neg ends.ne_dots, ends.good_name]
    rfl
  refine locate_eq_ok_iff.2 ⟨ends.good_path, ends.isEmpty_eq_false, ?_⟩
  rw [ends.names]
  exact walk_append_iff.2
    ⟨slot.dir, ends.walk, walk_cons_eq_ok_iff.2 ⟨slot.there, _, entered, rfl⟩⟩

/-- Slots at one place are the same: the place is the directory and then the name. -/
theorem Slot.place_inj {slot slot' : t.Slot} (same : slot.place = slot'.place) : slot = slot' := by
  obtain ⟨dir, name, _⟩ := slot
  obtain ⟨dir', name', _⟩ := slot'
  obtain ⟨dirs, names⟩ := List.append_inj' same rfl
  cases dirs
  cases names
  rfl

/-- The root is in no slot, as every place of a slot ends in a name. -/
theorem Slot.place_ne_nil (slot : t.Slot) : slot.place ≠ [] := by simp [Slot.place]

/-! ### What stays -/

/-- One tree keeps what another one holds: directories stay, and whatever stands anywhere but at one
place stays. The one place is where a document is written; more may stand in the new tree. -/
structure Keeps (place : Place) (t t' : FileTree) : Prop where
  home : t'.home = t.home
  directories : ∀ q, t.node? q = some .directory → t'.node? q = some .directory
  nodes : ∀ q node, q ≠ place → t.node? q = some node → t'.node? q = some node

/-- A tree keeps what it holds itself, which is all that an operation that fails has to show. -/
theorem Keeps.refl (place : Place) (t : FileTree) : Keeps place t t :=
  ⟨rfl, fun _ found => found, fun _ _ _ found => found⟩

/-- What is kept in two steps is kept, if the place that need not be kept is the same in both. -/
theorem Keeps.trans (first : Keeps place t t') (second : Keeps place t' t'') :
    Keeps place t t'' :=
  ⟨second.home.trans first.home,
    fun q found => second.directories q (first.directories q found),
    fun q node ne found => second.nodes q node ne (first.nodes q node ne found)⟩

/-- Paths start where they did, as the working directory stays. No operation here moves it. -/
theorem Keeps.origin_eq (keeps : Keeps place t t') (p : Path) : t'.origin p = t.origin p :=
  origin_eq_of_home keeps.home p

/-- Paths name the places that they did, for the same reason. -/
theorem Keeps.target_eq (keeps : Keeps place t t') (path : String) :
    t'.target path = t.target path := target_eq_of_home keeps.home path

/-- Names that can be walked can still be walked, and lead to the same place. -/
theorem Keeps.walk (keeps : Keeps place t t') {start : Place} {names : List String}
    (h : t.walk start names = .ok q) : t'.walk start names = .ok q := by
  induction names generalizing start with
  | nil => exact h
  | cons name names ih =>
    obtain ⟨directory, next, entered, walked⟩ := walk_cons_eq_ok_iff.1 h
    -- Only directories are passed on the way, and these stay.
    exact walk_cons_eq_ok_iff.2 ⟨keeps.directories _ directory, next, entered, ih walked⟩

/-- Paths that can be followed can still be followed. The converse does not hold: directories may
have been made in between. -/
theorem Keeps.locate (keeps : Keeps place t t') (h : t.locate p = .ok q) :
    t'.locate p = .ok q := by
  obtain ⟨good, some, walked⟩ := locate_eq_ok_iff.1 h
  rw [← keeps.origin_eq] at walked
  exact locate_eq_ok_iff.2 ⟨good, some, keeps.walk walked⟩

/-- What a text is read from: a path that can be followed and ends in no slash leads to a file that
holds the text. -/
theorem read_eq_ok_iff {path text : String} : t.read path = .ok text ↔
    ∃ q, t.locate (Path.parse path) = .ok q ∧ t.node? q = some (.file (.text text)) ∧
      (Path.parse path).endsInSlash = false := by
  unfold FileTree.read
  rw [bind_eq_ok_iff]
  constructor
  · rintro ⟨q, located, h⟩
    split at h
    · contradiction
    · contradiction
    · rename_i content found
      split at h
      · contradiction
      · -- A path that ends in a slash can lead to a directory only.
        rename_i noSlash
        split at h
        · cases h
          exact ⟨q, located, found, Bool.eq_false_iff.2 noSlash⟩
        · contradiction
  · rintro ⟨q, located, found, noSlash⟩
    refine ⟨q, located, ?_⟩
    rw [found]
    simp [noSlash]

/-- Documents at other places are read as before. A document whose path cannot be followed is not
spoken of; it may come to be there. -/
theorem Keeps.read (keeps : Keeps place t t') {path text : String} (ne : t.target path ≠ place)
    (h : t.read path = .ok text) : t'.read path = .ok text := by
  obtain ⟨q, located, found, noSlash⟩ := read_eq_ok_iff.1 h
  rw [target_eq_of_locate located] at ne
  exact read_eq_ok_iff.2 ⟨q, keeps.locate located, keeps.nodes q _ ne found, noSlash⟩

/-! ### Writing -/

/-- A new directory keeps everything, whatever the place that need not be kept: nothing stood where
it is put. -/
theorem keeps_put_directory {slot : t.Slot} {free : t.node? slot.place ≠ some .directory}
    (new : t.node? slot.place = none) : Keeps place t (t.put slot .directory free) := by
  have kept : ∀ r node, t.node? r = some node →
      (t.put slot .directory free).node? r = some node := by
    intro r node found
    -- Where the directory is put nothing was found.
    have other : r ≠ slot.place := fun eq => by
      rw [eq, new] at found
      contradiction
    rw [node?_put, if_neg other, found]
  exact ⟨rfl, fun r found => kept r _ found, fun r node _ found => kept r node found⟩

/-- A file that is put in place keeps everything elsewhere, and it takes no directory's place. -/
theorem keeps_put_file {slot : t.Slot} {content : Content}
    (free : t.node? slot.place ≠ some .directory) :
    Keeps slot.place t (t.put slot (.file content) free) := by
  refine ⟨rfl, fun r found => ?_, fun r node other found => ?_⟩
  · have other : r ≠ slot.place := fun eq => free (eq ▸ found)
    rw [node?_put, if_neg other, found]
  · rw [node?_put, if_neg other, found]

/-- One directory is made where nothing was, in a directory that was there. Nothing else of the tree
is different. -/
theorem exists_of_makeDirectory (h : t.makeDirectory p = .ok t') :
    ∃ (slot : t.Slot) (free : t.node? slot.place ≠ some .directory), t.EndsIn p slot ∧
      t.node? slot.place = none ∧ t' = t.put slot .directory free := by
  obtain ⟨slot, new, made⟩ := bind_eq_ok_iff.1 h
  split at made
  · rename_i none
    cases made
    exact ⟨slot, _, newSlot_eq_ok_iff.1 new, none, rfl⟩
  · contradiction

/-- What each directory that is made brings about, making directories does, also if it fails in the
end. Only the path itself and paths above it are made, so that what holds of a path's parent if it
holds of the path may be used of each. -/
theorem makeDirectories_steps {R : FileTree → FileTree → Prop} {Q : Path → Prop}
    (refl : ∀ t, R t t) (trans : ∀ t t' t'', R t t' → R t' t'' → R t t'')
    (up : ∀ p q, p.parent? = some q → Q p → Q q)
    (step : ∀ t p t', Q p → t.makeDirectory p = .ok t' → R t t') (t : FileTree) {p : Path}
    (holds : Q p) : R t (t.makeDirectories p).2 := by
  have ensure : ∀ t p t', Q p → t.ensureDirectory p = .ok t' → R t t' := by
    intro t p t' holds h
    unfold ensureDirectory at h
    split at h
    · rename_i made
      cases h
      exact step t p t' holds made
    · split at h
      · cases h
        exact refl t
      · contradiction
  -- The induction is on the way up to the first directory that is there; each case takes at most
  -- one step on the way down.
  fun_induction makeDirectories t p with
  | case1 => exact refl _
  | case2 p _ made found => exact ensure _ p _ holds found
  | case3 => exact refl _
  -- The parent is made first, whether or not the directory itself is then made.
  | case4 p _ _ q above fault made failed ih =>
    have parent := ih (up p q above holds)
    rwa [failed] at parent
  | case5 p _ _ q above made parent made' found ih =>
    have first := ih (up p q above holds)
    rw [parent] at first
    exact trans _ _ _ first (ensure _ p _ holds found)
  | case6 p _ _ q above made parent fault _ ih =>
    have first := ih (up p q above holds)
    rwa [parent] at first
  | case7 => exact refl _

/-- Making directories keeps everything, whichever place is left out, also if it fails in the end.
-/
theorem keeps_makeDirectories (place : Place) (t : FileTree) (p : Path) :
    Keeps place t (t.makeDirectories p).2 := by
  refine makeDirectories_steps (Q := fun _ => True) (Keeps.refl place) (fun _ _ _ => Keeps.trans)
    (fun _ _ _ => id) ?_ t trivial
  intro t p t' _ made
  -- A directory is only made where nothing was.
  obtain ⟨slot, _, _, none, rfl⟩ := exists_of_makeDirectory made
  exact keeps_put_directory none

/-- A write makes directories, and then it fails or puts the file where its path leads, which is no
directory. -/
theorem write_cases (t : FileTree) (path text : String) :
    (∃ fault, t.write path text =
      (.error fault, (t.makeDirectories (documentDirectory (Path.parse path))).2)) ∨
    ∃ (t₁ : FileTree) (slot : t₁.Slot) (free : t₁.node? slot.place ≠ some .directory),
      t.makeDirectories (documentDirectory (Path.parse path)) = (.ok (), t₁) ∧
      t₁.EndsIn (Path.parse path) slot ∧ (Path.parse path).endsInSlash = false ∧
      t.write path text = (.ok (), t₁.put slot (.file (.text text)) free) := by
  cases made : t.makeDirectories (documentDirectory (Path.parse path)) with
  | mk result t₁ =>
    cases result with
    | error fault => exact .inl ⟨fault, by simp only [FileTree.write, made]⟩
    | ok _ =>
      cases replaced : t₁.replace (Path.parse path) (.text text) with
      | error fault => exact .inl ⟨fault, by simp only [FileTree.write, made, replaced]⟩
      | ok t₂ =>
        obtain ⟨slot, new, put⟩ := bind_eq_ok_iff.1 replaced
        split at put
        · contradiction
        · rename_i free
          split at put
          · contradiction
          · rename_i noSlash
            cases put
            exact .inr ⟨t₁, slot, free, rfl, newSlot_eq_ok_iff.1 new, Bool.eq_false_iff.2 noSlash,
              by simp only [FileTree.write, made, replaced]⟩

/-- What a write that succeeds has done: its directories are there, and the document is put in a
slot of the tree that these left. -/
theorem exists_of_write {path text : String} (h : t.write path text = (.ok (), t')) :
    ∃ (t₁ : FileTree) (slot : t₁.Slot) (free : t₁.node? slot.place ≠ some .directory),
      t.makeDirectories (documentDirectory (Path.parse path)) = (.ok (), t₁) ∧
      t₁.EndsIn (Path.parse path) slot ∧ (Path.parse path).endsInSlash = false ∧
      t' = t₁.put slot (.file (.text text)) free := by
  rcases write_cases t path text with ⟨_, failed⟩ | ⟨t₁, slot, free, made, ends, noSlash, written⟩
  · rw [failed] at h
    cases h
  · rw [written] at h
    cases h
    exact ⟨t₁, slot, free, made, ends, noSlash, rfl⟩

/-- Writing keeps everything but the file at the place of the path, whether or not the write
succeeds. -/
theorem keeps_write (t : FileTree) (path text : String) :
    Keeps (t.target path) t (t.write path text).2 := by
  have dirs := keeps_makeDirectories (t.target path) t (documentDirectory (Path.parse path))
  rcases write_cases t path text with ⟨_, failed⟩ | ⟨t₁, slot, free, made, ends, _, written⟩
  · rw [failed]
    exact dirs
  · rw [made] at dirs
    rw [written]
    refine dirs.trans ?_
    -- The directories made do not change where the path leads.
    rw [← dirs.target_eq, target_eq_of_locate ends.locate]
    exact keeps_put_file free

/-- The same of a write that is known to succeed, in terms of the tree that it leaves. -/
theorem keeps_of_write {path text : String} (h : t.write path text = (.ok (), t')) :
    Keeps (t.target path) t t' := by
  have keeps := keeps_write t path text
  rwa [h] at keeps

/-- The text that was written is read, from the same path and as a whole. -/
theorem read_write {path text : String} (h : t.write path text = (.ok (), t')) :
    t'.read path = .ok text := by
  obtain ⟨t₁, slot, free, _, ends, noSlash, rfl⟩ := exists_of_write h
  have kept : Keeps slot.place t₁ (t₁.put slot (.file (.text text)) free) := keeps_put_file free
  refine read_eq_ok_iff.2 ⟨slot.place, kept.locate ends.locate, ?_, noSlash⟩
  rw [node?_put, if_pos rfl]

/-! ### Several documents -/

/-- Writing texts to paths one after the other succeeds and leaves the tree `t'`. -/
def Writes : List (String × String) → FileTree → FileTree → Prop
  | [], t, t' => t' = t
  | w :: ws, t, t' => ∃ t₁, t.write w.1 w.2 = (.ok (), t₁) ∧ Writes ws t₁ t'

variable {ws ws' : List (String × String)}

/-- Writing two lists of documents is writing the first one and then the second one, by induction on
the first. -/
theorem writes_append_iff :
    Writes (ws ++ ws') t t' ↔ ∃ t₁, Writes ws t t₁ ∧ Writes ws' t₁ t' := by
  induction ws generalizing t with
  | nil =>
    constructor
    · exact fun h => ⟨t, rfl, h⟩
    · rintro ⟨_, rfl, h⟩
      exact h
  | cons w ws ih =>
    constructor
    · rintro ⟨t₁, written, rest⟩
      obtain ⟨t₂, mine, others⟩ := ih.1 rest
      exact ⟨t₂, ⟨t₁, written, mine⟩, others⟩
    · rintro ⟨t₂, ⟨t₁, written, mine⟩, others⟩
      exact ⟨t₁, written, ih.2 ⟨t₂, mine, others⟩⟩

/-- Writing a list of one document is writing the document, so that single writes are a case of
several. -/
theorem writes_singleton_iff {path text : String} :
    Writes [(path, text)] t t' ↔ t.write path text = (.ok (), t') := by
  constructor
  · rintro ⟨_, written, rfl⟩
    exact written
  · exact fun written => ⟨t', written, rfl⟩

/-- Texts that are written leave one tree: a write has one outcome, and so has a list of them. -/
theorem Writes.unique {t'' : FileTree} (writes : Writes ws t t') (writes' : Writes ws t t'') :
    t' = t'' := by
  induction ws generalizing t with
  | nil => exact writes.trans writes'.symm
  | cons w ws ih =>
    obtain ⟨t₁, written, rest⟩ := writes
    obtain ⟨t₂, written', rest'⟩ := writes'
    rw [written] at written'
    cases written'
    exact ih rest rest'

/-- A document at none of the places written to is read as before. The places are those that the
paths name in the first tree, as writes do not move them. -/
theorem Writes.read_of_ne (writes : Writes ws t t') {path text : String}
    (apart : ∀ w ∈ ws, t.target path ≠ t.target w.1) (h : t.read path = .ok text) :
    t'.read path = .ok text := by
  induction ws generalizing t with
  | nil => exact writes ▸ h
  | cons w ws ih =>
    obtain ⟨t₁, written, rest⟩ := writes
    have keeps : Keeps (t.target w.1) t t₁ := keeps_of_write written
    refine ih rest (fun v mem => ?_) (keeps.read (apart w List.mem_cons_self) h)
    rw [keeps.target_eq, keeps.target_eq]
    exact apart v (List.mem_cons_of_mem w mem)

/-- Texts that are written to different places are all read. Were two of the places one, only the
later text would be there. -/
theorem Writes.read_of_mem (writes : Writes ws t t') (apart : (ws.map (t.target ·.1)).Nodup)
    {w : String × String} (mem : w ∈ ws) : t'.read w.1 = .ok w.2 := by
  induction ws generalizing t with
  | nil => contradiction
  | cons v ws ih =>
    obtain ⟨t₁, written, rest⟩ := writes
    have keeps : Keeps (t.target v.1) t t₁ := keeps_of_write written
    rw [List.map_cons, List.nodup_cons] at apart
    rcases List.mem_cons.1 mem with rfl | mem
    · -- No later text is written to the place of the first one.
      refine rest.read_of_ne (fun u inRest same => ?_) (read_write written)
      rw [keeps.target_eq, keeps.target_eq] at same
      exact apart.1 (List.mem_map.2 ⟨u, inRest, same.symm⟩)
    · refine ih rest ?_ mem
      simp only [keeps.target_eq]
      exact apart.2

/-- Paths name the same places after writes, as each of them keeps the working directory. -/
theorem Writes.target_eq (writes : Writes ws t t') (path : String) :
    t'.target path = t.target path := by
  induction ws generalizing t with
  | nil => exact writes ▸ rfl
  | cons w ws ih =>
    obtain ⟨t₁, written, rest⟩ := writes
    rw [ih rest, (keeps_of_write written).target_eq]

end TemplateCoverage.FileTree
