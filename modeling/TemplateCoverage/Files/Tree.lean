import TemplateCoverage.Files.Path
import TemplateCoverage.Sorted.Map

/-!
# `TemplateCoverage.Files.Tree`: files and directories

A tree of files as a value: what stands at each place, a place being the names from the root. Paths
are followed name by name, relative ones from the working directory. Writing a document makes its
directories and then puts the whole text in place of what was there.

A tree carries the proof that whatever stands in it stands in a directory, and that the working
directory is one. So a node is only put where a directory is known to be, which is a `Slot`. The
tree says which files and directories there are and what the files hold, and nothing else: symbolic
links, permissions and their faults have no place in it, nor has a working directory that was taken
away. Main statements:

* `node?_put`: putting a node in a slot changes nothing elsewhere.
-/

set_option autoImplicit false

namespace TemplateCoverage

/-- Why a file or directory cannot be reached or made. -/
inductive Fault where
  | notFound
  | notADirectory
  | isADirectory
  | alreadyExists
  | busy
  | badName
  | notText
  | other (reason : String)
  deriving DecidableEq

/-- The reason in words. -/
def Fault.message : Fault → String
  | .notFound => "No such file or directory (os error 2)"
  | .notADirectory => "Not a directory (os error 20)"
  | .isADirectory => "Is a directory (os error 21)"
  | .alreadyExists => "File exists (os error 17)"
  | .busy => "Device or resource busy (os error 16)"
  | .badName => "File name too long (os error 36)"
  | .notText => "stream did not contain valid UTF-8"
  | .other reason => reason

/-- What a file holds. -/
inductive Content where
  | text (s : String)
  /-- Bytes that are no UTF-8 text. -/
  | binary (bytes : List UInt8)
  deriving DecidableEq

/-- What stands at a place. -/
inductive FileNode where
  | file (content : Content)
  | directory
  deriving DecidableEq

/-- The names from the root to a file or directory. -/
abbrev Place := List String

/-- What a table of nodes has at a place. The root is a directory in every tree, whatever the table
says. -/
def nodeAt (nodes : SortedMap Place FileNode) (place : Place) : Option FileNode :=
  if place = [] then some .directory else nodes.get? place

/-- A node that is inserted below the root stands at its place, and nothing else changes. -/
theorem nodeAt_insert {nodes : SortedMap Place FileNode} {place p : Place} {node : FileNode}
    (ne : place ≠ []) :
    nodeAt (nodes.insert place node) p = if p = place then some node else nodeAt nodes p := by
  unfold nodeAt
  by_cases root : p = []
  · simp [root, Ne.symm ne]
  · simp [root, SortedMap.get?_insert]

/-- Files and directories, and the place of the working directory. -/
structure FileTree where
  nodes : SortedMap Place FileNode
  home : Place
  /-- Whatever stands somewhere stands in a directory. -/
  rooted : ∀ place node, nodeAt nodes place = some node →
    nodeAt nodes place.dropLast = some .directory
  /-- The working directory is there. -/
  home_directory : nodeAt nodes home = some .directory

namespace FileTree

/-- What stands at a place. -/
def node? (t : FileTree) (place : Place) : Option FileNode := nodeAt t.nodes place

/-- Whatever stands in a tree stands in a directory. -/
theorem node?_dropLast (t : FileTree) {place : Place} {node : FileNode}
    (found : t.node? place = some node) : t.node? place.dropLast = some .directory :=
  t.rooted place node found

/-- Where something can be put: a name in a directory that is there. -/
structure Slot (t : FileTree) where
  dir : Place
  name : String
  there : t.node? dir = some .directory

/-- The place that a slot is at. -/
def Slot.place {t : FileTree} (slot : t.Slot) : Place := slot.dir ++ [slot.name]

/-- Puts a node in a slot that holds no directory. With a directory in it, what lies in that one
would no longer lie in a directory. -/
def put (t : FileTree) (slot : t.Slot) (node : FileNode)
    (free : t.node? slot.place ≠ some .directory) : FileTree where
  nodes := t.nodes.insert slot.place node
  home := t.home
  rooted place found h := by
    have below : slot.place ≠ [] := by simp [Slot.place]
    rw [nodeAt_insert below] at h ⊢
    split at h
    · rename_i here
      have other : slot.dir ≠ slot.place := by simp [Slot.place]
      rw [here, Slot.place, List.dropLast_concat, ← Slot.place, if_neg other]
      exact slot.there
    · have above := t.rooted place found h
      have other : place.dropLast ≠ slot.place := fun eq => free (eq ▸ above)
      rw [if_neg other, above]
  home_directory := by
    have other : t.home ≠ slot.place := fun eq => free (eq ▸ t.home_directory)
    rw [nodeAt_insert (by simp [Slot.place]), if_neg other, t.home_directory]

/-- Putting a node in a slot changes nothing elsewhere. -/
theorem node?_put {t : FileTree} {slot : t.Slot} {p : Place} {node : FileNode}
    {free : t.node? slot.place ≠ some .directory} :
    (t.put slot node free).node? p = if p = slot.place then some node else t.node? p :=
  nodeAt_insert (by simp [Slot.place])

/-! ### Following paths -/

/-- Whether a name cannot be the name of a file. -/
def isBadName (name : String) : Bool := 255 < name.utf8ByteSize

/-- Whether no file can have a path: it holds a null character or is too long. -/
def isBadPath (p : Path) : Bool :=
  p.names.any (·.toList.contains '\x00') || decide (4096 ≤ p.text.utf8ByteSize)

/-- Fails unless a directory stands at a place. -/
def checkDirectory (t : FileTree) (place : Place) : Except Fault Unit :=
  match t.node? place with
  | some .directory => .ok ()
  | some (.file _) => .error .notADirectory
  | none => .error .notFound

/-- A place that passes the check holds a directory. -/
theorem directory_of_check {t : FileTree} {place : Place}
    (checked : t.checkDirectory place = .ok ()) : t.node? place = some .directory := by
  unfold checkDirectory at checked
  split at checked
  · assumption
  · contradiction
  · contradiction

/-- The place that names lead to from a place. The last one need not hold anything. -/
def walk (t : FileTree) (place : Place) : List String → Except Fault Place
  | [] => .ok place
  | name :: names => do
    -- Also `.` and `..` need a directory to be looked up in.
    t.checkDirectory place
    if name = "." then t.walk place names
    else if name = ".." then t.walk place.dropLast names
    else if isBadName name then .error .badName
    else t.walk (place ++ [name]) names

/-- The place where a path starts. -/
def origin (t : FileTree) (p : Path) : Place := if p.absolute then [] else t.home

/-- The place that a path leads to. -/
def locate (t : FileTree) (p : Path) : Except Fault Place :=
  if isBadPath p then .error .badName
  else if p.isEmpty then .error .notFound
  else t.walk (t.origin p) p.names

/-- Whether a path leads to a directory. -/
def isDirectory (t : FileTree) (p : Path) : Bool :=
  match t.locate p with
  | .ok place => t.node? place == some .directory
  | .error _ => false

/-- The text of a file. -/
def read (t : FileTree) (path : String) : Except Fault String := do
  let p := Path.parse path
  let place ← t.locate p
  match t.node? place with
  | none => .error .notFound
  | some .directory => .error .isADirectory
  | some (.file content) =>
    -- A slash at the end asks for a directory.
    if p.endsInSlash then .error .notADirectory
    else
      match content with
      | .text s => .ok s
      | .binary _ => .error .notText

/-! ### Making directories and files -/

/-- Where a new file or directory goes: the directory it is made in, which exists, and its name.
A path that ends in `.` or `..`, or the root, names something that is there already, for which the
fault is given. -/
def newSlot (t : FileTree) (p : Path) (there : Fault) : Except Fault t.Slot :=
  if isBadPath p then .error .badName
  else if p.isEmpty then .error .notFound
  else
    match p.names.getLast? with
    | none => .error there
    | some name => do
      let dir ← t.walk (t.origin p) p.names.dropLast
      match checked : t.checkDirectory dir with
      | .error fault => .error fault
      | .ok () =>
        if name = "." ∨ name = ".." then .error there
        else if isBadName name then .error .badName
        else .ok ⟨dir, name, directory_of_check checked⟩

/-- Makes one directory where nothing is. -/
def makeDirectory (t : FileTree) (p : Path) : Except Fault FileTree := do
  let slot ← t.newSlot p .alreadyExists
  if none : t.node? slot.place = none then .ok (t.put slot .directory (by simp [none]))
  else .error .alreadyExists

/-- Makes a directory unless it is there. -/
def ensureDirectory (t : FileTree) (p : Path) : Except Fault FileTree :=
  match t.makeDirectory p with
  | .ok t' => .ok t'
  | .error fault => if t.isDirectory p then .ok t else .error fault

/-- Makes a directory and those it lies in, unless they are there. Directories made before a fault
stay. -/
def makeDirectories (t : FileTree) (p : Path) : Except Fault Unit × FileTree :=
  if p.isEmpty then (.ok (), t)
  else
    match t.ensureDirectory p with
    | .ok t' => (.ok (), t')
    -- Only a missing directory is worth another try, after the one that it lies in is made.
    | .error .notFound =>
      match _found : p.parent? with
      | none => (.error .notFound, t)
      | some q =>
        match t.makeDirectories q with
        | (.error fault, t') => (.error fault, t')
        | (.ok (), t') =>
          match t'.ensureDirectory p with
          | .ok t'' => (.ok (), t'')
          | .error fault => (.error fault, t')
    | .error fault => (.error fault, t)
termination_by p.names.length
decreasing_by exact Path.names_parent _found

/-- The directory that a document is written in first: the parent of its path, or the working
directory. -/
def documentDirectory (p : Path) : Path :=
  match p.parent? with
  | some q => if q.isEmpty then Path.here else q
  | none => Path.here

/-- Puts a whole file in place of what a path leads to. -/
def replace (t : FileTree) (p : Path) (content : Content) : Except Fault FileTree := do
  let slot ← t.newSlot p .busy
  if there : t.node? slot.place = some .directory then .error .isADirectory
  else if p.endsInSlash then .error .notADirectory
  else .ok (t.put slot (.file content) there)

/-- Writes a document: its directories are made, and the text is put in place as a whole. -/
def write (t : FileTree) (path text : String) : Except Fault Unit × FileTree :=
  let p := Path.parse path
  match t.makeDirectories (documentDirectory p) with
  | (.error fault, t') => (.error fault, t')
  | (.ok (), t') =>
    match t'.replace p (.text text) with
    | .ok t'' => (.ok (), t'')
    | .error fault => (.error fault, t')

end FileTree

end TemplateCoverage
