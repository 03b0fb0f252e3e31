import TemplateCoverage.Yaml.Node
import TemplateCoverage.Yaml.Tokens

/-!
# `TemplateCoverage.Yaml.Document`: documents and their anchors

A text has to hold exactly one document. In it every alias is resolved to the number of an anchor:
an anchor takes the number of different names that came before it, and an alias means the anchor
that last took its number. Main statements:

* `lookup_mark`: a number means the node that took it last.
-/

set_option autoImplicit false

namespace TemplateCoverage.Yaml

/-- The nodes of a document with the nodes that the numbers of its anchors mean. -/
structure Document where
  root : Node Nat
  /-- The numbered nodes, the last one first. -/
  marked : List (Nat × Node Nat)

namespace Document

/-! ### Anchors -/

/-- The numbers of the anchors so far, by name. -/
abbrev Anchors := List (String × Nat)

/-- Gives a name the next number. -/
def declare (anchors : Anchors) (name : Option String) : Anchors :=
  match name with
  | none => anchors
  | some name => (name, anchors.length) :: anchors.filter (·.1 ≠ name)

/-- The number that a name is about to take, with the node that bears it. -/
def mark (anchors : Anchors) (name : Option String) (node : Node Nat) : List (Nat × Node Nat) :=
  match name with
  | none => []
  | some _ => [(anchors.length, node)]

/-- What is left after resolving aliases: the result, the anchors after it, and the nodes that took
a number in it, in document order. -/
structure Resolved (α : Type) where
  result : α
  anchors : Anchors
  marked : List (Nat × Node Nat)

mutual

/-- Resolves the aliases of a node. -/
def resolve (anchors : Anchors) : Node String → Except Problem (Resolved (Node Nat))
  | .alias name =>
    match anchors.lookup name with
    | some n => .ok ⟨.alias n, anchors, []⟩
    | none => .error .unknownAlias
  | .scalar p text plain =>
    -- A scalar takes its number when it is complete; a collection takes it before its items.
    let node := .scalar p text plain
    .ok ⟨node, declare anchors p.anchor, mark anchors p.anchor node⟩
  | .sequence p items => do
    let ⟨items, after, marked⟩ ← resolveItems (declare anchors p.anchor) items
    let node := .sequence p items
    return ⟨node, after, mark anchors p.anchor node ++ marked⟩
  | .mapping p pairs => do
    let ⟨pairs, after, marked⟩ ← resolvePairs (declare anchors p.anchor) pairs
    let node := .mapping p pairs
    return ⟨node, after, mark anchors p.anchor node ++ marked⟩

/-- Resolves the aliases of items. -/
def resolveItems (anchors : Anchors) :
    List (Node String) → Except Problem (Resolved (List (Node Nat)))
  | [] => .ok ⟨[], anchors, []⟩
  | item :: items => do
    let ⟨item, anchors, first⟩ ← resolve anchors item
    let ⟨items, anchors, more⟩ ← resolveItems anchors items
    return ⟨item :: items, anchors, first ++ more⟩

/-- Resolves the aliases of pairs. -/
def resolvePairs (anchors : Anchors) :
    List (Node String × Node String) → Except Problem (Resolved (List (Node Nat × Node Nat)))
  | [] => .ok ⟨[], anchors, []⟩
  | (key, value) :: pairs => do
    let ⟨key, anchors, first⟩ ← resolve anchors key
    let ⟨value, anchors, second⟩ ← resolve anchors value
    let ⟨pairs, anchors, more⟩ ← resolvePairs anchors pairs
    return ⟨(key, value) :: pairs, anchors, first ++ second ++ more⟩

end

/-! ### Size -/

mutual

/-- How many steps a reader of the node takes: one for a scalar or alias, and one at each end of a
sequence or mapping. -/
def steps : Node Nat → Nat
  | .alias _ => 1
  | .scalar _ _ _ => 1
  | .sequence _ items => 2 + stepsOfItems items
  | .mapping _ pairs => 2 + stepsOfPairs pairs

/-- The steps of items. -/
def stepsOfItems : List (Node Nat) → Nat
  | [] => 0
  | item :: items => steps item + stepsOfItems items

/-- The steps of pairs. -/
def stepsOfPairs : List (Node Nat × Node Nat) → Nat
  | [] => 0
  | (key, value) :: pairs => steps key + steps value + stepsOfPairs pairs

end

/-! ### Reading a document -/

/-- The handles that directives declare, before those already there; a version may be given once. -/
def directives (versioned : Bool) (handles : Node.Handles) :
    List Token → Except Problem (Node.Handles × List Token)
  | .version major minor :: rest =>
    if versioned then .error .directive
    else if major = 1 ∧ (minor = 1 ∨ minor = 2) then directives true handles rest
    else .error .version
  | .tagPrefix handle start :: rest =>
    -- Only what directives declared counts here; the handles of every document may be replaced.
    if (handles.lookup handle).isSome then .error .directive
    else directives versioned ((handle, start) :: handles) rest
  | rest => .ok (handles, rest)

/-- Whether a document starts with directives or a mark. -/
def isExplicit : List Token → Bool
  | .version _ _ :: _ => true
  | .tagPrefix _ _ :: _ => true
  | .documentStart :: _ => true
  | _ => false

/-- Whether the tokens show that a document has no content. -/
def isWithoutContent : List Token → Bool
  | [] => true
  | .documentEnd :: _ => true
  | tokens => isExplicit tokens

/-- Reads the root of a document. -/
def readRoot (handles : Node.Handles) (tokens : List Token) :
    Except Problem (Node String × List Token) := do
  let (node, ⟨rest, _⟩) ← Node.read handles true false tokens
  return (node, rest)

/-- Reads the first document of the tokens. -/
def readFirst (tokens : List Token) : Except Problem (Node String × List Token) := do
  if isExplicit tokens then
    let (handles, rest) ← directives false [] tokens
    match rest with
    | .documentStart :: rest =>
      if isWithoutContent rest then return (Node.missing, rest)
      else readRoot (handles ++ Node.defaultHandles) rest
    | _ => .error .unexpected
  else readRoot Node.defaultHandles tokens

/-- Reads the only document of a text. -/
def ofText (text : List Char) : Except Problem Document := do
  let (root, rest) ← readFirst (← tokens text)
  -- Marks of the end may repeat; anything else would start a second document.
  if rest.all (· == .documentEnd) then
    let resolved ← resolve [] root
    return ⟨resolved.result, resolved.marked.reverse⟩
  else .error .documents

/-- The node that a number means. -/
def target? (d : Document) (n : Nat) : Option (Node Nat) := d.marked.lookup n

/-- A number means the node that took it last. -/
theorem lookup_mark {anchors : Anchors} {name : String} {node : Node Nat}
    {marked : List (Nat × Node Nat)} :
    (mark anchors (some name) node ++ marked).lookup anchors.length = some node := by
  simp [mark]

end Document

end TemplateCoverage.Yaml
