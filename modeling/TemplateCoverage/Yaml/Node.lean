import TemplateCoverage.Yaml.Token

/-!
# `TemplateCoverage.Yaml.Node`: nodes

A document is a tree of scalars, sequences, mappings and aliases. The tree is read from the tokens
by recursive descent; every reader hands on the tokens that are left, with the proof that there are
fewer of them. Main statements:

* `resolveTag_none`: a node without a tag has none.
-/

set_option autoImplicit false

namespace TemplateCoverage.Yaml

/-- What may stand before the content of a node. -/
structure Properties where
  anchor : Option String
  tag : Option Octets

/-- A node whose aliases have targets of a type. -/
inductive Node (α : Type) where
  | alias (target : α)
  | scalar (properties : Properties) (text : String) (plain : Bool)
  | sequence (properties : Properties) (items : List (Node α))
  | mapping (properties : Properties) (pairs : List (Node α × Node α))

namespace Node

/-- No anchor and no tag. -/
def noProperties : Properties := ⟨none, none⟩

/-- The empty plain scalar that stands for a missing node. -/
def missing : Node String := .scalar noProperties "" true

/-! ### Tags -/

/-- The octets that the declared handles stand for. -/
abbrev Handles := List (String × Octets)

/-- The octets of a text. -/
def octetsOf (s : String) : Octets := s.toUTF8.toList

/-- The handles that every document has unless it declares them otherwise. -/
def defaultHandles : Handles := [("!", octetsOf "!"), ("!!", octetsOf "tag:yaml.org,2002:")]

/-- The tag that a handle and the part behind it spell. -/
def resolveTag (handles : Handles) : Option (String × Octets) → Except Problem (Option Octets)
  | none => .ok none
  | some ("", part) => .ok part
  | some (handle, part) =>
    match handles.lookup handle with
    | some start => .ok (start ++ part)
    | none => .error .tagHandle

/-- A node without a tag has none. -/
theorem resolveTag_none (handles : Handles) : resolveTag handles none = .ok none := rfl

/-- An anchor and a tag in either order, and the tokens behind them. -/
def properties : List Token → Option String × Option (String × Octets) × List Token
  | .anchor name :: .tag handle part :: rest => (some name, some (handle, part), rest)
  | .anchor name :: rest => (some name, none, rest)
  | .tag handle part :: .anchor name :: rest => (some name, some (handle, part), rest)
  | .tag handle part :: rest => (none, some (handle, part), rest)
  | rest => (none, none, rest)

theorem length_properties_le (tokens : List Token) :
    (properties tokens).2.2.length ≤ tokens.length := by
  unfold properties
  split <;> simp <;> omega

/-- The tokens behind the first of some tokens are fewer than any list at least as long. -/
theorem length_lt_of_cons {tokens some rest : List Token} {token : Token}
    (h : some.length ≤ tokens.length) (found : some = token :: rest) :
    rest.length < tokens.length := by
  rw [found, List.length_cons] at h
  omega

/-- The tokens behind the first token of a node's content are fewer than those of the node. -/
theorem length_lt_of_properties {tokens rest : List Token} {token : Token}
    (found : (properties tokens).2.2 = token :: rest) : rest.length < tokens.length :=
  length_lt_of_cons (length_properties_le tokens) found

/-- The properties of a scalar: the tag `!` only says that it is no other node. -/
def scalarProperties (p : Properties) : Properties :=
  if p.tag = some (octetsOf "!") then { p with tag := none } else p

/-! ### Reading nodes -/

/-- What a reader gives: a result, and the tokens that are left. -/
abbrev Read (α : Type) (tokens : List Token) :=
  Except Problem (α × { rest : List Token // rest.length ≤ tokens.length })

/-- What a reader gives that reads at least one token. -/
abbrev ReadSome (α : Type) (tokens : List Token) :=
  Except Problem (α × { rest : List Token // rest.length < tokens.length })

/-- Whether the next token is one of some kinds. -/
def comesNext (kinds : List Token) (tokens : List Token) : Bool := tokens.head?.any kinds.contains

/-- The tokens behind a token that comes next are fewer. -/
theorem length_tail_lt {kinds tokens : List Token} (next : comesNext kinds tokens) :
    tokens.tail.length < tokens.length := by
  cases tokens with
  | nil => simp [comesNext] at next
  | cons token rest => simp

/-- The tokens behind the comma before an item, unless the item is the first. -/
def behindComma (first : Bool) (tokens : List Token) : Read Unit tokens :=
  if first then .ok ((), ⟨tokens, Nat.le_refl _⟩)
  else
    match tokens with
    | .flowEntry :: rest => .ok ((), ⟨rest, by simp⟩)
    | _ => .error .unexpected

mutual

/-- Reads a node. Blocks may start only where a block is allowed, and items without a block of their
own only where a mapping's key or value stands. -/
def read (handles : Handles) (inBlock inPair : Bool) (tokens : List Token) :
    ReadSome (Node String) tokens :=
  match tokens with
  | [] => .error .unexpected
  | .alias name :: rest => .ok (.alias name, ⟨rest, by simp⟩)
  | token :: tokens => do
    let anchor := (properties (token :: tokens)).1
    let tag ← resolveTag handles (properties (token :: tokens)).2.1
    let p : Properties := ⟨anchor, tag⟩
    match _found : (properties (token :: tokens)).2.2 with
    | .scalar text plain :: rest =>
      return (.scalar (scalarProperties p) text plain, ⟨rest, length_lt_of_properties _found⟩)
    | .flowSequence :: rest =>
      let (items, ⟨rest', h⟩) ← readFlowItems handles true rest
      return (.sequence p items, ⟨rest', Nat.lt_of_le_of_lt h (length_lt_of_properties _found)⟩)
    | .flowMapping :: rest =>
      let (pairs, ⟨rest', h⟩) ← readFlowPairs handles true rest
      return (.mapping p pairs, ⟨rest', Nat.lt_of_le_of_lt h (length_lt_of_properties _found)⟩)
    | rest =>
      have fewer : rest.length ≤ (token :: tokens).length :=
        _found ▸ length_properties_le (token :: tokens)
      if next : inPair && comesNext [.blockEntry] rest then
        have shorter := length_tail_lt (Bool.and_eq_true_iff.1 next).2
        let (item, ⟨rest₁, h₁⟩) ← readOrMissing handles [.blockEntry, .key, .value, .blockEnd]
          true false rest.tail
        let (items, ⟨rest₂, h₂⟩) ← readItems handles rest₁
        return (.sequence p (item :: items), ⟨rest₂, by omega⟩)
      else if next : inBlock && comesNext [.blockSequence] rest then
        have shorter := length_tail_lt (Bool.and_eq_true_iff.1 next).2
        let (items, ⟨rest', h⟩) ← readBlockItems handles rest.tail
        return (.sequence p items, ⟨rest', by omega⟩)
      else if next : inBlock && comesNext [.blockMapping] rest then
        have shorter := length_tail_lt (Bool.and_eq_true_iff.1 next).2
        let (pairs, ⟨rest', h⟩) ← readBlockPairs handles rest.tail
        return (.mapping p pairs, ⟨rest', by omega⟩)
      -- An anchor or a tag alone is an empty scalar; without them a node is missing.
      else if h : rest.length < (token :: tokens).length then
        return (.scalar p "" true, ⟨rest, h⟩)
      else .error .unexpected
termination_by 5 * tokens.length + 0
decreasing_by
  · have shorter := length_lt_of_properties _found
    omega
  · have shorter := length_lt_of_properties _found
    omega
  · omega
  · omega
  · omega
  · omega

/-- Reads a node unless one of some tokens shows that it is missing. -/
def readOrMissing (handles : Handles) (ends : List Token) (inBlock inPair : Bool)
    (tokens : List Token) : Read (Node String) tokens :=
  if comesNext ends tokens then .ok (missing, ⟨tokens, Nat.le_refl _⟩)
  else do
    let (node, ⟨rest, h⟩) ← read handles inBlock inPair tokens
    return (node, ⟨rest, Nat.le_of_lt h⟩)
termination_by 5 * tokens.length + 1
decreasing_by all_goals omega

/-- Reads the items of a sequence without a block of its own. -/
def readItems (handles : Handles) (tokens : List Token) : Read (List (Node String)) tokens :=
  match tokens with
  | .blockEntry :: tokens => do
    let (item, ⟨rest₁, h₁⟩) ← readOrMissing handles [.blockEntry, .key, .value, .blockEnd]
      true false tokens
    let (items, ⟨rest₂, h₂⟩) ← readItems handles rest₁
    return (item :: items, ⟨rest₂, by simp; omega⟩)
  | tokens => .ok ([], ⟨tokens, Nat.le_refl _⟩)
termination_by 5 * tokens.length + 2
decreasing_by all_goals (simp only [List.length_cons] at *; omega)

/-- Reads the items of a block. -/
def readBlockItems (handles : Handles) (tokens : List Token) : Read (List (Node String)) tokens :=
  match tokens with
  | .blockEntry :: tokens => do
    let (item, ⟨rest₁, h₁⟩) ← readOrMissing handles [.blockEntry, .blockEnd] true false tokens
    let (items, ⟨rest₂, h₂⟩) ← readBlockItems handles rest₁
    return (item :: items, ⟨rest₂, by simp; omega⟩)
  | .blockEnd :: tokens => .ok ([], ⟨tokens, by simp⟩)
  | _ => .error .unexpected
termination_by 5 * tokens.length + 2
decreasing_by all_goals (simp only [List.length_cons] at *; omega)

/-- Reads the pairs of a block. -/
def readBlockPairs (handles : Handles) (tokens : List Token) :
    Read (List (Node String × Node String)) tokens :=
  match tokens with
  | .key :: tokens => do
    let (key, ⟨rest₁, h₁⟩) ← readOrMissing handles [.key, .value, .blockEnd] true true tokens
    let (value, ⟨rest₂, h₂⟩) ← readValue handles [.key, .value, .blockEnd] true rest₁
    let (pairs, ⟨rest₃, h₃⟩) ← readBlockPairs handles rest₂
    return ((key, value) :: pairs, ⟨rest₃, by simp; omega⟩)
  | .blockEnd :: tokens => .ok ([], ⟨tokens, by simp⟩)
  | _ => .error .unexpected
termination_by 5 * tokens.length + 3
decreasing_by all_goals (simp only [List.length_cons] at *; omega)

/-- Reads the value of a pair, which is missing without the indicator of a value. -/
def readValue (handles : Handles) (ends : List Token) (inBlock : Bool) (tokens : List Token) :
    Read (Node String) tokens :=
  match tokens with
  | .value :: tokens => do
    let (node, ⟨rest, h⟩) ← readOrMissing handles ends inBlock inBlock tokens
    return (node, ⟨rest, by simp; omega⟩)
  | tokens => .ok (missing, ⟨tokens, Nat.le_refl _⟩)
termination_by 5 * tokens.length + 2
decreasing_by all_goals (simp only [List.length_cons] at *; omega)

/-- Reads the items of a flow sequence. A key makes an item that is a mapping with one pair; if the
key is missing, the token that shows it is passed over. -/
def readFlowItems (handles : Handles) (first : Bool) (tokens : List Token) :
    Read (List (Node String)) tokens :=
  if comesNext [.flowSequenceEnd] tokens then .ok ([], ⟨tokens.tail, by simp⟩)
  else do
    let ((), ⟨rest, h⟩) ← behindComma first tokens
    match _found : rest with
    | .flowSequenceEnd :: rest₀ => return ([], ⟨rest₀, Nat.le_of_lt (length_lt_of_cons h _found)⟩)
    | .key :: rest₀ =>
      have shorter := length_lt_of_cons h _found
      let (key, ⟨rest₁, h₁⟩) ← readKeyOrSkip handles rest₀
      let (value, ⟨rest₂, h₂⟩) ← readValue handles [.flowEntry, .flowSequenceEnd] false rest₁
      let (items, ⟨rest₃, h₃⟩) ← readFlowItems handles false rest₂
      return (.mapping noProperties [(key, value)] :: items, ⟨rest₃, by omega⟩)
    | _ =>
      let (item, ⟨rest₁, h₁⟩) ← read handles false false rest
      let (items, ⟨rest₂, h₂⟩) ← readFlowItems handles false rest₁
      return (item :: items, ⟨rest₂, by omega⟩)
termination_by 5 * tokens.length + 4
decreasing_by all_goals omega

/-- Reads the key of a pair that is an item of a flow sequence. -/
def readKeyOrSkip (handles : Handles) (tokens : List Token) : Read (Node String) tokens :=
  if comesNext [.value, .flowEntry, .flowSequenceEnd] tokens then
    .ok (missing, ⟨tokens.tail, by simp⟩)
  else do
    let (node, ⟨rest, h⟩) ← read handles false false tokens
    return (node, ⟨rest, Nat.le_of_lt h⟩)
termination_by 5 * tokens.length + 1
decreasing_by all_goals omega

/-- Reads the pairs of a flow mapping. A node without the indicator of a key is a key without a
value. -/
def readFlowPairs (handles : Handles) (first : Bool) (tokens : List Token) :
    Read (List (Node String × Node String)) tokens :=
  if comesNext [.flowMappingEnd] tokens then .ok ([], ⟨tokens.tail, by simp⟩)
  else do
    let ((), ⟨rest, h⟩) ← behindComma first tokens
    match _found : rest with
    | .flowMappingEnd :: rest₀ => return ([], ⟨rest₀, Nat.le_of_lt (length_lt_of_cons h _found)⟩)
    | .key :: rest₀ =>
      have shorter := length_lt_of_cons h _found
      let (key, ⟨rest₁, h₁⟩) ← readOrMissing handles [.value, .flowEntry, .flowMappingEnd]
        false false rest₀
      let (value, ⟨rest₂, h₂⟩) ← readValue handles [.flowEntry, .flowMappingEnd] false rest₁
      let (pairs, ⟨rest₃, h₃⟩) ← readFlowPairs handles false rest₂
      return ((key, value) :: pairs, ⟨rest₃, by omega⟩)
    | _ =>
      let (key, ⟨rest₁, h₁⟩) ← read handles false false rest
      let (pairs, ⟨rest₂, h₂⟩) ← readFlowPairs handles false rest₁
      return ((key, missing) :: pairs, ⟨rest₂, by omega⟩)
termination_by 5 * tokens.length + 4
decreasing_by all_goals omega

end

end Node

end TemplateCoverage.Yaml
