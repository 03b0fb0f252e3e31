import TemplateCoverage.Taxonomy
import TemplateCoverage.Yaml.Document

/-!
# `TemplateCoverage.Taxonomy.Schema`: the shape of a taxonomy document

A document is a mapping whose key `events` holds a mapping from events to nothing or to a mapping;
there the key `types` holds nothing or a sequence of tags. Any scalar is a tag or an event by its
text, and other keys are passed over. An empty plain scalar is an empty mapping or sequence. Aliases
are followed where the shape is looked at, a hundred times as often as the document has steps at the
most. Main statements:

* `eventOf_missing`: an event without content declares no tags.
-/

set_option autoImplicit false

namespace TemplateCoverage.Taxonomy

open Yaml (Document Node Problem)

/-- Reads parts of a document and counts the aliases followed. -/
abbrev Decoder := StateT Nat (Except Problem)

/-- Refuses a document. -/
def refuse {α : Type} (problem : Problem) : Decoder α := fun _ => .error problem

/-- The node itself, or the one that an alias means. -/
def follow (d : Document) (node : Node Nat) : Decoder (Node Nat) :=
  match node with
  | .alias n => fun followed =>
    if 100 * Document.steps d.root < followed + 1 then .error .repetition
    else
      match d.target? n with
      | some target => .ok (target, followed + 1)
      | none => .error .unknownAlias
  | node => pure node

/-- The text of a scalar. -/
def textOf (d : Document) (node : Node Nat) : Decoder String := do
  match ← follow d node with
  | .scalar _ text _ => return text
  | _ => refuse .shape

/-- The pairs of a mapping. -/
def pairsOf (d : Document) (node : Node Nat) : Decoder (List (Node Nat × Node Nat)) := do
  match ← follow d node with
  | .mapping _ pairs => return pairs
  | .scalar _ "" true => return []
  | _ => refuse .shape

/-- The items of a sequence. -/
def itemsOf (d : Document) (node : Node Nat) : Decoder (List (Node Nat)) := do
  match ← follow d node with
  | .sequence _ items => return items
  | .scalar _ "" true => return []
  | _ => refuse .shape

/-- The plain scalars, beside the empty one, that stand for nothing. -/
def nullWords : List String := ["~", "null", "Null", "NULL"]

/-- The tag of a scalar that stands for nothing. -/
def nullTag : Yaml.Octets := Node.octetsOf "tag:yaml.org,2002:null"

/-- The node, unless it stands for nothing; an alias is followed. -/
def unlessNull (d : Document) (node : Node Nat) : Decoder (Option (Node Nat)) := do
  let node ← follow d node
  match node with
  | .scalar p text true =>
    match p.tag with
    | none => return if text = "" ∨ text ∈ nullWords then none else some node
    | some tag =>
      -- A tag that asks for something else keeps even an empty scalar from standing for nothing.
      if tag ≠ nullTag then return some node
      else if text ∈ nullWords then return none
      else refuse .shape
  | _ => return some node

/-- The value of a key in pairs, which must not have it twice; the values of other keys are not
looked at. -/
def valueOf (d : Document) (key : String) :
    Option (Node Nat) → List (Node Nat × Node Nat) → Decoder (Option (Node Nat))
  | found, [] => return found
  | found, (k, value) :: pairs => do
    -- Every key has to be a scalar, also the keys that are passed over.
    if (← textOf d k) ≠ key then valueOf d key found pairs
    else if found.isSome then refuse .shape
    else valueOf d key (some value) pairs

/-- The tags of an event in document order. -/
def tagsOf (d : Document) (schema : Node Nat) : Decoder (List String) := do
  match ← valueOf d "types" none (← pairsOf d schema) with
  | none => return []
  | some types =>
    match ← unlessNull d types with
    | none => return []
    | some types => (← itemsOf d types).mapM (textOf d)

/-- An event with its normalised tags. -/
def eventOf (d : Document) (pair : Node Nat × Node Nat) : Decoder (String × List String) := do
  let event ← textOf d pair.1
  match ← unlessNull d pair.2 with
  | none => return (event, [])
  | some schema => return (event, (← tagsOf d schema).map Tag.normalize)

/-- The taxonomy of a document. -/
def decode (d : Document) : Decoder Taxonomy := do
  match ← valueOf d "events" none (← pairsOf d d.root) with
  | none => refuse .shape
  | some events => return ofList (← (← pairsOf d events).mapM (eventOf d))

/-- The taxonomy of a text. -/
def ofText (text : String) : Except Problem Taxonomy := do
  let d ← Document.ofText text.toList
  return (← decode d |>.run 0).1

/-- An event without content declares no tags. -/
theorem eventOf_missing {d : Document} {p : Yaml.Properties} {event : String} {plain : Bool}
    {followed : Nat} :
    eventOf d (.scalar p event plain, .scalar Node.noProperties "" true) followed =
      .ok ((event, []), followed) := rfl

end TemplateCoverage.Taxonomy
