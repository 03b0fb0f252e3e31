import TemplateCoverage.Catalog
import TemplateCoverage.Text.Quoted

/-!
# `TemplateCoverage.Catalog.Schema`: the shape of a catalog document

A document is an object whose member `templates`, or which itself, maps each event to an object with
a list `payloads`. Every item of that list is an object; its `tags`, if there are any, are a list of
texts of which none repeats another after normalising. Shapes are checked in document order, and
after them the tags, by event name and position. Main statements:

* `nodup_of_ofValue`: a document is accepted only if no entry repeats a tag.
-/

set_option autoImplicit false

namespace TemplateCoverage

/-- What a place of a catalog document has to hold. -/
inductive Shape where
  | catalog
  | event
  | entries
  | entry
  | tags
  | tag
  deriving DecidableEq

/-- How messages name what was expected. -/
def Shape.expected : Shape → String
  | .catalog => "a map"
  | .event => "struct EventTemplates"
  | .entries => "a sequence"
  | .entry => "struct TemplateEntry"
  | .tags => "a sequence"
  | .tag => "a string"

/-- Why a JSON value is not a catalog document. -/
inductive SchemaError where
  | topLevel (found : Json.Value)
  | mismatch (found : Json.Value) (expected : Shape)
  | noPayloads
  | repeatedTag (event : String) (index : Nat) (error : EntryError)

namespace SchemaError

/-- The kind of a value that stands at the top of a document. -/
def kind (v : Json.Value) : String :=
  match v.1 with
  | .null => "null"
  | .bool _ => "boolean"
  | .number _ => "number"
  | .string _ => "string"
  | .array _ => "array"
  | .object _ => "object"

/-- How messages name a value of the wrong shape. -/
def found (v : Json.Value) : String :=
  match v.1 with
  | .null => "null"
  | .bool b => s!"boolean `{b}`"
  | .number (.double x) => s!"floating point `{String.ofList (Json.Number.doubleText x)}`"
  | .number n => s!"integer `{String.ofList n.text}`"
  | .string s => s!"string {Text.quoted s}"
  | .array _ => "sequence"
  | .object _ => "map"

/-- The message about a value that is not a catalog document. -/
def message : SchemaError → String
  | .topLevel v => s!"top level must be an object, got {kind v}"
  | .mismatch v shape => s!"invalid type: {found v}, expected {shape.expected}"
  | .noPayloads => "missing field `payloads`"
  | .repeatedTag event index error => s!"event `{event}` payload #{index}: {error.message}"

end SchemaError

namespace Catalog

/-- The key under which a document may hold its events. -/
def templatesKey : String := "templates"

/-- A tag as it is spelled in the document. -/
def decodeTag (v : Json.Value) : Except SchemaError String :=
  match v.string? with
  | some s => .ok s
  | none => .error (.mismatch v .tag)

/-- The tags of an entry. -/
def decodeTags (v : Json.Value) : Except SchemaError (List String) :=
  match v.items? with
  | some items => items.mapM decodeTag
  | none => .error (.mismatch v .tags)

/-- An entry; without tags it covers nothing, and without payload its payload is null. -/
def decodeEntry (v : Json.Value) : Except SchemaError Entry :=
  match v.object? with
  | none => .error (.mismatch v .entry)
  | some o => do
    let tags ← match o.get? "tags" with
      | some tags => decodeTags tags
      | none => .ok []
    return {
      tags := tags
      payload := (o.get? "payload").getD Json.Value.null
      extra := (o.erase "tags").erase "payload" }

/-- The section of an event. -/
def decodeSection (v : Json.Value) : Except SchemaError Section :=
  match v.object? with
  | none => .error (.mismatch v .event)
  | some o =>
    match o.get? "payloads" with
    -- An event has to list its entries, even if there are none.
    | none => .error .noPayloads
    | some payloads =>
      match payloads.items? with
      | none => .error (.mismatch payloads .entries)
      | some items => do return ⟨← items.mapM decodeEntry, o.erase "payloads"⟩

/-- An event's name with its section. -/
def decodeMember (m : String × Json.Value) : Except SchemaError (String × Section) := do
  return (m.1, ← decodeSection m.2)

/-- The catalog of a value of the right shape. -/
def decode (v : Json.Value) : Except SchemaError Catalog :=
  match v.object? with
  | none => .error (.mismatch v .catalog)
  | some o => do return ofSections (SortedMap.ofList (← o.toList.mapM decodeMember))

/-- The first entry of an event, by position, that repeats a tag. -/
def offenceIn? (event : String) (index : Nat) : List Entry → Option SchemaError
  | [] => none
  | e :: entries =>
    match e.checkTags with
    | .ok () => offenceIn? event (index + 1) entries
    | .error err => some (.repeatedTag event index err)

/-- The first entry, by event and position, that repeats a tag. -/
def offence? (c : Catalog) : Option SchemaError :=
  c.events.toList.findSome? fun e => offenceIn? e.1 0 e.2

/-- The value that holds the events: the member `templates` of the top level if it has one, or the
top level itself. -/
def eventsOf (top : Json.Object) : Json.Value :=
  (top.get? templatesKey).getD (Json.Value.object top)

/-- The catalog of a document's value. -/
def ofValue (v : Json.Value) : Except SchemaError Catalog :=
  match v.object? with
  | none => .error (.topLevel v)
  | some top => do
    -- All shapes come before any tags: a wrong shape at the end hides a repeated tag before it.
    let c ← decode (eventsOf top)
    match offence? c with
    | some err => .error err
    | none => return c

theorem offenceIn?_eq_none_iff {event : String} {index : Nat} {entries : List Entry} :
    offenceIn? event index entries = none ↔ ∀ e ∈ entries, e.normalizedTags.Nodup := by
  induction entries generalizing index with
  | nil => simp [offenceIn?]
  | cons e entries ih =>
    simp only [offenceIn?]
    have checked := Entry.checkTags_eq_ok_iff (e := e)
    split <;> simp_all

/-- Nothing is refused for its tags if and only if no entry repeats a tag. -/
theorem offence?_eq_none_iff {c : Catalog} :
    offence? c = none ↔ ∀ ev ∈ c.events.toList, ∀ e ∈ ev.2, e.normalizedTags.Nodup := by
  rw [offence?, List.findSome?_eq_none_iff]
  simp only [offenceIn?_eq_none_iff]

/-- A document is accepted only if no entry repeats a tag. -/
theorem nodup_of_ofValue {v : Json.Value} {c : Catalog} (h : ofValue v = .ok c) :
    ∀ ev ∈ c.events.toList, ∀ e ∈ ev.2, e.normalizedTags.Nodup := by
  unfold ofValue at h
  split at h
  · simp at h
  · simp only [bind, Except.bind] at h
    split at h
    · simp at h
    · split at h
      · simp at h
      · rename_i none
        simp only [pure, Except.pure, Except.ok.injEq] at h
        subst h
        intro ev mem
        have := List.findSome?_eq_none_iff.1 none ev mem
        exact offenceIn?_eq_none_iff.1 this

end Catalog

end TemplateCoverage
