import TemplateCoverage.Entry
import TemplateCoverage.Sorted.Map

/-!
# `TemplateCoverage.Catalog`: the templates of one locale

A catalog holds a list of entries for each of its events, in ascending order of the events' names.
Beside them it holds the other keys of the events' objects, its fields; an event without such keys
has no fields. Main statements:

* `mem_combinations`, `mem_coveredTags`: what a catalog covers;
* `entries?_push`, `entries?_setEntries`, `fields?_setFields`: what each operation does to the
  entries and the fields of the events.
-/

set_option autoImplicit false

namespace TemplateCoverage

/-- The templates of one locale by event. -/
structure Catalog where
  events : SortedMap String (List Entry)
  /-- The keys of an event's object other than its list of entries. -/
  fields : SortedMap String Json.Object
  fields_ne_nil : ∀ f ∈ fields.toList, f.2.members ≠ []

namespace Catalog

/-- The catalog without events. -/
def empty : Catalog := ⟨SortedMap.empty, SortedMap.empty, by simp [SortedMap.empty]⟩

/-- The entries of an event. -/
def entries? (c : Catalog) (event : String) : Option (List Entry) := c.events.get? event

/-- The fields of an event. -/
def fields? (c : Catalog) (event : String) : Option Json.Object := c.fields.get? event

/-- Whether a catalog has an event. -/
def contains (c : Catalog) (event : String) : Bool := c.events.contains event

/-- The number of events. -/
def eventCount (c : Catalog) : Nat := c.events.size

/-- The number of entries under all events. -/
def entryCount (c : Catalog) : Nat := c.events.values.flatten.length

/-- Whether a catalog has no events. -/
def isEmpty (c : Catalog) : Bool := c.events.isEmpty

/-- Replaces the entries of an event. -/
def setEntries (c : Catalog) (event : String) (entries : List Entry) : Catalog :=
  { c with events := c.events.insert event entries }

/-- Puts an entry behind those of an event. -/
def push (c : Catalog) (event : String) (entry : Entry) : Catalog :=
  c.setEntries event ((c.entries? event).getD [] ++ [entry])

/-- Replaces the fields of an event; an object without members takes them away. -/
def setFields (c : Catalog) (event : String) (fields : Json.Object) : Catalog :=
  -- No event keeps an object without members, so that having none has one form.
  if h : fields.members = [] then
    { c with
      fields := c.fields.erase event
      fields_ne_nil := fun f mem => c.fields_ne_nil f (List.mem_filter.1 mem).1 }
  else
    { c with
      fields := c.fields.insert event fields
      fields_ne_nil := fun f mem => by
        rcases SortedMap.mem_insertList mem with rfl | mem
        · exact h
        · exact c.fields_ne_nil f mem }

/-- The catalog of entries filed one after the other under the events of their combinations. -/
def ofPairs (pairs : List (Combination × Entry)) : Catalog :=
  pairs.foldl (fun c pair => c.push pair.1.event pair.2) empty

/-- The combinations that any entry covers. -/
def combinations (c : Catalog) : SortedSet Combination :=
  SortedSet.ofList (c.events.toList.flatMap fun e => e.2.flatMap (·.combinations e.1))

/-- The normalised tags that the entries of an event cover. -/
def coveredTags (c : Catalog) (event : String) : SortedSet String :=
  SortedSet.ofList (((c.entries? event).getD []).flatMap (·.normalizedTags))

/-- What a document holds for one event: its entries and its other keys. -/
structure Section where
  entries : List Entry
  fields : Json.Object

/-- The section as an object: its entries, and its fields, which take the place of the entries if
they repeat their key. -/
def Section.toObject (s : Section) : Json.Object :=
  let payloads := Json.Value.array (s.entries.map fun e => Json.Value.object e.toObject)
  (Json.Object.ofList [("payloads", payloads)]).insertAll s.fields

/-- The sections of a catalog's events; fields of other events are left out. -/
def sections (c : Catalog) : SortedMap String Section :=
  c.events.map fun event entries => ⟨entries, (c.fields? event).getD Json.Object.empty⟩

/-- The catalog of sections. -/
def ofSections (sections : SortedMap String Section) : Catalog :=
  sections.toList.foldl (fun c s => (c.setEntries s.1 s.2.entries).setFields s.1 s.2.fields) empty

/-- The catalog as an object with a member for each event. -/
def toObject (c : Catalog) : Json.Object :=
  Json.Object.ofList (c.sections.toList.map fun s => (s.1, Json.Value.object s.2.toObject))

/-- Equality of lists item by item under a test. -/
def sameLists {α : Type} (test : α → α → Bool) : List α → List α → Bool
  | [], [] => true
  | a :: as, b :: bs => test a b && sameLists test as bs
  | _, _ => false

/-- Equality of catalogs with payloads and fields compared as values. -/
def same (a b : Catalog) : Bool :=
  sameLists (fun x y => x.1 == y.1 && sameLists Entry.same x.2 y.2) a.events.toList b.events.toList
    && sameLists (fun x y => x.1 == y.1 && x.2.same y.2) a.fields.toList b.fields.toList

/-! ### What the operations do -/

theorem entries?_setEntries {c : Catalog} {event e : String} {entries : List Entry} :
    (c.setEntries event entries).entries? e = if e = event then some entries else c.entries? e :=
  SortedMap.get?_insert

theorem fields?_setEntries {c : Catalog} {event e : String} {entries : List Entry} :
    (c.setEntries event entries).fields? e = c.fields? e := rfl

theorem entries?_push {c : Catalog} {event e : String} {entry : Entry} :
    (c.push event entry).entries? e =
      if e = event then some ((c.entries? event).getD [] ++ [entry]) else c.entries? e :=
  SortedMap.get?_insert

theorem fields?_push {c : Catalog} {event e : String} {entry : Entry} :
    (c.push event entry).fields? e = c.fields? e := rfl

theorem entries?_setFields {c : Catalog} {event e : String} {fields : Json.Object} :
    (c.setFields event fields).entries? e = c.entries? e := by
  unfold setFields
  split <;> rfl

theorem fields?_setFields {c : Catalog} {event e : String} {fields : Json.Object} :
    (c.setFields event fields).fields? e =
      if e = event then (if fields.members = [] then none else some fields) else c.fields? e := by
  unfold setFields fields?
  split
  · simp [SortedMap.get?_erase]
  · simp [SortedMap.get?_insert]

/-! ### What a catalog covers -/

theorem mem_coveredTags {c : Catalog} {event tag : String} :
    tag ∈ c.coveredTags event ↔
      ∃ entries, c.entries? event = some entries ∧ ∃ e ∈ entries, tag ∈ e.normalizedTags := by
  rw [coveredTags, SortedSet.mem_ofList, List.mem_flatMap]
  cases c.entries? event <;> simp

/-- A combination is covered if and only if its tag is covered under its event. -/
theorem mem_combinations {c : Catalog} {x : Combination} :
    x ∈ c.combinations ↔ x.tag ∈ c.coveredTags x.event := by
  rw [combinations, SortedSet.mem_ofList, mem_coveredTags]
  simp only [List.mem_flatMap, Entry.mem_combinations, entries?]
  constructor
  · rintro ⟨⟨event, entries⟩, mem, e, inEntries, rfl, tag⟩
    exact ⟨entries, SortedMap.get?_eq_some_iff.2 mem, e, inEntries, tag⟩
  · rintro ⟨entries, found, e, inEntries, tag⟩
    exact ⟨(x.event, entries), SortedMap.get?_eq_some_iff.1 found, e, inEntries, rfl, tag⟩

end Catalog

end TemplateCoverage
