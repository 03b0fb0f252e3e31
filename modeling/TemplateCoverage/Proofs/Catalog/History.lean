import TemplateCoverage.Proofs.Catalog.Entries
import TemplateCoverage.Proofs.Catalog.Gaps

/-!
# `TemplateCoverage.Proofs.Catalog.History`: catalogs and how they were made

A catalog is made from the empty one by a history of edits. What it holds is what the history tells:
under an event the entries that were set last and those pushed after that, and the fields that were
set last. The theorems:

* `entries_append`, `fields?_append`: what one more edit does to what a history tells;
* `getD_entries?_apply`, `fields?_apply`: and what it does to a catalog;
* `Reflects.apply`, `Reflects.foldl_apply`: a catalog that reflects a history goes on doing so;
* `Reflects.toList_events`: the events of such a catalog with their entries;
* `ofHistory_told`: all that is seen of a catalog, told by the history that made it.
-/

set_option autoImplicit false

namespace TemplateCoverage.Catalog

/-- A change of a catalog: one more entry of an event, or other entries or fields. -/
inductive Edit where
  | push (event : String) (entry : Entry)
  | setEntries (event : String) (entries : List Entry)
  | setFields (event : String) (fields : Json.Object)

namespace Edit

/-- The catalog after an edit, as the program makes it. Each edit is one call of the interface. -/
def apply (c : Catalog) : Edit → Catalog
  | push event entry => c.push event entry
  | setEntries event entries => c.setEntries event entries
  | setFields event fields => c.setFields event fields

/-- The event that an edit files entries under. Fields are not filed: an event with fields alone is
none that a catalog contains. -/
def filed? : Edit → Option String
  | push event _ => some event
  | setEntries event _ => some event
  | setFields _ _ => none

/-- The entry that an edit pushes under an event, if it is this event that the edit is about. -/
def pushed? (event : String) : Edit → Option Entry
  | push e entry => if e = event then some entry else none
  | _ => none

/-- The entries that an edit gives an event instead of its own, if it is about this event. -/
def entries? (event : String) : Edit → Option (List Entry)
  | setEntries e entries => if e = event then some entries else none
  | _ => none

/-- The fields that an edit gives an event instead of its own, if it is about this event. -/
def fields? (event : String) : Edit → Option Json.Object
  | setFields e fields => if e = event then some fields else none
  | _ => none

end Edit

/-- The catalog that a history of edits makes, from the empty one on. -/
def ofHistory (history : List Edit) : Catalog := history.foldl Edit.apply empty

/-! ### What a history tells -/

namespace History

/-- The events under which entries were filed, in ascending order. Once filed, an event stays, even
if its entries are set to none. -/
def events (history : List Edit) : SortedSet String :=
  SortedSet.ofList (history.filterMap (·.filed?))

/-- The edits after the last one that sets the entries of an event; all of them if none does. Only
these can push something that is still there. -/
def sinceSet (history : List Edit) (event : String) : List Edit :=
  (history.reverse.takeWhile fun edit => (edit.entries? event).isNone).reverse

/-- The entries of an event: those that were set last, if any were, and those pushed after that. -/
def entries (history : List Edit) (event : String) : List Entry :=
  (history.reverse.findSome? (·.entries? event)).getD [] ++
    (sinceSet history event).filterMap (·.pushed? event)

/-- The fields that an event was given last, also if they have no members. -/
def lastFields? (history : List Edit) (event : String) : Option Json.Object :=
  history.reverse.findSome? (·.fields? event)

/-- The fields of an event: those it was given last, if these have members. -/
def fields? (history : List Edit) (event : String) : Option Json.Object :=
  (lastFields? history event).bind fun fields =>
    if fields.members = [] then none else some fields

variable {history : List Edit} {edit : Edit} {event : String}

/-- A history has the events that one of its edits files under, be it with an entry, with a list of
entries or with none of them. -/
theorem mem_events_iff : event ∈ events history ↔ ∃ edit ∈ history, edit.filed? = some event := by
  rw [events, SortedSet.mem_ofList, List.mem_filterMap]

/-- One more edit adds the event that it files under, if any, and takes none away. -/
theorem mem_events_append_iff : event ∈ events (history ++ [edit]) ↔
    edit.filed? = some event ∨ event ∈ events history := by
  simp only [mem_events_iff, List.mem_append, List.mem_singleton, or_and_right, exists_or,
    exists_eq_left]
  exact or_comm

/-- Setting the entries of an event forgets its earlier ones, and other edits push what they do.
This is the same equation that an edit of a catalog satisfies. -/
theorem entries_append : entries (history ++ [edit]) event =
    (edit.entries? event).getD (entries history event) ++ (edit.pushed? event).toList := by
  cases edit with
  | push e entry =>
    by_cases same : e = event <;>
      simp [entries, sinceSet, Edit.entries?, Edit.pushed?, same]
  | setEntries e es =>
    by_cases same : e = event <;>
      simp [entries, sinceSet, Edit.entries?, Edit.pushed?, same]
  | setFields e fields => simp [entries, sinceSet, Edit.entries?, Edit.pushed?]

example (a b d : Entry) : entries [.push "push" a, .setEntries "push" [b], .push "issues" a,
    .push "push" d] "push" = [b, d] := by rfl

/-- An event keeps its fields but for an edit that gives it others. -/
theorem fields?_append : fields? (history ++ [edit]) event =
    match edit.fields? event with
    | some fields => if fields.members = [] then none else some fields
    | none => fields? history event := by
  rw [fields?, lastFields?, List.reverse_append, List.reverse_singleton, List.singleton_append,
    List.findSome?_cons]
  cases edit.fields? event <;> rfl

end History

/-! ### What an edit does -/

variable {c : Catalog} {edit : Edit} {event : String} {history : List Edit}

/-- Setting the entries of an event files it, even if there are none, and keeps the other events. -/
theorem contains_setEntries {e : String} {entries : List Entry} :
    (c.setEntries e entries).contains event ↔ e = event ∨ c.contains event := by
  rw [contains_iff, contains_iff, entries?_setEntries]
  by_cases same : event = e
  · simp [same]
  · simp [same, Ne.symm same]

/-- Setting fields leaves the entries and the events alone, so that fields can be set for an event
that is not there. -/
theorem events_setFields {e : String} {fields : Json.Object} :
    (c.setFields e fields).events = c.events := by
  unfold setFields
  split <;> rfl

/-- An edit adds the event that it files under, if any. Events are never removed. -/
theorem contains_apply :
    (edit.apply c).contains event ↔ edit.filed? = some event ∨ c.contains event := by
  cases edit with
  | push e entry => exact contains_setEntries.trans (or_congr_left (Option.some_inj.symm))
  | setEntries e entries => exact contains_setEntries.trans (or_congr_left (Option.some_inj.symm))
  | setFields e fields =>
    show (c.setFields e fields).events.contains event ↔ none = some event ∨ c.contains event
    rw [events_setFields, or_iff_right (Option.some_ne_none event).symm]
    rfl

/-- An edit sets the entries of an event or pushes one behind them, just as the history tells. -/
theorem getD_entries?_apply : ((edit.apply c).entries? event).getD [] =
    (edit.entries? event).getD ((c.entries? event).getD []) ++ (edit.pushed? event).toList := by
  -- One case for each kind of edit, and in each one the event is that of the edit or another.
  cases edit with
  | push e entry =>
    show ((c.push e entry).entries? event).getD [] = _
    simp only [getD_entries?_push, Edit.entries?, Edit.pushed?]
    split <;> rfl
  | setEntries e entries =>
    show ((c.setEntries e entries).entries? event).getD [] = _
    simp only [entries?_setEntries, Edit.entries?, Edit.pushed?]
    by_cases same : e = event
    · simp [same]
    · simp [same, Ne.symm same]
  | setFields e fields =>
    show ((c.setFields e fields).entries? event).getD [] = _
    rw [entries?_setFields]
    exact (List.append_nil _).symm

/-- An event is given the fields of an edit, or none if they have no members. Other edits leave its
fields alone. -/
theorem fields?_apply : (edit.apply c).fields? event =
    match edit.fields? event with
    | some fields => if fields.members = [] then none else some fields
    | none => c.fields? event := by
  cases edit with
  | push e entry => exact fields?_push
  | setEntries e entries => exact fields?_setEntries
  | setFields e fields =>
    show (c.setFields e fields).fields? event = _
    rw [fields?_setFields, Edit.fields?]
    by_cases same : e = event
    · simp [same]
    · simp [same, Ne.symm same]

/-! ### Catalogs and histories -/

/-- A catalog reflects a history if it has the events, the entries and the fields that the history
tells. This is the invariant of the edits. -/
structure Reflects (c : Catalog) (history : List Edit) : Prop where
  contains : ∀ event, c.contains event ↔ event ∈ History.events history
  entries : ∀ event, (c.entries? event).getD [] = History.entries history event
  fields : ∀ event, c.fields? event = History.fields? history event

namespace Reflects

/-- The empty catalog reflects the history without edits, where no question has an answer but the
empty one. -/
theorem empty : Catalog.empty.Reflects [] where
  contains event := by
    have none : Catalog.empty.contains event = false := rfl
    simp [none, History.mem_events_iff]
  entries _ := rfl
  fields _ := rfl

/-- A catalog that reflects a history reflects the next edit too, once it is made. Each part of the
invariant has an equation for the catalog and one for the history. -/
theorem apply (reflects : c.Reflects history) (edit : Edit) :
    (edit.apply c).Reflects (history ++ [edit]) where
  contains event := by
    rw [contains_apply, History.mem_events_append_iff, reflects.contains]
  entries event := by
    rw [getD_entries?_apply, History.entries_append, reflects.entries]
  fields event := by
    rw [fields?_apply, History.fields?_append, reflects.fields]

/-- And so it does whatever edits follow, by induction on them with the step of one edit. -/
theorem foldl_apply (reflects : c.Reflects history) (edits : List Edit) :
    (edits.foldl Edit.apply c).Reflects (history ++ edits) := by
  -- The history so far grows with the catalog.
  induction edits generalizing c history with
  | nil => rwa [List.append_nil]
  | cons edit edits ih => simpa using ih (reflects.apply edit)

/-! What is seen of a catalog that reflects a history. -/

/-- The events of the catalog are those of the history, both in ascending order. -/
theorem keys_eq (reflects : c.Reflects history) :
    c.events.keys = (History.events history).toList :=
  StrictOrder.eq_of_mem_iff c.events.ascending_keys (History.events history).ascending fun event =>
    contains_iff_mem_keys.symm.trans (reflects.contains event)

/-- The events of the catalog are those of the history with their entries. -/
theorem toList_events (reflects : c.Reflects history) : c.events.toList =
    (History.events history).toList.map fun event => (event, History.entries history event) := by
  -- Both sides go through the same keys, so it is enough that each pair is told by its own key.
  have own : ∀ e ∈ c.events.toList, (e.1, History.entries history e.1) = e := by
    intro e mem
    have listed : c.entries? e.1 = some e.2 := SortedMap.get?_eq_some_iff.2 mem
    rw [← reflects.entries, listed, Option.getD_some]
  rw [← reflects.keys_eq, SortedMap.keys, List.map_map]
  exact ((List.map_congr_left own).trans (List.map_id _)).symm

/-- An event has the entries that the history tells, or none if it was never filed. -/
theorem entries?_eq (reflects : c.Reflects history) : c.entries? event =
    if event ∈ History.events history then some (History.entries history event) else none := by
  rw [← reflects.entries]
  split
  · rename_i filed
    obtain ⟨entries, listed⟩ := contains_iff.1 ((reflects.contains event).2 filed)
    rw [listed, Option.getD_some]
  · rename_i absent
    rwa [← reflects.contains, Bool.not_eq_true, contains_eq_false_iff] at absent

/-- There are as many events as the history has, each counted once however often it was filed under.
-/
theorem eventCount_eq (reflects : c.Reflects history) :
    c.eventCount = (History.events history).size := by
  rw [eventCount, SortedMap.size, reflects.toList_events, List.length_map]
  rfl

/-- There are as many entries as the history tells for its events, the last list and what was pushed
behind it. -/
theorem entryCount_eq (reflects : c.Reflects history) : c.entryCount =
    ((History.events history).toList.flatMap (History.entries history)).length := by
  rw [entryCount, SortedMap.values, reflects.toList_events, List.map_map, List.flatMap_def]
  rfl

/-- The catalog is empty if and only if no edit files anything. Fields alone do not count. -/
theorem isEmpty_iff (reflects : c.Reflects history) :
    c.isEmpty ↔ ∀ edit ∈ history, edit.filed? = none := by
  rw [isEmpty, SortedMap.isEmpty, reflects.toList_events, List.isEmpty_iff, List.map_eq_nil_iff,
    List.eq_nil_iff_forall_not_mem]
  simp only [← SortedSet.mem_def, History.mem_events_iff, Option.eq_none_iff_forall_ne_some]
  -- An event of the history is one that some edit files under.
  grind

/-- A tag is covered if an entry that the history tells has it. -/
theorem mem_coveredTags_iff (reflects : c.Reflects history) {tag : String} :
    tag ∈ c.coveredTags event ↔
      ∃ e ∈ History.entries history event, tag ∈ e.normalizedTags := by
  rw [coveredTags, SortedSet.mem_ofList, List.mem_flatMap, reflects.entries]

/-- A combination is covered if an entry that the history tells for its event covers it. -/
theorem mem_combinations_iff (reflects : c.Reflects history) {x : Combination} :
    x ∈ c.combinations ↔ ∃ e ∈ History.entries history x.event, x ∈ e.combinations x.event := by
  rw [mem_combinations, reflects.mem_coveredTags_iff]
  simp only [Entry.mem_combinations, true_and]

/-- The fields that are kept are those set last that have members. Setting fields without members
takes the earlier ones away. -/
theorem mem_fields_iff (reflects : c.Reflects history) {fields : Json.Object} :
    (event, fields) ∈ c.fields.toList ↔
      History.lastFields? history event = some fields ∧ fields.members ≠ [] := by
  have kept : (event, fields) ∈ c.fields.toList ↔ History.fields? history event = some fields := by
    rw [← reflects.fields]
    exact SortedMap.get?_eq_some_iff.symm
  -- Fields without members are filtered out of what was set last.
  rw [kept, History.fields?, Option.bind_eq_some_iff]
  constructor
  · rintro ⟨last, given, some⟩
    split at some
    · contradiction
    · rename_i members
      obtain rfl := Option.some.inj some
      exact ⟨given, members⟩
  · rintro ⟨given, members⟩
    exact ⟨fields, given, if_neg members⟩

end Reflects

/-- A catalog reflects the history that made it, so that every question about it is answered by the
edits alone. -/
theorem reflects_ofHistory (history : List Edit) : (ofHistory history).Reflects history :=
  Reflects.empty.foldl_apply history

/-- Filing entries under combinations is pushing them in order. So it is a history like any other.
-/
theorem ofPairs_eq_ofHistory {pairs : List (Combination × Entry)} :
    ofPairs pairs = ofHistory (pairs.map fun pair => .push pair.1.event pair.2) := by
  rw [ofHistory, List.foldl_map]
  rfl

/-- The events are those under which an entry is filed. Candidates are made in this way. -/
theorem contains_ofPairs_iff {pairs : List (Combination × Entry)} :
    (ofPairs pairs).contains event ↔ ∃ pair ∈ pairs, pair.1.event = event := by
  rw [ofPairs_eq_ofHistory, (reflects_ofHistory _).contains, History.mem_events_iff]
  simp [Edit.filed?]

/-- What is seen of a catalog is told by the history that made it: its events, which are those under
which entries were ever filed, in ascending order, the entries of each event, which are those set
last and those pushed after that, all that is counted and covered, and the fields of each event,
which are those set last unless these have no members, so that none without members are kept. Edits
of entries leave all fields alone, and edits of fields all entries and events. Filing entries under
combinations is pushing them in order. -/
theorem ofHistory_told (history : List Edit) :
    let c := ofHistory history
    let events := History.events history
    let entries := History.entries history
    (∀ event, c.entries? event = if event ∈ events then some (entries event) else none) ∧
    c.events.toList = events.toList.map (fun event => (event, entries event)) ∧
    events.toList.Pairwise (· < ·) ∧
    c.eventCount = events.size ∧
    c.entryCount = (events.toList.flatMap entries).length ∧
    (c.isEmpty ↔ ∀ edit ∈ history, edit.filed? = none) ∧
    (∀ event, c.contains event ↔ ∃ edit ∈ history, edit.filed? = some event) ∧
    (∀ event tag, tag ∈ c.coveredTags event ↔ ∃ e ∈ entries event, tag ∈ e.normalizedTags) ∧
    (∀ x, x ∈ c.combinations ↔ ∃ e ∈ entries x.event, x ∈ e.combinations x.event) ∧
    (∀ event, c.fields? event = History.fields? history event) ∧
    (∀ event fields, (event, fields) ∈ c.fields.toList ↔
      History.lastFields? history event = some fields ∧ fields.members ≠ []) ∧
    (∀ event entry, (c.push event entry).fields = c.fields) ∧
    (∀ event es, (c.setEntries event es).fields = c.fields) ∧
    (∀ event fields, (c.setFields event fields).events = c.events) ∧
    ∀ pairs : List (Combination × Entry),
      ofPairs pairs = ofHistory (pairs.map fun pair => .push pair.1.event pair.2) := by
  intro c events entries
  have reflects : c.Reflects history := reflects_ofHistory history
  refine ⟨fun _ => reflects.entries?_eq, reflects.toList_events, events.ascending,
    reflects.eventCount_eq, reflects.entryCount_eq, reflects.isEmpty_iff,
    fun event => (reflects.contains event).trans History.mem_events_iff,
    fun _ _ => reflects.mem_coveredTags_iff, fun _ => reflects.mem_combinations_iff,
    reflects.fields, fun _ _ => reflects.mem_fields_iff, fun _ _ => rfl, fun _ _ => rfl,
    fun _ _ => events_setFields, fun _ => ofPairs_eq_ofHistory⟩

end TemplateCoverage.Catalog
