import TemplateCoverage.Proofs.Catalog.Answered
import TemplateCoverage.Proofs.Catalog.Merge
import TemplateCoverage.Proofs.Document.RoundTrip

/-!
# `TemplateCoverage.Proofs.Document.Merging`: the keys of a merged document

What is written after a merge is said of the two documents that were read: of their events, the
objects of their entries and the members beside those that a catalog knows. The theorems:

* `keepsEntry_toObject`: what is written for an entry keeps the members of its object;
* `keepsEvent_toObject`: and what is written for an event keeps those of the event's object;
* `Holds.areMerged`: which events are written after a merge, with which entries and members;
* `merge_keeps_documents`: the same from text to text;
* `merge_drops_idle`: an event that a merge leaves out with its members.
-/

set_option autoImplicit false

namespace TemplateCoverage

open Json (Object Value)

namespace Catalog

variable {p c m : Catalog} {o w events old new : Object} {objects : List Object} {event : String}

/-! ### What is kept -/

/-- What is written for an entry keeps the members of its object: the tags, which are written out as
none if they were left out, the payload unless it is null, and the other members in their order. -/
structure KeepsEntry (o w : Object) : Prop where
  tags : w.get? "tags" = some ((o.get? "tags").getD (Value.array []))
  payload : w.get? "payload" = (o.get? "payload").filter fun v => !v.isNull
  others : (w.toList.filter fun m => m.1 ≠ "tags" ∧ m.1 ≠ "payload") =
    o.toList.filter fun m => m.1 ≠ "tags" ∧ m.1 ≠ "payload"

/-- What is written for an event keeps the objects of its entries, one for one in their order, and
the other members of the event's object in their order. -/
structure KeepsEvent (o : Object) (objects : List Object) (w : Object) : Prop where
  payloads : ∃ kept : List Object, w.get? "payloads" = some (Value.array (kept.map Value.object)) ∧
    List.Forall₂ KeepsEntry objects kept
  others : (w.toList.filter fun m => m.1 ≠ "payloads") =
    o.toList.filter fun m => m.1 ≠ "payloads"

/-- The objects of an event's entries; an event that is not there has none. -/
def objectsOf (events : Object) (event : String) : List Object :=
  match (events.get? event).bind (·.object?) with
  | some o => (((o.get? "payloads").bind (·.items?)).getD []).filterMap (·.object?)
  | none => []

/-- Whether a catalog accepts the entry of an object under an event. It is said on objects, as
documents have them. -/
def acceptsObject (p : Catalog) (event : String) (o : Object) : Bool :=
  match decodeEntry (Value.object o) with
  | .ok e => p.accepts event e
  | .error _ => false

/-- The candidates' objects of an event whose entries a catalog accepts, in their order in the
document. -/
def acceptedObjects (p : Catalog) (new : Object) (event : String) : List Object :=
  (objectsOf new event).filter (p.acceptsObject event)

/-- The events that are written after a merge: all events of the catalog's document with their
entries and the accepted ones of the candidates behind them, the events of which entries are
accepted for the first time with these, and no others. -/
structure AreMerged (p : Catalog) (old new written : Object) : Prop where
  events : ∀ event, event ∈ written.toList.map (·.1) ↔
    event ∈ old.toList.map (·.1) ∨ acceptedObjects p new event ≠ []
  kept : ∀ event v, (event, v) ∈ old.toList → ∃ o w, v = Value.object o ∧
    o.get? "payloads" = some (Value.array ((objectsOf old event).map Value.object)) ∧
    (event, Value.object w) ∈ written.toList ∧
      KeepsEvent o (objectsOf old event ++ acceptedObjects p new event) w
  adopted : ∀ event v, (event, v) ∈ new.toList → ∃ o, v = Value.object o ∧
    o.get? "payloads" = some (Value.array ((objectsOf new event).map Value.object)) ∧
    (event ∉ old.toList.map (·.1) → acceptedObjects p new event ≠ [] →
      ∃ w, (event, Value.object w) ∈ written.toList ∧
        KeepsEvent o (acceptedObjects p new event) w)

/-! ### Entries and events -/

/-- What is written for an entry keeps the members of its object: tags and payload under their keys,
and every other member. -/
theorem keepsEntry_toObject {e : Entry} (h : e.IsOf o) : KeepsEntry o e.toObject := by
  obtain ⟨no_tags, no_payload⟩ := free_of_decodeEntry (decodeEntry_eq_ok_iff.2 ⟨o, rfl, h⟩)
  have members := Entry.toList_toObject no_tags no_payload
  refine ⟨?_, ?_, ?_⟩
  · rw [h.tags]
    exact Object.get?_eq_some_iff.2 (members ▸ List.mem_cons_self)
  · by_cases null : e.payload.isNull
    · -- A null payload is not written, be it that the object has one or that it has none.
      have absent : e.toObject.get? "payload" = none := by
        rw [Object.get?_eq_none_iff] at no_payload ⊢
        simpa [members, null] using no_payload
      rw [absent]
      cases found : o.get? "payload" with
      | none => rfl
      | some v =>
        have same : e.payload = v := h.payload.trans (by rw [found, Option.getD_some])
        rw [Option.filter_some, ← same, null]
        rfl
    · have written : e.toObject.get? "payload" = some e.payload :=
        Object.get?_eq_some_iff.2 (by simp [members, null])
      have held : o.get? "payload" = some e.payload := by
        cases found : o.get? "payload" with
        | none => exact absurd (Value.isNull_iff.2 (h.payload.trans (by rw [found]; rfl))) null
        | some v => rw [h.payload, found, Option.getD_some]
      rw [written, held, Option.filter_some, if_pos (by simpa using null)]
  · have carried : (e.extra.toList.filter fun m => m.1 ≠ "tags" ∧ m.1 ≠ "payload") =
        e.extra.toList := by
      rw [h.extra, List.filter_filter]
      simp only [Bool.and_self]
    rw [members, ← h.extra, List.filter_cons_of_neg (by simp), List.filter_append, carried]
    split <;> simp

/-- What is written for an event keeps the objects of its entries and its other members. -/
theorem keepsEvent_toObject {s : Section} (entries : List.Forall₂ Entry.IsOf s.entries objects)
    (fields : s.fields.toList = o.toList.filter fun m => m.1 ≠ "payloads") :
    KeepsEvent o objects s.toObject := by
  have no_payloads : s.fields.get? "payloads" = none := by
    rw [Object.get?_eq_none_iff, fields]
    simp
  have members := Section.toList_toObject no_payloads
  refine ⟨⟨s.entries.map Entry.toObject, ?_, ?_⟩, ?_⟩
  · rw [List.map_map]
    exact Object.get?_eq_some_iff.2 (members ▸ List.mem_cons_self)
  · rw [List.forall₂_map_right_iff]
    exact (entries.imp fun _ _ => keepsEntry_toObject).flip
  · rw [members, List.filter_cons_of_neg (by simp), fields, List.filter_filter]
    simp only [Bool.and_self]

/-- A catalog is written with the sections of its events, each under the event's name. -/
theorem mem_toObject {entries : List Entry} (listed : m.entries? event = some entries) :
    (event, Value.object
      (Section.toObject ⟨entries, (m.fields? event).getD Object.empty⟩)) ∈ m.toObject.toList := by
  rw [toList_toObject]
  refine List.mem_map.2 ⟨(event, _), SortedMap.get?_eq_some_iff.1 ?_, rfl⟩
  rw [get?_sections, listed]
  rfl

/-- A catalog is written with its events and no others, as the one without orphans has it. -/
theorem mem_keys_toObject : event ∈ m.toObject.toList.map (·.1) ↔ m.contains event := by
  have keys : m.toObject.toList.map (·.1) = m.events.keys := by
    rw [toList_toObject, List.map_map, SortedMap.keys]
    exact List.map_map
  rw [keys]
  exact SortedMap.contains_iff.symm

/-! ### The objects of the entries -/

/-- The objects of an event's entries are those that its object lists, if the event is in the
document. -/
theorem objectsOf_eq (mem : (event, Value.object o) ∈ events.toList)
    (listed : o.get? "payloads" = some (Value.array (objects.map Value.object))) :
    objectsOf events event = objects := by
  have isObject : ∀ o, (Value.object o).object? = some o := fun _ => rfl
  unfold objectsOf
  rw [Object.get?_eq_some_iff.2 mem, Option.bind_some, isObject]
  simp only [listed, Option.bind_some, Value.items?_array, Option.getD_some, List.filterMap_map]
  exact List.filterMap_some

/-- An event that is not there has no objects of entries, so that it adds none to a merge. -/
theorem objectsOf_eq_nil (absent : event ∉ events.toList.map (·.1)) :
    objectsOf events event = [] := by
  rw [objectsOf, Object.get?_eq_none_iff.2 absent]
  rfl

/-- The events of a document are objects that list the objects of their entries. -/
theorem exists_object_of_isEvent {v : Value} (all : ∀ m ∈ events.toList, IsEvent m.2)
    (mem : (event, v) ∈ events.toList) : ∃ o, v = Value.object o ∧
      o.get? "payloads" = some (Value.array ((objectsOf events event).map Value.object)) := by
  obtain ⟨s, decoded, -⟩ := isEvent_iff.1 (all _ mem)
  obtain ⟨o, rfl, ⟨objects, listed, -⟩, -⟩ := decodeSection_eq_ok_iff.1 decoded
  exact ⟨o, rfl, (objectsOf_eq mem listed).symm ▸ listed⟩

/-- The entries that a catalog holds under an event are those of the event's objects. -/
theorem Holds.isOf_objectsOf (holds : c.Holds events) (all : ∀ m ∈ events.toList, IsEvent m.2)
    (event : String) :
    List.Forall₂ Entry.IsOf ((c.entries? event).getD []) (objectsOf events event) := by
  by_cases mem : event ∈ events.toList.map (·.1)
  · obtain ⟨⟨_, v⟩, inEvents, rfl⟩ := List.mem_map.1 mem
    obtain ⟨o, _, isObject, -⟩ := all _ inEvents
    obtain rfl : v = Value.object o := isObject
    obtain ⟨entries, listed, objects, payloads, each⟩ := holds.entries _ o inEvents
    rw [listed, Option.getD_some, objectsOf_eq inEvents payloads]
    exact each
  · -- An event that is not in the document has neither entries nor objects.
    have none : c.entries? event = none := by
      rw [← contains_eq_false_iff, ← Bool.not_eq_true, holds.contains]
      exact mem
    rw [none, objectsOf_eq_nil mem]
    exact .nil

/-- The entries that a merge adds are those of the accepted objects, one by one, in the order of the
document. -/
theorem isOf_acceptedObjects (holds : c.Holds new) (all : ∀ m ∈ new.toList, IsEvent m.2) :
    List.Forall₂ Entry.IsOf (p.additions c event) (acceptedObjects p new event) := by
  refine List.rel_filter (fun e o isOf => ?_) (holds.isOf_objectsOf all event)
  have decoded := decodeEntry_eq_ok_iff.2 ⟨o, rfl, isOf⟩
  simp only [acceptsObject, decoded]

/-! ### Merged documents -/

/-- After a merge the events of both documents are written as they should be. -/
theorem Holds.areMerged (primary : p.Holds old) (isOld : ∀ m ∈ old.toList, IsEvent m.2)
    (candidates : c.Holds new) (isNew : ∀ m ∈ new.toList, IsEvent m.2) :
    AreMerged p old new (p.merge c).toObject := by
  have added : ∀ event, List.Forall₂ Entry.IsOf (p.additions c event)
      (acceptedObjects p new event) := fun _ => isOf_acceptedObjects candidates isNew
  -- As many entries are added as objects are accepted.
  have adds_iff : ∀ event, p.additions c event ≠ [] ↔ acceptedObjects p new event ≠ [] := by
    intro event
    rw [← List.length_pos_iff, (added event).length_eq, List.length_pos_iff]
  refine ⟨fun event => ?_, fun event v mem => ?_, fun event v mem => ?_⟩
  · rw [mem_keys_toObject, contains_merge_iff, primary.contains, adds_iff]
  -- An event of the catalog, to which the accepted entries are added.
  · obtain ⟨o, rfl, listed⟩ := exists_object_of_isEvent isOld mem
    have has : p.contains event := (primary.contains event).2 (List.mem_map_of_mem mem)
    obtain ⟨entries, held⟩ := contains_iff.1 ((contains_merge_iff (c := c)).2 (.inl has))
    refine ⟨o, _, rfl, listed, mem_toObject held, keepsEvent_toObject ?_ ?_⟩
    · show List.Forall₂ Entry.IsOf entries _
      have all : ((p.merge c).entries? event).getD [] = entries := by rw [held, Option.getD_some]
      rw [← all, getD_entries?_merge]
      exact List.rel_append (primary.isOf_objectsOf isOld event) (added event)
    · -- An event of the catalog keeps its own fields.
      show ((((p.merge c).fields? event).getD Object.empty).toList = _)
      rw [fields?_merge, if_neg (by simp [has])]
      exact primary.fields event o mem
  -- An event of the candidates, which is written with its fields if the catalog has none of it.
  · obtain ⟨o, rfl, listed⟩ := exists_object_of_isEvent isNew mem
    refine ⟨o, rfl, listed, fun fresh accepted => ?_⟩
    have absent : p.contains event = false :=
      Bool.not_eq_true _ ▸ mt (primary.contains event).1 fresh
    have adds : p.additions c event ≠ [] := (adds_iff event).2 accepted
    have held : (p.merge c).entries? event = some (p.additions c event) := by
      rw [entries?_merge, if_pos adds, contains_eq_false_iff.1 absent]
      rfl
    refine ⟨_, mem_toObject held, keepsEvent_toObject (added event) ?_⟩
    show ((((p.merge c).fields? event).getD Object.empty).toList = _)
    rw [fields?_merge, if_pos ⟨absent, adds⟩, primary.others event fresh, Option.or_none]
    exact candidates.fields event o mem

end Catalog

/-! ### Merged texts -/

namespace Document

open Catalog

variable {first second : String} {p c : Catalog}

/-- Of two texts that are catalogs the text that is written after a merge keeps all keys: its one
member holds the events of both, each entry that was there or is accepted is written with the
members of its object, each event with those of the event's object, and nothing else is written. -/
theorem merge_keeps_documents (primary : readCatalog first = .ok p)
    (candidates : readCatalog second = .ok c) :
    ∃ v v' old new written,
      (Json.read (Comment.strip first.toList) = .ok v ∧ HasEvents v old) ∧
      (Json.read (Comment.strip second.toList) = .ok v' ∧ HasEvents v' new) ∧
      candidatesText (p.merge c) = Json.render .indented
        (Value.object (Object.ofList [(templatesKey, Value.object written)])) ++ "\n" ∧
      AreMerged p old new written := by
  obtain ⟨v, read, decoded⟩ := readCatalog_eq_ok_iff.1 primary
  obtain ⟨v', read', decoded'⟩ := readCatalog_eq_ok_iff.1 candidates
  obtain ⟨old, has, isOld, holds⟩ := ofValue_eq_ok_iff_holds.1 decoded
  obtain ⟨new, has', isNew, holds'⟩ := ofValue_eq_ok_iff_holds.1 decoded'
  exact ⟨v, v', old, new, (p.merge c).toObject, ⟨read, has⟩, ⟨read', has'⟩, rfl,
    holds.areMerged isOld holds' isNew⟩

/-- Candidates for the awkward catalog: two variants of its event, one of which it covers, and an
event of their own with another member. -/
def fresh : Catalog :=
  let entry (tag : String) : Entry :=
    ⟨[tag], Value.string tag, Object.ofList [("by", Value.string "hand")]⟩
  ((Catalog.empty.setEntries "push" [entry "opened", entry "default"]).setEntries "issues"
    [entry ""]).setFields "issues" (Object.ofList [("note", Value.bool true)])

/-- The candidates can be written and are read back, as the known keys stand where they should. -/
theorem storable_fresh : fresh.Storable where
  entries event entries listed e mem := by
    rw [fresh, Catalog.entries?_setFields, Catalog.entries?_setEntries,
      Catalog.entries?_setEntries] at listed
    split at listed
    · cases listed
      rw [List.mem_singleton.1 mem]
      exact ⟨by decide, rfl, rfl⟩
    · split at listed
      · cases listed
        simp only [List.mem_cons, List.not_mem_nil, or_false] at mem
        rcases mem with rfl | rfl
        · exact ⟨by decide, rfl, rfl⟩
        · exact ⟨by decide, rfl, rfl⟩
      · contradiction
  no_payloads event fields found := by
    rw [fresh, Catalog.fields?_setFields] at found
    split at found
    · cases found
      rfl
    · contradiction
  filed event fields found := by
    rw [fresh, Catalog.fields?_setFields] at found
    split at found
    · rename_i eq
      exact eq ▸ rfl
    · contradiction

/-- What is written for entries has the tags of their objects as these spell them, and no tags where
an object names none. -/
theorem tags_of_keepsEntry {objects kept : List Object}
    (keeps : List.Forall₂ KeepsEntry objects kept) : kept.map (·.get? "tags") =
      objects.map fun o => some ((o.get? "tags").getD (Value.array [])) := by
  induction keeps with
  | nil => rfl
  | cons keeps _ ih => rw [List.map_cons, List.map_cons, keeps.tags, ih]

/-- The awkward catalog keeps both of its entries and its other members when it is merged with fresh
candidates. It is given the variant that it lacks, and the candidates' own event comes with its
other member. -/
theorem merge_keeps_documents_awkward : readCatalog (candidatesText awkward) = .ok awkward ∧
    readCatalog (candidatesText fresh) = .ok fresh ∧
    ∃ (written push issues : Object) (kept adopted : List Object),
      candidatesText (awkward.merge fresh) = Json.render .indented
        (Value.object (Object.ofList [(templatesKey, Value.object written)])) ++ "\n" ∧
      ("push", Value.object push) ∈ written.toList ∧
      (push.toList.filter fun m => m.1 ≠ "payloads") = awkwardMembers.toList ∧
      push.get? "payloads" = some (Value.array (kept.map Value.object)) ∧
      kept.map (·.get? "tags") =
        ([["default", "a//b"], [], ["opened"]].map fun tags =>
          some (Value.array (tags.map Value.string))) ∧
      ("issues", Value.object issues) ∈ written.toList ∧
      (issues.toList.filter fun m => m.1 ≠ "payloads") = [("note", Value.bool true)] ∧
      issues.get? "payloads" = some (Value.array (adopted.map Value.object)) ∧
      adopted.map (·.get? "tags") = [some (Value.array [Value.string ""])] := by
  have readable : (value fresh).Readable := ⟨by decide, fun x mem => absurd mem List.not_mem_nil⟩
  have back := readCatalog_candidatesText storable_awkward readable_awkward
  have back' := readCatalog_candidatesText storable_fresh readable
  have read := Json.read_of_tokens readable_awkward.depth_le
    (tokens_candidatesText readable_awkward.doubles)
  have read' := Json.read_of_tokens readable.depth_le (tokens_candidatesText readable.doubles)
  refine ⟨back, back', ?_⟩
  obtain ⟨v, v', old, new, written, ⟨found, hasOld⟩, ⟨found', hasNew⟩, text, merged⟩ :=
    merge_keeps_documents back back'
  rw [Comment.strip_eq_self_of_read read, read] at found
  rw [Comment.strip_eq_self_of_read read', read'] at found'
  cases found
  cases found'
  obtain rfl : old = awkward.toObject := hasOld.unique ⟨_, rfl, rfl⟩
  obtain rfl : new = fresh.toObject := hasNew.unique ⟨_, rfl, rfl⟩
  -- The event that both have, and the one that only the candidates have.
  obtain ⟨o, push, same, _, inWritten, ⟨kept, payloads, each⟩, others⟩ :=
    merged.kept "push" _ (mem_toObject rfl)
  obtain ⟨o', same', _, adopt⟩ := merged.adopted "issues" _ (mem_toObject rfl)
  obtain ⟨issues, inWritten', ⟨adopted, payloads', each'⟩, others'⟩ :=
    adopt (by decide +kernel) (by decide +kernel)
  cases Value.object_inj same
  cases Value.object_inj same'
  exact ⟨written, push, issues, kept, adopted, text, inWritten, others.trans rfl, payloads,
    (tags_of_keepsEntry each).trans rfl, inWritten', others'.trans rfl, payloads',
    (tags_of_keepsEntry each').trans rfl⟩

/-! ### An event without accepted entries -/

/-- A catalog with an event that has no entries but another member, which a merge does not take
over. -/
def idle : Catalog :=
  (Catalog.empty.setEntries "push" []).setFields "push"
    (Object.ofList [("note", Value.bool true)])

/-- Such a catalog can be written and is read back: an event without entries is allowed in a
document. -/
theorem storable_idle : idle.Storable where
  entries event entries listed e mem := by
    rw [idle, Catalog.entries?_setFields, Catalog.entries?_setEntries] at listed
    split at listed
    · cases listed
      contradiction
    · contradiction
  no_payloads event fields found := by
    rw [idle, Catalog.fields?_setFields] at found
    split at found
    · cases found
      rfl
    · contradiction
  filed event fields found := by
    rw [idle, Catalog.fields?_setFields] at found
    split at found
    · rename_i eq
      exact eq ▸ rfl
    · contradiction

/-- An event that is new is not written after a merge if no entry of it is accepted, and neither are
its other members. -/
theorem merge_drops_idle : readCatalog "{}" = .ok Catalog.empty ∧
    readCatalog (candidatesText idle) = .ok idle ∧
    (∃ v new o, Json.read (Comment.strip (candidatesText idle).toList) = .ok v ∧ HasEvents v new ∧
      ("push", Value.object o) ∈ new.toList ∧ o.get? "note" = some (Value.bool true)) ∧
    candidatesText (Catalog.empty.merge idle) = "\x7b\n  \"templates\": \x7b\x7d\n\x7d\n" := by
  have readable : (value idle).Readable := ⟨by decide, fun x mem => absurd mem List.not_mem_nil⟩
  have tokens := tokens_candidatesText readable.doubles
  have read := Json.read_of_tokens readable.depth_le tokens
  refine ⟨readCatalog_braces, readCatalog_candidatesText storable_idle readable, ?_,
    by decide +kernel⟩
  refine ⟨value idle, idle.toObject, _, ?_, ⟨_, rfl, rfl⟩, mem_toObject rfl, rfl⟩
  rw [Comment.strip_eq_self_of_read read, read]

end Document

end TemplateCoverage
