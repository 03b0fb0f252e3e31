import TemplateCoverage.Catalog.Schema
import TemplateCoverage.Document
import TemplateCoverage.Proofs.Catalog.Sections
import TemplateCoverage.Proofs.Except
import TemplateCoverage.Proofs.Json.Object

/-!
# `TemplateCoverage.Proofs.Catalog.Written`: catalogs and their values

A catalog is written as a value and decoded from it. A document keeps the carried keys beside the
known ones, leaves a null payload out and knows only the events that have an entry list, so not
every catalog can be written without loss; a catalog that can is storable. The theorems:

* `Catalog.decodeEntry_object`, `Catalog.decodeSection_object`: entries and sections are decoded
  from their objects;
* `Catalog.ofValue_value`: a storable catalog is decoded from its value;
* `Catalog.storable_of_ofValue`: a decoded catalog is storable.
-/

set_option autoImplicit false

namespace TemplateCoverage

/-- An entry is storable if it repeats no tag and carries neither of the known keys along. Entries
that are decoded are like this, and those made for candidates are. -/
structure Entry.Storable (e : Entry) : Prop where
  nodup_tags : e.normalizedTags.Nodup
  no_tags : e.extra.get? "tags" = none
  no_payload : e.extra.get? "payload" = none

/-- A catalog is storable if its entries are, no event carries the key of its entry list along, and
only events with an entry list have fields. -/
structure Catalog.Storable (c : Catalog) : Prop where
  entries : ∀ event entries, c.entries? event = some entries → ∀ e ∈ entries, e.Storable
  no_payloads : ∀ event fields, c.fields? event = some fields → fields.get? "payloads" = none
  filed : ∀ event fields, c.fields? event = some fields → c.contains event

open Json (Object Value)

/-! ### Entries -/

/-- The members of an entry's object: the known ones and then those carried along. A null payload is
not among them. -/
theorem Entry.toList_toObject {e : Entry} (no_tags : e.extra.get? "tags" = none)
    (no_payload : e.extra.get? "payload" = none) :
    e.toObject.toList = ("tags", Value.array (e.tags.map Value.string)) ::
      ((if e.payload.isNull then [] else [("payload", e.payload)]) ++ e.extra.toList) := by
  rw [Object.get?_eq_none_iff] at no_tags no_payload
  have known : ∀ pairs : List (String × Value), pairs = (("tags", Value.array (e.tags.map
      Value.string)) :: if e.payload.isNull then [] else [("payload", e.payload)]) →
      (Object.ofList pairs).toList = pairs := by
    rintro _ rfl
    refine Object.toList_ofList ?_
    split <;> simp
  unfold Entry.toObject
  rw [Object.toList_insertAll, List.singleton_append, known _ rfl, List.cons_append]
  intro key carried
  rw [List.singleton_append, known _ rfl]
  have ne_tags : key ≠ "tags" := fun eq => no_tags (eq ▸ carried)
  have ne_payload : key ≠ "payload" := fun eq => no_payload (eq ▸ carried)
  split <;> simp [ne_tags, ne_payload]

namespace Catalog

/-- Tags are decoded from the array of their texts, all of them, in their order and spelling. -/
theorem decodeTags_array {tags : List String} :
    decodeTags (Value.array (tags.map Value.string)) = .ok tags := by
  rw [decodeTags, Value.items?_array]
  exact mapM_map_eq_ok fun _ _ => rfl

/-- An entry is decoded from its object, as its known members are found and the others are left
over. -/
theorem decodeEntry_object {e : Entry} (storable : e.Storable) :
    decodeEntry (Value.object e.toObject) = .ok e := by
  have members := Entry.toList_toObject storable.no_tags storable.no_payload
  have no_tags := Object.get?_eq_none_iff.1 storable.no_tags
  have no_payload := Object.get?_eq_none_iff.1 storable.no_payload
  have tags : e.toObject.get? "tags" = some (Value.array (e.tags.map Value.string)) :=
    Object.get?_eq_some_iff.2 (by simp [members])
  -- A null payload is left out of the object and comes back as the payload of none.
  have payload : (e.toObject.get? "payload").getD Value.null = e.payload := by
    by_cases null : e.payload.isNull
    · have absent : e.toObject.get? "payload" = none :=
        Object.get?_eq_none_iff.2 (by simpa [members, null] using no_payload)
      rw [absent, Option.getD_none, Value.isNull_iff.1 null]
    · have present : e.toObject.get? "payload" = some e.payload :=
        Object.get?_eq_some_iff.2 (by simp [members, null])
      rw [present, Option.getD_some]
  have extra : (e.toObject.erase "tags").erase "payload" = e.extra := by
    refine Object.ext_toList ?_
    rw [Object.toList_erase, Object.toList_erase, members, List.filter_filter]
    have others : ∀ pair ∈ e.extra.toList, pair.1 ≠ "tags" ∧ pair.1 ≠ "payload" := fun pair mem =>
      ⟨fun eq => no_tags (List.mem_map.2 ⟨pair, mem, eq⟩),
        fun eq => no_payload (List.mem_map.2 ⟨pair, mem, eq⟩)⟩
    have kept : e.extra.toList.filter (fun pair => pair.1 ≠ "payload" && pair.1 ≠ "tags") =
        e.extra.toList := List.filter_eq_self.2 fun pair mem => by simp [others pair mem]
    split <;> simpa using kept
  have object : (Value.object e.toObject).object? = some e.toObject := rfl
  simp only [decodeEntry, object, tags, decodeTags_array, payload, extra]
  rfl

/-! ### Sections -/

/-- The members of a section's object: the entry list and then the fields, in their order. -/
theorem Section.toList_toObject {s : Section} (no_payloads : s.fields.get? "payloads" = none) :
    s.toObject.toList =
      ("payloads", Value.array (s.entries.map fun e => Value.object e.toObject)) ::
        s.fields.toList := by
  rw [Object.get?_eq_none_iff] at no_payloads
  unfold Section.toObject
  have single : ∀ payloads : Value, (Object.ofList [("payloads", payloads)]).toList =
      [("payloads", payloads)] := fun _ => Object.toList_ofList (by simp)
  rw [Object.toList_insertAll, single, List.singleton_append]
  intro key carried
  rw [single]
  simpa using fun eq : key = "payloads" => no_payloads (eq ▸ carried)

/-- A section is decoded from its object if its entries are and its fields have not the key of the
entry list. -/
theorem decodeSection_object {s : Section} (entries : ∀ e ∈ s.entries, e.Storable)
    (no_payloads : s.fields.get? "payloads" = none) :
    decodeSection (Value.object s.toObject) = .ok s := by
  have members := Section.toList_toObject no_payloads
  have listed : s.toObject.get? "payloads" =
      some (Value.array (s.entries.map fun e => Value.object e.toObject)) :=
    Object.get?_eq_some_iff.2 (by simp [members])
  have fields : s.toObject.erase "payloads" = s.fields := by
    refine Object.ext_toList ?_
    rw [Object.toList_erase, members, List.filter_cons_of_neg (by simp), ← Object.toList_erase,
      Object.erase_of_get?_eq_none no_payloads]
  have decoded : (s.entries.map fun e => Value.object e.toObject).mapM decodeEntry =
      .ok s.entries :=
    mapM_map_eq_ok fun e mem => decodeEntry_object (entries e mem)
  have object : (Value.object s.toObject).object? = some s.toObject := rfl
  simp only [decodeSection, object, listed, Value.items?_array, decoded, fields]
  rfl

/-! ### Catalogs -/

/-- The sections of a storable catalog can be written without loss, each on its own. -/
theorem Storable.section {c : Catalog} (storable : c.Storable) {s : String × Section}
    (mem : s ∈ c.sections.toList) :
    (∀ e ∈ s.2.entries, e.Storable) ∧ s.2.fields.get? "payloads" = none := by
  have found := SortedMap.get?_eq_some_iff.2 mem
  rw [get?_sections, Option.map_eq_some_iff] at found
  obtain ⟨entries, listed, eq⟩ := found
  rw [← eq]
  refine ⟨storable.entries s.1 entries listed, ?_⟩
  cases fields : c.fields? s.1 with
  | none => rfl
  | some fs => exact storable.no_payloads s.1 fs fields

/-- The members of a catalog's object: the object of its section under each event, in the order of
the events. -/
theorem toList_toObject (c : Catalog) :
    c.toObject.toList = c.sections.toList.map fun s => (s.1, Value.object s.2.toObject) := by
  refine Object.toList_ofList ?_
  rw [List.map_map]
  exact c.sections.nodup_keys

/-- A storable catalog is decoded from its object. Payloads and fields come back as the values that
they are. -/
theorem decode_object {c : Catalog} (storable : c.Storable) :
    decode (Value.object c.toObject) = .ok c := by
  have decoded : c.toObject.toList.mapM decodeMember = .ok c.sections.toList := by
    rw [toList_toObject]
    refine mapM_map_eq_ok ?_
    intro s mem
    have fine := storable.section mem
    simp only [decodeMember, decodeSection_object fine.1 fine.2]
    rfl
  have filed : ∀ f ∈ c.fields.toList, c.contains f.1 := fun f mem =>
    storable.filed f.1 f.2 (SortedMap.get?_eq_some_iff.2 mem)
  have object : (Value.object c.toObject).object? = some c.toObject := rfl
  simp only [decode, object, decoded]
  show Except.ok (ofSections (SortedMap.ofList c.sections.toList)) = _
  rw [SortedMap.ofList_toList, ofSections_sections filed]

/-- A storable catalog has no offence, as none of its entries repeats a tag. -/
theorem Storable.offence?_eq_none {c : Catalog} (storable : c.Storable) : offence? c = none :=
  List.findSome?_eq_none_iff.2 fun ev mem => offenceIn?_eq_none_iff.2 fun e inEntries =>
    (storable.entries ev.1 ev.2 (SortedMap.get?_eq_some_iff.2 mem) e inEntries).nodup_tags

/-- Which values are documents: objects whose events are decoded and repeat no tag. It opens the
reader up for the proofs that follow. -/
theorem ofValue_eq_ok_iff {v : Value} {c : Catalog} :
    ofValue v = .ok c ↔
      ∃ top, v = Value.object top ∧ decode (eventsOf top) = .ok c ∧ offence? c = none := by
  constructor
  · intro h
    unfold ofValue at h
    split at h
    · cases h
    · rename_i top isObject
      obtain ⟨d, decoded, checked⟩ := bind_eq_ok_iff.1 h
      split at checked
      · cases checked
      · rename_i none
        cases checked
        exact ⟨top, Value.eq_object_of_object? isObject, decoded, none⟩
  · rintro ⟨top, rfl, decoded, none⟩
    have object : (Value.object top).object? = some top := rfl
    rw [ofValue, object]
    exact bind_eq_ok_iff.2 ⟨c, decoded, by rw [none]; rfl⟩

/-- The events of a document are what stands under its one key, as a written document has the
wrapping key only. -/
theorem eventsOf_templates (events : Value) :
    eventsOf (Object.ofList [(templatesKey, events)]) = events := by
  have members : (Object.ofList [(templatesKey, events)]).toList = [(templatesKey, events)] :=
    Object.toList_ofList (by simp)
  rw [eventsOf, Object.get?, members, List.lookup_cons_self, Option.getD_some]

/-- A storable catalog is the catalog of its document's value. This is the round trip without the
text. -/
theorem ofValue_value {c : Catalog} (storable : c.Storable) :
    ofValue (Document.value c) = .ok c :=
  ofValue_eq_ok_iff.2 ⟨_, rfl, by rw [eventsOf_templates, decode_object storable],
    storable.offence?_eq_none⟩

/-! ### What is decoded -/

/-- An entry is decoded from an object: its tags and its payload are those of the object, and it
carries the other members along. -/
theorem exists_of_decodeEntry {v : Value} {e : Entry} (h : decodeEntry v = .ok e) :
    ∃ o, v = Value.object o ∧ (∀ tags, o.get? "tags" = some tags → decodeTags tags = .ok e.tags) ∧
      e.payload = (o.get? "payload").getD Value.null ∧
        e.extra = (o.erase "tags").erase "payload" := by
  unfold decodeEntry at h
  split at h
  · cases h
  · rename_i o isObject
    refine ⟨o, Value.eq_object_of_object? isObject, ?_⟩
    dsimp only at h
    split at h
    · rename_i listed found
      obtain ⟨tags, decoded, eq⟩ := bind_eq_ok_iff.1 h
      cases eq
      refine ⟨fun held eq => ?_, rfl, rfl⟩
      rw [found] at eq
      cases eq
      exact decoded
    · rename_i absent
      cases h
      refine ⟨fun held eq => ?_, rfl, rfl⟩
      rw [absent] at eq
      contradiction

/-- A section is decoded from an object: its entries from the items of the list, and its fields are
the other members. -/
theorem exists_of_decodeSection {v : Value} {s : Section} (h : decodeSection v = .ok s) :
    ∃ o items, v = Value.object o ∧ o.get? "payloads" = some (Value.array items) ∧
      items.mapM decodeEntry = .ok s.entries ∧ s.fields = o.erase "payloads" := by
  unfold decodeSection at h
  split at h
  · cases h
  · rename_i o isObject
    split at h
    · cases h
    · rename_i payloads listed
      split at h
      · cases h
      · rename_i items isArray
        obtain ⟨entries, decoded, eq⟩ := bind_eq_ok_iff.1 h
        cases eq
        rw [Value.eq_array_of_items? isArray] at listed
        exact ⟨o, items, Value.eq_object_of_object? isObject, listed, decoded, rfl⟩

/-- A member is decoded to the section of its value, under the same event. -/
theorem decodeMember_eq_ok_iff {m : String × Value} {s : String × Section} :
    decodeMember m = .ok s ↔ m.1 = s.1 ∧ decodeSection m.2 = .ok s.2 := by
  obtain ⟨event, held⟩ := s
  simp only [decodeMember, bind_eq_ok_iff, pure, Except.pure, Except.ok.injEq, Prod.mk.injEq]
  constructor
  · rintro ⟨_, decoded, eq, rfl⟩
    exact ⟨eq, decoded⟩
  · rintro ⟨eq, decoded⟩
    exact ⟨held, decoded, eq, rfl⟩

/-- A catalog is decoded from an object: it is the catalog of the sections decoded from the members,
which are of different events. -/
theorem exists_of_decode {v : Value} {c : Catalog} (h : decode v = .ok c) :
    ∃ o sections, v = Value.object o ∧ o.toList.mapM decodeMember = .ok sections ∧
      (sections.map (·.1)).Nodup ∧ c = ofSections (SortedMap.ofList sections) := by
  unfold decode at h
  split at h
  · cases h
  · rename_i o isObject
    obtain ⟨sections, decoded, eq⟩ := bind_eq_ok_iff.1 h
    cases eq
    refine ⟨o, sections, Value.eq_object_of_object? isObject, decoded, ?_, rfl⟩
    have keys : o.toList.map (·.1) = sections.map (·.1) :=
      map_eq_map_of_mapM_eq_ok decoded fun m s member => (decodeMember_eq_ok_iff.1 member).1
    exact keys ▸ o.nodup_keys

/-- A decoded entry carries neither of the known keys along, as they are taken out of its object. -/
theorem free_of_decodeEntry {v : Value} {e : Entry} (h : decodeEntry v = .ok e) :
    e.extra.get? "tags" = none ∧ e.extra.get? "payload" = none := by
  obtain ⟨o, _, _, _, extra⟩ := exists_of_decodeEntry h
  rw [extra]
  exact ⟨(Object.get?_erase_of_ne (by decide)).trans Object.get?_erase_self, Object.get?_erase_self⟩

/-- A decoded section has only such entries, and carries the key of its entry list not along. -/
theorem free_of_decodeSection {v : Value} {s : Section} (h : decodeSection v = .ok s) :
    (∀ e ∈ s.entries, e.extra.get? "tags" = none ∧ e.extra.get? "payload" = none) ∧
      s.fields.get? "payloads" = none := by
  obtain ⟨o, items, _, _, decoded, fields⟩ := exists_of_decodeSection h
  refine ⟨fun e mem => ?_, fields ▸ Object.get?_erase_self⟩
  obtain ⟨item, _, read⟩ := exists_of_mapM_eq_ok decoded mem
  exact free_of_decodeEntry read

/-- A decoded catalog is storable. So what was read can be written and read again, as far as its
doubles and its depth allow. -/
theorem storable_of_ofValue {v : Value} {c : Catalog} (h : ofValue v = .ok c) : c.Storable := by
  -- That no tag is repeated is what the reader has checked; the rest is the form of the decoded
  -- parts.
  have nodup := nodup_of_ofValue h
  obtain ⟨top, _, decoded, _⟩ := ofValue_eq_ok_iff.1 h
  obtain ⟨o, members, _, read, distinct, rfl⟩ := exists_of_decode decoded
  -- The sections are a map from here on; what is known of single ones is found under their events.
  generalize same : SortedMap.ofList members = sections at nodup
  have free : ∀ event s, sections.get? event = some s →
      (∀ e ∈ s.entries, e.extra.get? "tags" = none ∧ e.extra.get? "payload" = none) ∧
        s.fields.get? "payloads" = none := by
    intro event s found
    have held := (SortedMap.mem_ofList distinct).1 (same ▸ SortedMap.get?_eq_some_iff.1 found)
    obtain ⟨m, _, member⟩ := exists_of_mapM_eq_ok read held
    exact free_of_decodeSection (decodeMember_eq_ok_iff.1 member).2
  -- The fields of an event are those of its section, so the event has an entry list as well.
  have held : ∀ event fields, (ofSections sections).fields? event = some fields →
      ∃ s, sections.get? event = some s ∧ s.fields = fields := by
    intro event fields found
    rw [fields?_ofSections, Option.bind_eq_some_iff] at found
    obtain ⟨s, held, eq⟩ := found
    split at eq
    · cases eq
    · exact ⟨s, held, Option.some.inj eq⟩
  constructor
  · intro event entries listed e mem
    have distinct := nodup (event, entries) (SortedMap.get?_eq_some_iff.1 listed) e mem
    rw [entries?_ofSections, Option.map_eq_some_iff] at listed
    obtain ⟨s, held, rfl⟩ := listed
    exact ⟨distinct, ((free event s held).1 e mem).1, ((free event s held).1 e mem).2⟩
  · intro event fields found
    obtain ⟨s, held, rfl⟩ := held event fields found
    exact (free event s held).2
  · intro event fields found
    obtain ⟨s, held, _⟩ := held event fields found
    rw [contains_iff, entries?_ofSections, held]
    exact ⟨s.entries, rfl⟩

end Catalog

end TemplateCoverage
