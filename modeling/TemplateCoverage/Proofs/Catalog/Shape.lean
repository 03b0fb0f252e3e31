import Mathlib.Data.List.Forall2
import TemplateCoverage.Document
import TemplateCoverage.Proofs.Catalog.Written

/-!
# `TemplateCoverage.Proofs.Catalog.Shape`: which texts are catalogs

The shape of a catalog document is said of its value alone, and so is what a catalog of the shape
holds; the decoder accepts just the values of that shape and returns what they hold. The theorems:

* `decodeEntry_eq_ok_iff`, `decodeSection_eq_ok_iff`: what entries and sections are decoded from;
* `exists_ofValue_iff`: a value is a catalog if and only if it is a document;
* `ofValue_eq_ok_iff_holds`, `Holds.unique`: its catalog holds its events, and no other one does;
* `readCatalog_outcome_iff`: which texts are no JSON, which have another shape, and which catalog
  every other text is.
-/

set_option autoImplicit false

namespace TemplateCoverage

open Json (Object Value)

variable {v : Value} {o events : Object} {c d : Catalog} {event : String}

/-! ### The shape of a document -/

namespace Catalog

/-- An entry is an object whose tags, if it has the key, are texts of which none repeats another.
Any payload and any other members will do. -/
def IsEntry (v : Value) : Prop :=
  ∃ o, v = Value.object o ∧ ∀ listed, o.get? "tags" = some listed →
    ∃ tags : List String, listed = Value.array (tags.map Value.string) ∧
      (tags.map Tag.normalize).Nodup

/-- An event is an object with an array of entries under its one known key. Any other members will
do. -/
def IsEvent (v : Value) : Prop :=
  ∃ o items, v = Value.object o ∧ o.get? "payloads" = some (Value.array items) ∧
    ∀ item ∈ items, IsEntry item

/-- The events of an object are its member `templates` if it has one, or else itself. So a document
whose events are its top-level members is one too, unless one of them has that name. -/
def HasEvents (v : Value) (events : Object) : Prop :=
  ∃ top, v = Value.object top ∧ (top.get? "templates").getD v = Value.object events

/-- A document is an object with events, each of which has the shape of one. -/
def IsDocument (v : Value) : Prop :=
  ∃ events, HasEvents v events ∧ ∀ m ∈ events.toList, IsEvent m.2

end Catalog

/-! ### What a document holds -/

/-- The entry of an object: its tags in order, which are none without the key, its payload, which is
null without the key, and the other members in their order. -/
structure Entry.IsOf (e : Entry) (o : Object) : Prop where
  tags : (o.get? "tags").getD (Value.array []) = Value.array (e.tags.map Value.string)
  payload : e.payload = (o.get? "payload").getD Value.null
  extra : e.extra.toList = o.toList.filter fun m => m.1 ≠ "tags" ∧ m.1 ≠ "payload"

/-- The entries of an object: those of its items in their order. There is nothing here about
repeated tags, which are refused separately. -/
def Entry.AreOf (entries : List Entry) (o : Object) : Prop :=
  ∃ objects : List Object, o.get? "payloads" = some (Value.array (objects.map Value.object)) ∧
    List.Forall₂ Entry.IsOf entries objects

namespace Catalog

/-- The catalog of events: it has just these events, their entries are those of their objects, their
fields are the other members of these in their order, and nothing else has fields. -/
structure Holds (c : Catalog) (events : Object) : Prop where
  contains : ∀ event, c.contains event ↔ event ∈ events.toList.map (·.1)
  entries : ∀ event o, (event, Value.object o) ∈ events.toList →
    ∃ entries, c.entries? event = some entries ∧ Entry.AreOf entries o
  fields : ∀ event o, (event, Value.object o) ∈ events.toList →
    ((c.fields? event).getD Object.empty).toList = o.toList.filter fun m => m.1 ≠ "payloads"
  others : ∀ event, event ∉ events.toList.map (·.1) → c.fields? event = none

/-! ### Entries -/

/-- A tag is decoded from its text only, so that a tag that is read is written as it was. -/
theorem eq_string_of_decodeTag {tag : String} (h : decodeTag v = .ok tag) :
    v = Value.string tag := by
  obtain ⟨tree, distinct⟩ := v
  cases tree with
  | string s =>
    cases h
    rfl
  | _ => contradiction

/-- Tags are decoded from the array of their texts only, so that the array can be told from them. -/
theorem decodeTags_eq_ok_iff {tags : List String} :
    decodeTags v = .ok tags ↔ v = Value.array (tags.map Value.string) := by
  refine ⟨?_, ?_⟩
  · intro h
    unfold decodeTags at h
    split at h
    · rename_i items isArray
      have same : items.map id = tags.map Value.string :=
        map_eq_map_of_mapM_eq_ok h fun _ _ => eq_string_of_decodeTag
      rw [Value.eq_array_of_items? isArray, ← same, List.map_id]
    · contradiction
  · rintro rfl
    exact decodeTags_array

/-- Decoding an entry is decoding its tags, which are none without the key. -/
theorem decodeEntry_object_eq :
    decodeEntry (Value.object o) =
      decodeTags ((o.get? "tags").getD (Value.array [])) >>= fun tags =>
        .ok ⟨tags, (o.get? "payload").getD Value.null, (o.erase "tags").erase "payload"⟩ := by
  have isObject : (Value.object o).object? = some o := rfl
  have none : decodeTags (Value.array ([].map Value.string)) = .ok [] := decodeTags_array
  simp only [decodeEntry, isObject]
  cases o.get? "tags" with
  | none =>
    rw [Option.getD_none]
    exact (congrArg (· >>= _) none).symm
  | some listed =>
    rw [Option.getD_some]
    rfl

/-- Without the known keys an object has its other members, in their order. -/
theorem toList_erase_erase :
    ((o.erase "tags").erase "payload").toList =
      o.toList.filter fun m => m.1 ≠ "tags" ∧ m.1 ≠ "payload" := by
  rw [Object.toList_erase, Object.toList_erase, List.filter_filter]
  exact List.filter_congr fun m _ => by simp [and_comm]

/-- Whatever the tags are decoded to, the entry that is made of them is that of the object. -/
theorem isOf_of_tags {tags : List String}
    (listed : (o.get? "tags").getD (Value.array []) = Value.array (tags.map Value.string)) :
    Entry.IsOf ⟨tags, (o.get? "payload").getD Value.null, (o.erase "tags").erase "payload"⟩ o :=
  ⟨listed, rfl, toList_erase_erase⟩

/-- An entry is decoded from an object that holds it, and from nothing else. This says what the
decoder does without its steps. -/
theorem decodeEntry_eq_ok_iff {e : Entry} :
    decodeEntry v = .ok e ↔ ∃ o, v = Value.object o ∧ e.IsOf o := by
  refine ⟨?_, ?_⟩
  · -- The steps of the decoder give the tags; payload and other members are read off the object.
    intro h
    obtain ⟨o, rfl, -, payload, extra⟩ := exists_of_decodeEntry h
    rw [decodeEntry_object_eq] at h
    obtain ⟨tags, decoded, eq⟩ := bind_eq_ok_iff.1 h
    cases eq
    exact ⟨o, rfl, decodeTags_eq_ok_iff.1 decoded, payload, extra ▸ toList_erase_erase⟩
  · rintro ⟨o, rfl, tags, payload, extra⟩
    have carried : (o.erase "tags").erase "payload" = e.extra :=
      Object.ext_toList (toList_erase_erase.trans extra.symm)
    rw [decodeEntry_object_eq, decodeTags_eq_ok_iff.2 tags, ← payload, carried]
    rfl

/-- A value has the shape of an entry if and only if one is decoded from it that repeats no tag. -/
theorem isEntry_iff :
    IsEntry v ↔ ∃ e, decodeEntry v = .ok e ∧ e.normalizedTags.Nodup := by
  refine ⟨?_, ?_⟩
  · rintro ⟨o, rfl, listed⟩
    cases found : o.get? "tags" with
    | none =>
      have none : (o.get? "tags").getD (Value.array []) = Value.array ([].map Value.string) := by
        rw [found]
        rfl
      exact ⟨_, decodeEntry_eq_ok_iff.2 ⟨o, rfl, isOf_of_tags none⟩, List.nodup_nil⟩
    | some value =>
      obtain ⟨tags, rfl, distinct⟩ := listed value found
      have some : (o.get? "tags").getD (Value.array []) = Value.array (tags.map Value.string) := by
        rw [found]
        rfl
      exact ⟨_, decodeEntry_eq_ok_iff.2 ⟨o, rfl, isOf_of_tags some⟩, distinct⟩
  · intro ⟨e, decoded, distinct⟩
    obtain ⟨o, rfl, tags, -, -⟩ := decodeEntry_eq_ok_iff.1 decoded
    refine ⟨o, rfl, fun listed found => ⟨e.tags, ?_, distinct⟩⟩
    rwa [found] at tags

/-! ### Sections -/

/-- Entries are decoded from values that are objects holding them, in the same order. -/
theorem mapM_decodeEntry_eq_ok_iff {items : List Value} {entries : List Entry} :
    items.mapM decodeEntry = .ok entries ↔
      ∃ objects : List Object, items = objects.map Value.object ∧
        List.Forall₂ Entry.IsOf entries objects := by
  rw [mapM_eq_ok_iff]
  -- The induction is on the entries, since the items are told by them.
  induction entries generalizing items with
  | nil =>
    rw [List.map_nil, List.map_eq_nil_iff]
    refine ⟨fun none => ⟨[], none, .nil⟩, ?_⟩
    rintro ⟨_, rfl, none⟩
    cases none
    rfl
  | cons e entries ih =>
    refine ⟨?_, ?_⟩
    · intro decoded
      obtain ⟨item, rest, rfl, first, others⟩ := List.map_eq_cons_iff.1 decoded
      obtain ⟨o, rfl, holds⟩ := decodeEntry_eq_ok_iff.1 first
      obtain ⟨objects, rfl, all⟩ := ih.1 others
      exact ⟨o :: objects, rfl, .cons holds all⟩
    · rintro ⟨_, rfl, all⟩
      cases all with
      | cons holds rest =>
        rw [List.map_cons, List.map_cons, List.map_cons, decodeEntry_eq_ok_iff.2 ⟨_, rfl, holds⟩,
          ih.2 ⟨_, rfl, rest⟩]

/-- A section is decoded from an object with an array of entries, and from nothing else. Its fields
are the other members. -/
theorem decodeSection_eq_ok_iff {s : Section} :
    decodeSection v = .ok s ↔
      ∃ o, v = Value.object o ∧ Entry.AreOf s.entries o ∧ s.fields = o.erase "payloads" := by
  refine ⟨?_, ?_⟩
  · intro h
    obtain ⟨o, items, rfl, listed, decoded, fields⟩ := exists_of_decodeSection h
    obtain ⟨objects, rfl, all⟩ := mapM_decodeEntry_eq_ok_iff.1 decoded
    exact ⟨o, rfl, ⟨objects, listed, all⟩, fields⟩
  · rintro ⟨o, rfl, ⟨objects, listed, all⟩, fields⟩
    have isObject : (Value.object o).object? = some o := rfl
    have decoded := mapM_decodeEntry_eq_ok_iff.2 ⟨objects, rfl, all⟩
    simp only [decodeSection, isObject, listed, Value.items?_array, decoded]
    rw [← fields]
    rfl

/-- A value has the shape of an event if and only if a section is decoded from it whose entries
repeat no tag. -/
theorem isEvent_iff :
    IsEvent v ↔ ∃ s, decodeSection v = .ok s ∧ ∀ e ∈ s.entries, e.normalizedTags.Nodup := by
  refine ⟨?_, ?_⟩
  · rintro ⟨o, items, rfl, listed, all⟩
    obtain ⟨entries, decoded, distinct⟩ :=
      exists_mapM_eq_ok_iff.2 fun item mem => isEntry_iff.1 (all item mem)
    obtain ⟨objects, rfl, holds⟩ := mapM_decodeEntry_eq_ok_iff.1 decoded
    exact ⟨⟨entries, o.erase "payloads"⟩,
      decodeSection_eq_ok_iff.2 ⟨o, rfl, ⟨objects, listed, holds⟩, rfl⟩, distinct⟩
  · intro ⟨s, decoded, distinct⟩
    obtain ⟨o, items, rfl, listed, entries, -⟩ := exists_of_decodeSection decoded
    have all := exists_mapM_eq_ok_iff.1 ⟨s.entries, entries, distinct⟩
    exact ⟨o, items, rfl, listed, fun item mem => isEntry_iff.2 (all item mem)⟩

/-! ### Documents -/

/-- A catalog is decoded from the sections of the members, one by one. -/
theorem decode_object_eq_ok_iff :
    decode (Value.object events) = .ok c ↔
      ∃ sections, events.toList.mapM decodeMember = .ok sections ∧
        ofSections (SortedMap.ofList sections) = c := by
  have isObject : (Value.object events).object? = some events := rfl
  simp only [decode, isObject, bind_eq_ok_iff, pure, Except.pure, Except.ok.injEq]

variable {sections : List (String × Section)}

/-- Sections have the events of the members that they are decoded from, in their order. -/
theorem keys_of_mapM_decodeMember (decoded : events.toList.mapM decodeMember = .ok sections) :
    events.toList.map (·.1) = sections.map (·.1) :=
  map_eq_map_of_mapM_eq_ok decoded fun _ _ member => (decodeMember_eq_ok_iff.1 member).1

/-- No entry of the sections repeats a tag if and only if nothing is refused for its tags. The
catalog has the entries in another order of events, which makes no difference here. -/
theorem offence?_ofSections_eq_none_iff (distinct : (sections.map (·.1)).Nodup) :
    offence? (ofSections (SortedMap.ofList sections)) = none ↔
      ∀ s ∈ sections, ∀ e ∈ s.2.entries, e.normalizedTags.Nodup := by
  -- Entry lists of the catalog are those of the sections, found by their events.
  have listed : ∀ ev : String × List Entry,
      ev ∈ (ofSections (SortedMap.ofList sections)).events.toList ↔
        ∃ s ∈ sections, (s.1, s.2.entries) = ev := by
    intro ev
    rw [← SortedMap.get?_eq_some_iff (k := ev.1)]
    show (ofSections _).entries? ev.1 = some ev.2 ↔ _
    rw [entries?_ofSections, SortedMap.get?_ofList distinct, Option.map_eq_some_iff]
    simp only [SortedMap.lookup_eq_some_iff_mem distinct]
    refine ⟨?_, ?_⟩
    · rintro ⟨s, mem, eq⟩
      exact ⟨(ev.1, s), mem, Prod.ext rfl eq⟩
    · rintro ⟨s, mem, rfl⟩
      exact ⟨s.2, mem, rfl⟩
  rw [offence?_eq_none_iff]
  simp only [listed]
  refine ⟨fun all s mem => all _ ⟨s, mem, rfl⟩, ?_⟩
  rintro all _ ⟨s, mem, rfl⟩
  exact all s mem

/-- Events are decoded without offence if and only if each has the shape of one. -/
theorem exists_decode_iff :
    (∃ c, decode (Value.object events) = .ok c ∧ offence? c = none) ↔
      ∀ m ∈ events.toList, IsEvent m.2 := by
  -- The shape of a member is what its decoding asks for, so that the list can be treated at once.
  have member : ∀ m : String × Value, IsEvent m.2 ↔
      ∃ s, decodeMember m = .ok s ∧ ∀ e ∈ s.2.entries, e.normalizedTags.Nodup := by
    intro m
    rw [isEvent_iff]
    refine ⟨?_, ?_⟩
    · intro ⟨s, decoded, distinct⟩
      exact ⟨(m.1, s), decodeMember_eq_ok_iff.2 ⟨rfl, decoded⟩, distinct⟩
    · intro ⟨s, decoded, distinct⟩
      exact ⟨s.2, (decodeMember_eq_ok_iff.1 decoded).2, distinct⟩
  simp only [member]
  rw [← exists_mapM_eq_ok_iff]
  refine ⟨?_, ?_⟩
  · intro ⟨c, decoded, clean⟩
    obtain ⟨sections, read, rfl⟩ := decode_object_eq_ok_iff.1 decoded
    have distinct := keys_of_mapM_decodeMember read ▸ events.nodup_keys
    exact ⟨sections, read, (offence?_ofSections_eq_none_iff distinct).1 clean⟩
  · intro ⟨sections, read, clean⟩
    have distinct := keys_of_mapM_decodeMember read ▸ events.nodup_keys
    exact ⟨_, decode_object_eq_ok_iff.2 ⟨sections, read, rfl⟩,
      (offence?_ofSections_eq_none_iff distinct).2 clean⟩

/-- A catalog is that of a value if and only if it is decoded without offence from its events. Which
events these are does not depend on the catalog. -/
theorem ofValue_eq_ok_iff_hasEvents {c : Catalog} (has : HasEvents v events) :
    ofValue v = .ok c ↔ decode (Value.object events) = .ok c ∧ offence? c = none := by
  obtain ⟨top, rfl, listed⟩ := has
  have same : eventsOf top = Value.object events := listed
  rw [ofValue_eq_ok_iff]
  refine ⟨?_, ?_⟩
  · intro ⟨top', eq, decoded, clean⟩
    cases Value.object_inj eq
    exact ⟨same ▸ decoded, clean⟩
  · intro ⟨decoded, clean⟩
    exact ⟨top, rfl, same ▸ decoded, clean⟩

/-- A value has the events that its catalog is decoded from, so that a value without events is no
catalog. -/
theorem exists_hasEvents_of_ofValue (h : ofValue v = .ok c) : ∃ events, HasEvents v events := by
  obtain ⟨top, rfl, decoded, -⟩ := ofValue_eq_ok_iff.1 h
  obtain ⟨events, _, eq, -⟩ := exists_of_decode decoded
  exact ⟨events, top, rfl, eq⟩

/-- A value is a catalog if and only if it is a document. The shape is told of the value alone and
the catalog by the decoder. -/
theorem exists_ofValue_iff : (∃ c, ofValue v = .ok c) ↔ IsDocument v := by
  refine ⟨?_, ?_⟩
  · intro ⟨c, h⟩
    obtain ⟨events, has⟩ := exists_hasEvents_of_ofValue h
    exact ⟨events, has, exists_decode_iff.1 ⟨c, (ofValue_eq_ok_iff_hasEvents has).1 h⟩⟩
  · intro ⟨events, has, all⟩
    obtain ⟨c, decoded⟩ := exists_decode_iff.2 all
    exact ⟨c, (ofValue_eq_ok_iff_hasEvents has).2 decoded⟩

/-! ### The catalog of a document -/

/-- What a decoded catalog holds under an event is the section of its object. Fields without members
are none, hence the form of the last part. -/
theorem exists_section_of_decode (h : decode (Value.object events) = .ok c)
    (mem : (event, v) ∈ events.toList) :
    ∃ s, decodeSection v = .ok s ∧ c.entries? event = some s.entries ∧
      (c.fields? event).getD Object.empty = s.fields := by
  obtain ⟨sections, read, rfl⟩ := decode_object_eq_ok_iff.1 h
  have distinct := keys_of_mapM_decodeMember read ▸ events.nodup_keys
  obtain ⟨⟨event', s⟩, inSections, member⟩ := exists_result_of_mapM_eq_ok read mem
  obtain ⟨rfl, decoded⟩ := decodeMember_eq_ok_iff.1 member
  have found : (SortedMap.ofList sections).get? event = some s :=
    SortedMap.get?_eq_some_iff.2 ((SortedMap.mem_ofList distinct).2 inSections)
  refine ⟨s, decoded, ?_, ?_⟩
  · rw [entries?_ofSections, found]
    rfl
  · rw [fields?_ofSections, found, Option.bind_some]
    split
    · rename_i none
      exact (Object.ext none).symm
    · rfl

/-- A decoded catalog has neither entries nor fields under what is no event of it. -/
theorem none_of_decode (h : decode (Value.object events) = .ok c)
    (absent : event ∉ events.toList.map (·.1)) :
    c.entries? event = none ∧ c.fields? event = none := by
  obtain ⟨sections, read, rfl⟩ := decode_object_eq_ok_iff.1 h
  have keys := keys_of_mapM_decodeMember read
  have none : (SortedMap.ofList sections).get? event = none := by
    rw [SortedMap.get?_ofList (keys ▸ events.nodup_keys), SortedMap.lookup_eq_none_iff]
    intro s mem eq
    exact absent (keys ▸ eq ▸ List.mem_map_of_mem mem)
  rw [entries?_ofSections, fields?_ofSections, none]
  exact ⟨rfl, rfl⟩

/-- A decoded catalog holds the events that it is decoded from, with all of their entries and other
members. -/
theorem holds_of_decode (h : decode (Value.object events) = .ok c) : c.Holds events := by
  refine ⟨fun event => ?_, fun event o mem => ?_, fun event o mem => ?_,
    fun event absent => (none_of_decode h absent).2⟩
  · rw [contains_iff]
    refine ⟨?_, ?_⟩
    · -- What is no event of the document has no entries in the catalog.
      intro ⟨entries, listed⟩
      by_contra absent
      rw [(none_of_decode h absent).1] at listed
      contradiction
    · intro mem
      obtain ⟨⟨_, v⟩, inEvents, rfl⟩ := List.mem_map.1 mem
      obtain ⟨s, -, listed, -⟩ := exists_section_of_decode h inEvents
      exact ⟨s.entries, listed⟩
  · obtain ⟨s, decoded, listed, -⟩ := exists_section_of_decode h mem
    obtain ⟨o', eq, entries, -⟩ := decodeSection_eq_ok_iff.1 decoded
    cases Value.object_inj eq
    exact ⟨s.entries, listed, entries⟩
  · obtain ⟨s, decoded, -, fields⟩ := exists_section_of_decode h mem
    obtain ⟨o', eq, -, others⟩ := decodeSection_eq_ok_iff.1 decoded
    cases Value.object_inj eq
    rw [fields, others, Object.toList_erase]

/-! ### One catalog -/

end Catalog

/-- An object has one list of entries at most, because the decoder finds just one. -/
theorem Entry.AreOf.unique {entries entries' : List Entry}
    (h : Entry.AreOf entries o) (h' : Entry.AreOf entries' o) : entries = entries' := by
  have decodes : ∀ {entries : List Entry}, Entry.AreOf entries o →
      Catalog.decodeSection (Value.object o) = .ok ⟨entries, o.erase "payloads"⟩ :=
    fun h => Catalog.decodeSection_eq_ok_iff.2 ⟨o, rfl, h, rfl⟩
  have decoded := decodes h
  rw [decodes h'] at decoded
  exact (congrArg Catalog.Section.entries (Except.ok.inj decoded)).symm

namespace Catalog

/-- Fields are what they are as an object, none being the empty one. No fields and fields without
members cannot both be meant, as the latter are never kept. -/
theorem fields?_eq_of_getD_eq
    (same : (c.fields? event).getD Object.empty = (d.fields? event).getD Object.empty) :
    c.fields? event = d.fields? event := by
  have some : ∀ {c : Catalog} {fields : Object}, c.fields? event = some fields →
      fields ≠ Object.empty := fun found eq => members_ne_nil_of_fields? found (eq ▸ rfl)
  cases hc : c.fields? event with
  | none =>
    cases hd : d.fields? event with
    | none => rfl
    | some fields =>
      rw [hc, hd] at same
      exact absurd same.symm (some hd)
  | some fields =>
    cases hd : d.fields? event with
    | none =>
      rw [hc, hd] at same
      exact absurd same (some hc)
    | some fields' =>
      rw [hc, hd] at same
      exact congrArg Option.some same

/-- Only one catalog holds the events that are objects. Events that are no objects are not looked at
by `Holds`, which is why they are ruled out. -/
theorem Holds.unique (objects : ∀ m ∈ events.toList, ∃ o, m.2 = Value.object o)
    (hc : c.Holds events) (hd : d.Holds events) : c = d := by
  refine ext (fun event => ?_) fun event => ?_
  · -- Entries are told by the event's object, or by there being none.
    by_cases mem : event ∈ events.toList.map (·.1)
    · obtain ⟨⟨_, v⟩, inEvents, rfl⟩ := List.mem_map.1 mem
      obtain ⟨o, rfl⟩ := objects _ inEvents
      obtain ⟨entries, listed, held⟩ := hc.entries _ o inEvents
      obtain ⟨entries', listed', held'⟩ := hd.entries _ o inEvents
      rw [listed, listed', held.unique held']
    · have absent : ∀ c : Catalog, c.Holds events → c.entries? event = none := by
        intro c holds
        rw [← contains_eq_false_iff, ← Bool.not_eq_true, holds.contains]
        exact mem
      rw [absent c hc, absent d hd]
  · by_cases mem : event ∈ events.toList.map (·.1)
    · obtain ⟨⟨_, v⟩, inEvents, rfl⟩ := List.mem_map.1 mem
      obtain ⟨o, rfl⟩ := objects _ inEvents
      exact fields?_eq_of_getD_eq
        (Object.ext_toList ((hc.fields _ o inEvents).trans (hd.fields _ o inEvents).symm))
    · rw [hc.others event mem, hd.others event mem]

/-- The catalog of a value holds the events of the value, and is the only one that does. It is the
specification of the decoder: no step of it is named. -/
theorem ofValue_eq_ok_iff_holds :
    ofValue v = .ok c ↔
      ∃ events, HasEvents v events ∧ (∀ m ∈ events.toList, IsEvent m.2) ∧ c.Holds events := by
  refine ⟨?_, ?_⟩
  · intro h
    obtain ⟨events, has⟩ := exists_hasEvents_of_ofValue h
    have decoded := (ofValue_eq_ok_iff_hasEvents has).1 h
    exact ⟨events, has, exists_decode_iff.1 ⟨c, decoded⟩, holds_of_decode decoded.1⟩
  · intro ⟨events, has, all, holds⟩
    obtain ⟨d, decoded⟩ := exists_decode_iff.2 all
    have objects : ∀ m ∈ events.toList, ∃ o, m.2 = Value.object o := by
      intro m mem
      obtain ⟨o, _, isObject, -⟩ := all m mem
      exact ⟨o, isObject⟩
    -- A document is decoded to some catalog, which holds the events too.
    rw [holds.unique objects (holds_of_decode decoded.1)]
    exact (ofValue_eq_ok_iff_hasEvents has).2 decoded

end Catalog

/-! ### Texts -/

namespace Document

open Catalog

/-- What becomes of a text: it is no JSON if nothing is read from it without its comments; it has
another shape if what is read is no document; and else it is the one catalog that holds the events
of what is read. -/
theorem readCatalog_outcome_iff (text : String) :
    (∀ line, readCatalog text = .error (.notJson line) ↔
      Json.read (Comment.strip text.toList) = .error line) ∧
    ((∃ err, readCatalog text = .error (.misshaped err)) ↔
      ∃ v, Json.read (Comment.strip text.toList) = .ok v ∧ ¬IsDocument v) ∧
    ((∃ c, readCatalog text = .ok c) ↔
      ∃ v, Json.read (Comment.strip text.toList) = .ok v ∧ IsDocument v) ∧
    ∀ c, readCatalog text = .ok c ↔
      ∃ v events, Json.read (Comment.strip text.toList) = .ok v ∧ HasEvents v events ∧
        (∀ m ∈ events.toList, IsEvent m.2) ∧ c.Holds events := by
  simp only [← exists_ofValue_iff, readCatalog_eq_ok_iff]
  refine ⟨fun line => ?_, ?_, ?_, fun c => ?_⟩
  · -- A text that is no JSON is refused with the line, and every other one for its shape or not at
    -- all.
    unfold readCatalog
    split
    · rename_i stopped
      simp [stopped]
    · rename_i v read
      split <;> simp [read]
  · unfold readCatalog
    split
    · rename_i stopped
      simp [stopped]
    · rename_i v read
      split <;> simp [*]
  · exact exists_comm.trans (exists_congr fun v => exists_and_left)
  · simp only [ofValue_eq_ok_iff_holds, exists_and_left]

end Document

end TemplateCoverage
