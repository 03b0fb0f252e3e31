import TemplateCoverage.Proofs.Catalog.Written
import TemplateCoverage.Proofs.Json.Nesting

/-!
# `TemplateCoverage.Proofs.Catalog.Nesting`: how deep catalogs nest

A catalog is decoded from an object with a member for each event and written as such an object. The
tags that an entry leaves out are written as an empty array, so a written catalog may nest five deep
where what it was decoded from does not. Apart from that, the two nest equally deep. The theorems:

* `depth_le_iff_of_decodeEntry`, `depth_le_iff_of_decodeSection`: the object of an entry or of an
  event has room where that has room which it was decoded from, if there is room for tags;
* `depth_le_iff_of_decode`: the same for the object of a catalog.
-/

set_option autoImplicit false

namespace TemplateCoverage.Catalog

open Json (Object Value)

variable {v : Value} {n : Nat}

/-- The tags of an entry are texts, which nest nothing, so that they need room for one array only.
-/
theorem depth_le_of_decodeTags {tags : List String} (h : decodeTags v = .ok tags) :
    v.1.depth ≤ n + 1 := by
  unfold decodeTags at h
  split at h
  · rename_i items isArray
    have texts : (∀ item ∈ items, item.1.depth ≤ n) ↔ ∀ tag ∈ tags, True := by
      refine forall_mem_iff_of_mapM_eq_ok h fun item tag read => ?_
      obtain ⟨tree, distinct⟩ := item
      cases tree <;> first | contradiction | simp [Json.depth]
    rw [Value.eq_array_of_items? isArray]
    exact Json.depth_array_le_iff.2 (texts.2 fun _ _ => trivial)
  · contradiction

/-- An object of which an entry is decoded nests as deep as the payload and what is carried along,
if there is room for tags. -/
theorem within_decoded_entry_iff {o : Object} {e : Entry}
    (tags : ∀ tags, o.get? "tags" = some tags → decodeTags tags = .ok e.tags)
    (payload : e.payload = (o.get? "payload").getD Value.null)
    (extra : e.extra = (o.erase "tags").erase "payload") :
    o.Within (n + 1) ↔ e.payload.1.depth ≤ n + 1 ∧ e.extra.Within (n + 1) := by
  rw [Object.within_iff_erase "tags", Object.within_iff_erase "payload", ← extra,
    Object.get?_erase_of_ne (by decide)]
  have listed : ∀ value, o.get? "tags" = some value → value.1.depth ≤ n + 1 :=
    fun value found => depth_le_of_decodeTags (tags value found)
  have held : (∀ value, o.get? "payload" = some value → value.1.depth ≤ n + 1) ↔
      e.payload.1.depth ≤ n + 1 := by
    rw [payload]
    cases o.get? "payload" with
    | none => exact iff_of_true nofun (Nat.zero_le _)
    | some value => simp
  rw [held]
  exact and_iff_right listed

/-- So does the object of an entry that carries no known key along. It may have tags where the
object that was decoded has none, hence the same room for them. -/
theorem within_toObject_entry_iff {e : Entry} (no_tags : e.extra.get? "tags" = none)
    (no_payload : e.extra.get? "payload" = none) :
    e.toObject.Within (n + 1) ↔ e.payload.1.depth ≤ n + 1 ∧ e.extra.Within (n + 1) := by
  unfold Object.Within
  rw [Entry.toList_toObject no_tags no_payload, List.forall_mem_cons, List.forall_mem_append]
  have tags : (Value.array (e.tags.map Value.string)).1.depth ≤ n + 1 :=
    depth_le_of_decodeTags decodeTags_array
  have held : (∀ pair ∈ (if e.payload.isNull then [] else [("payload", e.payload)]),
      pair.2.1.depth ≤ n + 1) ↔ e.payload.1.depth ≤ n + 1 := by
    split
    · rename_i null
      rw [Value.isNull_iff.1 null]
      exact iff_of_true nofun (Nat.zero_le _)
    · exact List.forall_mem_singleton
  -- The tags always fit, so that only payload and carried members are left to compare.
  rw [held]
  exact and_iff_right tags

/-- The object of an entry has room where that has room which the entry was decoded from. The number
of levels is at least two, for the object and its tags. -/
theorem depth_le_iff_of_decodeEntry {e : Entry} (h : decodeEntry v = .ok e) :
    v.1.depth ≤ n + 2 ↔ (Value.object e.toObject).1.depth ≤ n + 2 := by
  obtain ⟨no_tags, no_payload⟩ := free_of_decodeEntry h
  obtain ⟨o, rfl, tags, payload, extra⟩ := exists_of_decodeEntry h
  rw [Json.depth_object_le_iff_within, Json.depth_object_le_iff_within,
    within_decoded_entry_iff tags payload extra, within_toObject_entry_iff no_tags no_payload]

/-- The object of an event has room where that has room which its section was decoded from. Two more
levels are those of the event and of its entry list. -/
theorem depth_le_iff_of_decodeSection {s : Section} (h : decodeSection v = .ok s) :
    v.1.depth ≤ n + 4 ↔ (Value.object s.toObject).1.depth ≤ n + 4 := by
  have no_payloads := (free_of_decodeSection h).2
  obtain ⟨o, items, rfl, listed, decoded, fields⟩ := exists_of_decodeSection h
  have entries : (∀ item ∈ items, item.1.depth ≤ n + 2) ↔
      ∀ e ∈ s.entries, (Value.object e.toObject).1.depth ≤ n + 2 :=
    forall_mem_iff_of_mapM_eq_ok decoded fun item e read => depth_le_iff_of_decodeEntry read
  have read : o.Within (n + 3) ↔
      (∀ item ∈ items, item.1.depth ≤ n + 2) ∧ s.fields.Within (n + 3) := by
    rw [Object.within_iff_erase "payloads", ← fields, listed, ← Json.depth_array_le_iff]
    simp
  have written : s.toObject.Within (n + 3) ↔
      (∀ e ∈ s.entries, (Value.object e.toObject).1.depth ≤ n + 2) ∧ s.fields.Within (n + 3) := by
    unfold Object.Within
    rw [Section.toList_toObject no_payloads, List.forall_mem_cons, Json.depth_array_le_iff,
      List.forall_mem_map]
  -- Both objects have the entries and the fields, so that they are compared part by part.
  rw [Json.depth_object_le_iff_within, Json.depth_object_le_iff_within, read, written, entries]

/-- The object of a catalog has room where that has room which the catalog was decoded from, with
one level more for the object of events. -/
theorem depth_le_iff_of_decode {c : Catalog} (h : decode v = .ok c) :
    v.1.depth ≤ n + 5 ↔ (Value.object c.toObject).1.depth ≤ n + 5 := by
  obtain ⟨o, sections, rfl, decoded, distinct, rfl⟩ := exists_of_decode h
  have members : (∀ m ∈ o.toList, m.2.1.depth ≤ n + 4) ↔
      ∀ s ∈ sections, (Value.object s.2.toObject).1.depth ≤ n + 4 :=
    forall_mem_iff_of_mapM_eq_ok decoded fun m s member =>
      depth_le_iff_of_decodeSection (decodeMember_eq_ok_iff.1 member).2
  rw [Json.depth_object_le_iff_within, Json.depth_object_le_iff_within, Object.Within,
    Object.Within, toList_toObject, sections_ofSections, List.forall_mem_map, members]
  exact forall_congr' fun s => imp_congr_left (SortedMap.mem_ofList distinct).symm

/-- The value of a catalog nests one deeper than the object of the catalog, because of the wrapping
key. A document without this key is therefore written deeper than it was read. -/
theorem depth_value_eq (c : Catalog) :
    (Document.value c).1.depth = (Value.object c.toObject).1.depth + 1 :=
  congrArg Nat.succ (Nat.max_zero _)

end TemplateCoverage.Catalog
