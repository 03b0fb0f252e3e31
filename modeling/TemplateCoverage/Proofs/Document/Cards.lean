import Mathlib.Logic.Basic
import TemplateCoverage.Proofs.Catalog.Storable
import TemplateCoverage.Proofs.Document.RoundTrip
import TemplateCoverage.Proofs.Json.Nesting

/-!
# `TemplateCoverage.Proofs.Document.Cards`: candidate documents of cards

A card nests a few levels and has no numbers, so a catalog of cards is read back from its text,
however many there are and whatever events and tags they are for. The theorems:

* `readableWithin_array_iff`, `readableWithin_object_iff`: what it takes to read an array or an
  object within a depth;
* `readableWithin_value`: the same for a catalog without fields;
* `readable_cards`, `readCatalog_cards`: candidates made of cards come back from their text.
-/

set_option autoImplicit false

namespace TemplateCoverage

open Json (Object Value)

/-! ### Values within a depth -/

namespace Json

/-- A value is readable within a depth if it nests no deeper and its doubles are read back. The
depth is carried along, so that levels can be added from the inside. -/
structure Value.ReadableWithin (n : Nat) (v : Value) : Prop where
  depth_le : v.1.depth ≤ n
  doubles : ∀ x ∈ v.1.doubles, x.ReadsBack

/-- The doubles of items are those of one of them, so that a condition on all doubles is one on each
item. -/
theorem mem_doublesOfItems_iff {x : Double} {items : List Json} :
    x ∈ doublesOfItems items ↔ ∃ item ∈ items, x ∈ item.doubles := by
  induction items with
  | nil => simp [doublesOfItems]
  | cons item items ih =>
    simp only [doublesOfItems, List.mem_append, ih, List.mem_cons, exists_eq_or_imp]

/-- The doubles of members are those of the value of one of them. -/
theorem mem_doublesOfMembers_iff {x : Double} {members : Members} :
    x ∈ doublesOfMembers members ↔ ∃ m ∈ members, x ∈ m.2.doubles := by
  induction members with
  | nil => simp [doublesOfMembers]
  | cons m members ih =>
    simp only [doublesOfMembers, List.mem_append, ih, List.mem_cons, exists_eq_or_imp]

variable {n : Nat}

/-- An array is readable one level deeper than its items, which is the step for nested payloads. -/
theorem readableWithin_array_iff {items : List Value} :
    (Value.array items).ReadableWithin (n + 1) ↔ ∀ v ∈ items, v.ReadableWithin n := by
  have doubles : ∀ x, x ∈ (Value.array items).1.doubles ↔ ∃ v ∈ items, x ∈ v.1.doubles := by
    intro x
    show x ∈ doublesOfItems (items.map (·.1)) ↔ _
    simp only [mem_doublesOfItems_iff, List.mem_map, exists_exists_and_eq_and]
  refine ⟨fun readable v mem => ?_, fun all => ?_⟩
  · exact ⟨depth_array_le_iff.1 readable.depth_le v mem, fun x within =>
      readable.doubles x ((doubles x).2 ⟨v, mem, within⟩)⟩
  · refine ⟨depth_array_le_iff.2 fun v mem => (all v mem).depth_le, fun x within => ?_⟩
    obtain ⟨v, mem, own⟩ := (doubles x).1 within
    exact (all v mem).doubles x own

/-- An object is readable one level deeper than the values of its members. -/
theorem readableWithin_object_iff {o : Object} :
    (Value.object o).ReadableWithin (n + 1) ↔ ∀ m ∈ o.toList, m.2.ReadableWithin n := by
  have doubles : ∀ x, x ∈ (Value.object o).1.doubles ↔ ∃ m ∈ o.toList, x ∈ m.2.1.doubles := by
    intro x
    show x ∈ doublesOfMembers o.members ↔ _
    rw [← Object.map_tree_toList]
    simp only [mem_doublesOfMembers_iff, List.mem_map, exists_exists_and_eq_and, Object.tree]
  refine ⟨fun readable m mem => ?_, fun all => ?_⟩
  · exact ⟨depth_object_le_iff_within.1 readable.depth_le m mem, fun x within =>
      readable.doubles x ((doubles x).2 ⟨m, mem, within⟩)⟩
  · refine ⟨depth_object_le_iff_within.2 fun m mem => (all m mem).depth_le, fun x within => ?_⟩
    obtain ⟨m, mem, own⟩ := (doubles x).1 within
    exact (all m mem).doubles x own

end Json

/-! ### Catalogs within a depth -/

namespace Document

open Json

variable {n : Nat} {c : Catalog}

/-- A catalog without fields is readable four levels deeper than its entries. Candidates have no
fields, so that nothing else has to be looked at. -/
theorem readableWithin_value (fieldless : ∀ event, c.fields? event = none)
    (entries : ∀ event entries, c.entries? event = some entries → ∀ e ∈ entries,
      (Value.object e.toObject).ReadableWithin n) : (value c).ReadableWithin (n + 4) := by
  have top : (Object.ofList [(Catalog.templatesKey, Value.object c.toObject)]).toList =
      [(Catalog.templatesKey, Value.object c.toObject)] := Object.toList_ofList (by simp)
  -- The document, its events, an event and its list of entries are a level each.
  rw [value, readableWithin_object_iff, top, List.forall_mem_singleton, readableWithin_object_iff,
    Catalog.toList_toObject, List.forall_mem_map]
  intro s mem
  have held := SortedMap.get?_eq_some_iff.2 mem
  rw [Catalog.get?_sections, fieldless, Option.getD_none, Option.map_eq_some_iff] at held
  obtain ⟨es, listed, same⟩ := held
  have noFields : s.2.fields = Object.empty := same ▸ rfl
  have free : s.2.fields.get? "payloads" = none := noFields ▸ rfl
  have nothing : s.2.fields.toList = [] := noFields ▸ rfl
  rw [readableWithin_object_iff, Catalog.Section.toList_toObject free, nothing,
    List.forall_mem_singleton, readableWithin_array_iff, List.forall_mem_map]
  intro e inEntries
  rw [← same] at inEntries
  exact entries s.1 es listed e inEntries

/-! ### Cards -/

/-- The entry of a card nests eight levels and has no doubles, whatever event, tag and locale it is
for. -/
theorem readableWithin_card (event tag : String) (locale : Locale) :
    (Value.object (Card.entry event tag locale).toObject).ReadableWithin 8 := by
  have depth : (Value.object (Card.entry event tag locale).toObject).1.depth = 8 := rfl
  have doubles : (Value.object (Card.entry event tag locale).toObject).1.doubles = [] := rfl
  have none : ∀ x ∈ (Value.object (Card.entry event tag locale).toObject).1.doubles,
      x.ReadsBack := by
    rw [doubles]
    exact List.forall_mem_nil _
  exact ⟨Nat.le_of_eq depth, none⟩

variable {missing : SortedSet Combination} {locale : Locale}

/-- Candidates made of cards nest twelve levels at most and have no doubles, which is far from the
depth to which the reader goes. -/
theorem readable_cards (made : Synthesis.candidates Card.entry missing locale = .ok c) :
    (value c).Readable := by
  obtain ⟨_, rfl⟩ := Synthesis.candidates_eq_ok_iff.1 made
  -- The entries of the candidates are cards, each of them filed under its event.
  have within : (value (Synthesis.filing Card.entry missing locale)).ReadableWithin (8 + 4) := by
    refine readableWithin_value (fun _ => Catalog.fields?_ofPairs) fun event entries listed e => ?_
    intro mem
    have filed : e ∈ ((Synthesis.filing Card.entry missing locale).entries? event).getD [] := by
      rw [listed]
      exact mem
    rw [Synthesis.getD_entries?_filing] at filed
    obtain ⟨x, _, rfl⟩ := List.mem_map.1 filed
    exact readableWithin_card x.event x.tag locale
  have shallow : 8 + 4 ≤ Json.maxDepth := by decide
  exact ⟨Nat.le_trans within.depth_le shallow, within.doubles⟩

/-- Candidates made of cards come back from their text. Nothing is assumed here that a synthesizer
would have to promise. -/
theorem readCatalog_cards (made : Synthesis.candidates Card.entry missing locale = .ok c) :
    readCatalog (candidatesText c) = .ok c :=
  readCatalog_candidatesText
    (Catalog.storable_candidates made Synthesis.carriesNoKnownKey_card) (readable_cards made)

end Document

end TemplateCoverage
