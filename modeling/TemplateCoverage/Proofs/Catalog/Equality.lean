import Mathlib.Data.List.Forall2
import TemplateCoverage.Proofs.Catalog.Sections
import TemplateCoverage.Proofs.Json.Object

/-!
# `TemplateCoverage.Proofs.Catalog.Equality`: catalogs that are the same as values

Two catalogs are the same as values if they differ in nothing but the order of keys within payloads
and fields and the sign of a zero. This is seen event by event. The theorems:

* `Json.same_self`: a tree without repeated keys is the same as itself;
* `SortedMap.sameLists_toList_iff`: maps are the same item by item if and only if they hold the same
  under every key;
* `same_iff`: which catalogs are the same;
* `sameSections_iff`: and which sections.
-/

set_option autoImplicit false

namespace TemplateCoverage

/-! ### Trees -/

namespace Json

/-- A number is the same as itself. Doubles are finite here, so that not a number is no exception.
-/
theorem Number.same_self (n : Number) : n.same n := by
  cases n <;> simp [Number.same, Double.same]

mutual

/-- A tree without repeated keys is the same as itself. With a repeated key it would not be: the
lookup finds the first of the members only. -/
theorem same_self : ∀ (j : Json), j.KeysDistinct → j.same j
  | .null, _ => by simp [same]
  | .bool _, _ => by simp [same]
  | .number n, _ => by simp [same, n.same_self]
  | .string _, _ => by simp [same]
  | .array items, distinct => by
    rw [same]
    exact sameItems_self items distinct
  | .object members, distinct => by
    -- Keys are distinct, so that each member is found under its own key.
    have found : sameMembers members members :=
      sameMembers_of_lookup members members distinct.2 fun _ mem =>
        (SortedMap.lookup_eq_some_iff_mem distinct.1).2 mem
    simp [same, found]

/-- Items without repeated keys inside are the same as themselves, one by one, by the lemma on trees
for each of them. -/
theorem sameItems_self : ∀ (items : List Json), ItemsDistinct items → sameItems items items
  | [], _ => by simp [sameItems]
  | item :: items, distinct => by
    simp [sameItems, same_self item distinct.1, sameItems_self items distinct.2]

/-- Members are the same as those of an object in which each of them is found under its own key. The
object stays fixed while the members get fewer, since lookup needs all of them. -/
theorem sameMembers_of_lookup : ∀ (members all : Members), MembersDistinct members →
    (∀ m ∈ members, all.lookup m.1 = some m.2) → sameMembers members all
  | [], _, _, _ => by simp [sameMembers]
  | (key, value) :: members, all, distinct, found => by
    obtain ⟨first, others⟩ := List.forall_mem_cons.1 found
    simp [sameMembers, first, same_self value distinct.1,
      sameMembers_of_lookup members all distinct.2 others]

end

/-- An object is the same as itself, as its keys are distinct; with a repeated key the comparison
would look at the wrong place. -/
theorem Object.same_self (o : Object) : o.same o := Json.same_self (.object o.members) o.distinct

/-- An object without members is the same as no other one, since as many members are asked for. -/
theorem Object.same_eq_false_of_members {a b : Object}
    (h : a.members = [] ↔ b.members ≠ []) : a.same b = false := by
  unfold Object.same
  rw [Json.same, Bool.and_eq_false_iff]
  refine .inl (beq_false_of_ne fun eq => ?_)
  rw [← List.length_eq_zero_iff, eq, List.length_eq_zero_iff] at h
  exact (iff_not_self h).elim

end Json

/-- An entry is the same as itself, in its tags, its payload and its fields. -/
theorem Entry.same_self (e : Entry) : e.same e := by
  simp [Entry.same, Json.same_self _ e.payload.2, e.extra.same_self]

/-! ### Lists and maps -/

/-- Lists are the same if and only if they are as long and the same item by item. -/
theorem Catalog.sameLists_iff_forall₂ {α : Type} {test : α → α → Bool} {as bs : List α} :
    Catalog.sameLists test as bs ↔ List.Forall₂ (fun a b => test a b) as bs := by
  fun_induction Catalog.sameLists test as bs with
  | case1 => simp
  | case2 a as b bs ih => rw [Bool.and_eq_true, ih, List.forall₂_cons]
  | case3 as bs notNil notCons =>
    refine iff_of_false Bool.false_ne_true fun related => ?_
    cases related with
    | nil => exact notNil rfl rfl
    | cons _ _ => exact notCons _ _ _ _ rfl rfl

/-- A list is the same as itself if each of its items is. -/
theorem Catalog.sameLists_self {α : Type} {test : α → α → Bool} (refl : ∀ a, test a a)
    (as : List α) : Catalog.sameLists test as as :=
  Catalog.sameLists_iff_forall₂.2 (List.forall₂_same.2 fun a _ => refl a)

namespace SortedMap

variable {κ β : Type} [LT κ] [DecidableEq κ]

omit [LT κ] in
/-- Under every key the same is found in lists that are the same item by item. -/
theorem rel_lookup_of_forall₂ {test : β → β → Bool} {es fs : List (κ × β)}
    (related : List.Forall₂ (fun e f => (e.1 == f.1 && test e.2 f.2) = true) es fs) (k : κ) :
    Option.Rel (fun a b => test a b) (es.lookup k) (fs.lookup k) := by
  induction related with
  | nil => exact .none
  | @cons e f es fs head _ ih =>
    obtain ⟨ke, a⟩ := e
    obtain ⟨kf, b⟩ := f
    simp only [Bool.and_eq_true, beq_iff_eq] at head
    obtain ⟨rfl, tested⟩ := head
    rw [List.lookup_cons, List.lookup_cons]
    by_cases eq : k = ke
    · simpa [eq] using Option.Rel.some tested
    · simpa [beq_false_of_ne eq] using ih

omit [LT κ] in
/-- Lists with the same distinct keys are the same item by item if under every key the same is
found. Without distinct keys, only the first item of each key would be looked at. -/
theorem forall₂_of_rel_lookup {test : β → β → Bool} {es fs : List (κ × β)}
    (keys : es.map (·.1) = fs.map (·.1)) (distinct : (es.map (·.1)).Nodup)
    (related : ∀ k, Option.Rel (fun a b => test a b) (es.lookup k) (fs.lookup k)) :
    List.Forall₂ (fun e f => (e.1 == f.1 && test e.2 f.2) = true) es fs := by
  induction es generalizing fs with
  | nil =>
    cases fs with
    | nil => exact .nil
    | cons => contradiction
  | cons e es ih =>
    cases fs with
    | nil => contradiction
    | cons f fs =>
      obtain ⟨key, a⟩ := e
      obtain ⟨key', b⟩ := f
      obtain ⟨same, rest⟩ := List.cons.inj keys
      dsimp only at same
      subst same
      rw [List.map_cons, List.nodup_cons] at distinct
      have head : test a b := by
        have atKey := related key
        simp only [List.lookup_cons_self] at atKey
        cases atKey with
        | some tested => exact tested
      refine .cons (by simp [head]) (ih rest distinct.2 fun k => ?_)
      by_cases eq : k = key
      · -- The key of the heads is none of the tails' keys.
        subst eq
        have absent : ∀ gs : List (κ × β), gs.map (·.1) = es.map (·.1) → gs.lookup k = none := by
          intro gs listed
          refine lookup_eq_none_iff.2 fun g mem same => distinct.1 ?_
          rw [← listed]
          exact List.mem_map.2 ⟨g, mem, same⟩
        rw [absent es rfl, absent fs rest.symm]
        exact .none
      · simpa [List.lookup_cons, beq_false_of_ne eq] using related k

/-- Maps are the same item by item if and only if they hold the same under every key. The order of
items says nothing more, since maps are sorted by their keys. -/
theorem sameLists_toList_iff [StrictOrder κ] {test : β → β → Bool} {m n : SortedMap κ β} :
    Catalog.sameLists (fun x y => x.1 == y.1 && test x.2 y.2) m.toList n.toList ↔
      ∀ k, Option.Rel (fun a b => test a b) (m.get? k) (n.get? k) := by
  rw [Catalog.sameLists_iff_forall₂]
  refine ⟨rel_lookup_of_forall₂, fun related => ?_⟩
  -- First the keys are seen to be the same, and then what stands under each of them.
  have keys : m.keys = n.keys := by
    refine StrictOrder.eq_of_mem_iff m.ascending_keys n.ascending_keys fun k => ?_
    rw [← contains_iff, ← contains_iff, contains, contains]
    have atKey := related k
    generalize m.get? k = a at atKey
    generalize n.get? k = b at atKey
    cases atKey <;> rfl
  exact forall₂_of_rel_lookup keys m.nodup_keys related

end SortedMap

namespace Catalog

/-! ### Catalogs -/

variable {c d : Catalog}

/-- Catalogs are the same if and only if under every event their entries and their fields are. An
event without entries is not the same as no event. -/
theorem same_iff : c.same d ↔
    (∀ event, Option.Rel (fun es fs => sameLists Entry.same es fs)
      (c.entries? event) (d.entries? event)) ∧
    ∀ event, Option.Rel (fun a b => a.same b) (c.fields? event) (d.fields? event) := by
  rw [same, Bool.and_eq_true]
  exact and_congr SortedMap.sameLists_toList_iff SortedMap.sameLists_toList_iff

/-- A catalog is the same as itself, so that what was not changed compares equal. -/
theorem same_self (c : Catalog) : c.same c := by
  rw [same, Bool.and_eq_true]
  constructor
  · -- Events and fields are listed in the same order on both sides, being the same.
    exact sameLists_self (fun _ => by simp [sameLists_self Entry.same_self]) _
  · exact sameLists_self (fun f => by simp [f.2.same_self]) _

/-! ### Sections -/

/-- Equality of sections with payloads and fields compared as values, in which the order of members
does not count. -/
def Section.same (s t : Section) : Bool :=
  sameLists Entry.same s.entries t.entries && s.fields.same t.fields

/-- Equality of the sections of two documents, event by event. Both list their events in ascending
order, so that places can be compared. -/
def sameSections (m n : SortedMap String Section) : Bool :=
  sameLists (fun x y => x.1 == y.1 && x.2.same y.2) m.toList n.toList

/-- Sections are the same if and only if under every event they are. -/
theorem sameSections_iff {m n : SortedMap String Section} : sameSections m n ↔
    ∀ event, Option.Rel (fun s t => s.same t) (m.get? event) (n.get? event) :=
  SortedMap.sameLists_toList_iff

end Catalog

end TemplateCoverage
