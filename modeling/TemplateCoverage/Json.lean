import TemplateCoverage.Json.Number

/-!
# `TemplateCoverage.Json`: JSON values with ordered members

A value keeps the members of its objects in the order of the document. `Json` is the bare tree;
`Json.Value` and `Json.Object` are trees in which no object has a key twice. Main statements:

* `keysDistinct_insertMember`: replacing or appending a member keeps the keys distinct;
* `lookup_insertMember_self`, `lookup_insertMember_ne`: the member put in is found, and every other
  key finds what it found before.
-/

set_option autoImplicit false

namespace TemplateCoverage

/-- A JSON tree. -/
inductive Json where
  | null
  | bool (b : Bool)
  | number (n : Json.Number)
  | string (s : String)
  | array (items : List Json)
  | object (members : List (String × Json))

namespace Json

/-- The members of an object in document order. -/
abbrev Members := List (String × Json)

/-- The keys of members in order. -/
def keys (members : Members) : List String := members.map (·.1)

/-- Puts a member in: in place of the one with its key, or at the end. -/
def insertMember : Members → String → Json → Members
  | [], key, value => [(key, value)]
  | (k, v) :: rest, key, value =>
    if k = key then (key, value) :: rest else (k, v) :: insertMember rest key value

/-! ### Nesting -/

mutual

/-- How many arrays and objects nest in a tree. -/
def depth : Json → Nat
  | .array items => depthItems items + 1
  | .object members => depthMembers members + 1
  | _ => 0

/-- The greatest depth among items. -/
def depthItems : List Json → Nat
  | [] => 0
  | item :: items => max (depth item) (depthItems items)

/-- The greatest depth among the values of members. -/
def depthMembers : Members → Nat
  | [] => 0
  | (_, value) :: members => max (depth value) (depthMembers members)

end

/-! ### Equality of values -/

mutual

/-- Equality of values: the order of members does not matter, and the two zeros are one number. -/
def same : Json → Json → Bool
  | .null, .null => true
  | .bool a, .bool b => a == b
  | .number a, .number b => a.same b
  | .string a, .string b => a == b
  | .array as, .array bs => sameItems as bs
  -- Keys are distinct, so with equal lengths one direction is enough.
  | .object as, .object bs => as.length == bs.length && sameMembers as bs
  | _, _ => false

/-- Equality of items, one by one. -/
def sameItems : List Json → List Json → Bool
  | [], [] => true
  | a :: as, b :: bs => same a b && sameItems as bs
  | _, _ => false

/-- Whether every member on the left has an equal member on the right. -/
def sameMembers : Members → Members → Bool
  | [], _ => true
  | (key, a) :: as, bs =>
    (match bs.lookup key with
      | some b => same a b
      | none => false) && sameMembers as bs

end

/-! ### Distinct keys -/

mutual

/-- Whether no object in the tree has a key twice. -/
def KeysDistinct : Json → Prop
  | .array items => ItemsDistinct items
  | .object members => (keys members).Nodup ∧ MembersDistinct members
  | _ => True

/-- Whether no object in the items has a key twice. -/
def ItemsDistinct : List Json → Prop
  | [] => True
  | item :: items => KeysDistinct item ∧ ItemsDistinct items

/-- Whether no object in the values of the members has a key twice. -/
def MembersDistinct : Members → Prop
  | [] => True
  | (_, value) :: members => KeysDistinct value ∧ MembersDistinct members

end

theorem itemsDistinct_iff {items : List Json} :
    ItemsDistinct items ↔ ∀ item ∈ items, item.KeysDistinct := by
  induction items with
  | nil => simp [ItemsDistinct]
  | cons item items ih => simp [ItemsDistinct, ih]

theorem membersDistinct_iff {members : Members} :
    MembersDistinct members ↔ ∀ m ∈ members, m.2.KeysDistinct := by
  induction members with
  | nil => simp [MembersDistinct]
  | cons m members ih => simp [MembersDistinct, ih]

theorem mem_keys_insertMember {members : Members} {key k : String} {value : Json} :
    k ∈ keys (insertMember members key value) ↔ k = key ∨ k ∈ keys members := by
  induction members with
  | nil => simp [insertMember, keys]
  | cons m members ih =>
    simp only [insertMember]
    split
    · rename_i h
      simp [keys, h]
    · simp only [keys, List.map_cons, List.mem_cons] at ih ⊢
      rw [ih]
      grind

theorem nodup_keys_insertMember {members : Members} {key : String} {value : Json}
    (h : (keys members).Nodup) : (keys (insertMember members key value)).Nodup := by
  induction members with
  | nil => simp [insertMember, keys]
  | cons m members ih =>
    simp only [keys, List.map_cons, List.nodup_cons] at h
    simp only [insertMember]
    split
    · rename_i eq
      simpa [keys, ← eq] using h
    · rename_i ne
      have new : m.1 ∈ keys (insertMember members key value) ↔ m.1 = key ∨ m.1 ∈ keys members :=
        mem_keys_insertMember
      simp only [keys] at new ih
      simp only [keys, List.map_cons, List.nodup_cons, new, not_or]
      exact ⟨⟨ne, h.1⟩, ih h.2⟩

theorem membersDistinct_insertMember {members : Members} {key : String} {value : Json}
    (h : MembersDistinct members) (hv : value.KeysDistinct) :
    MembersDistinct (insertMember members key value) := by
  induction members with
  | nil => simpa [insertMember, MembersDistinct] using hv
  | cons m members ih =>
    obtain ⟨k, v⟩ := m
    simp only [insertMember]
    split
    · exact ⟨hv, h.2⟩
    · exact ⟨h.1, ih h.2⟩

/-- Replacing or appending a member keeps the keys distinct. -/
theorem keysDistinct_insertMember {members : Members} {key : String} {value : Json}
    (h : (Json.object members).KeysDistinct) (hv : value.KeysDistinct) :
    (Json.object (insertMember members key value)).KeysDistinct :=
  ⟨nodup_keys_insertMember h.1, membersDistinct_insertMember h.2 hv⟩

theorem lookup_insertMember_self {members : Members} {key : String} {value : Json} :
    (insertMember members key value).lookup key = some value := by
  induction members with
  | nil => simp [insertMember]
  | cons m members ih =>
    simp only [insertMember]
    split
    · simp
    · rename_i ne
      rw [List.lookup_cons, beq_false_of_ne (Ne.symm ne)]
      exact ih

theorem lookup_insertMember_ne {members : Members} {key k : String} {value : Json}
    (ne : k ≠ key) : (insertMember members key value).lookup k = members.lookup k := by
  induction members with
  | nil => simp [insertMember, List.lookup_cons, beq_false_of_ne ne]
  | cons m members ih =>
    obtain ⟨key', v⟩ := m
    simp only [insertMember]
    split
    · rename_i eq
      subst eq
      simp [List.lookup_cons, beq_false_of_ne ne]
    · simp only [List.lookup_cons, ih]

/-! ### Values and objects without repeated keys -/

/-- A tree in which no object has a key twice. -/
def Value := { tree : Json // tree.KeysDistinct }

/-- The members of an object in whose tree no object has a key twice. -/
structure Object where
  members : Members
  distinct : (Json.object members).KeysDistinct

theorem Object.ext {a b : Object} (h : a.members = b.members) : a = b := by
  cases a; cases b; simp_all

namespace Value

/-- The value without content. -/
def null : Value := ⟨.null, trivial⟩

/-- A truth value. -/
def bool (b : Bool) : Value := ⟨.bool b, trivial⟩

/-- A text. -/
def string (s : String) : Value := ⟨.string s, trivial⟩

/-- The values in order. -/
def array (items : List Value) : Value :=
  ⟨.array (items.map (·.1)), itemsDistinct_iff.2 (by simpa using fun (v : Value) _ => v.2)⟩

/-- The object with the members given. -/
def object (o : Object) : Value := ⟨.object o.members, o.distinct⟩

/-- The items of an array. -/
def items? (v : Value) : Option (List Value) :=
  match v with
  | ⟨.array items, h⟩ =>
    some (items.attach.map fun item => ⟨item.1, itemsDistinct_iff.1 h item.1 item.2⟩)
  | _ => none

/-- The object that a value is. -/
def object? (v : Value) : Option Object :=
  match v with
  | ⟨.object members, h⟩ => some ⟨members, h⟩
  | _ => none

/-- The text that a value is. -/
def string? (v : Value) : Option String :=
  match v.1 with
  | .string s => some s
  | _ => none

/-- Whether the value is null. -/
def isNull (v : Value) : Bool :=
  match v.1 with
  | .null => true
  | _ => false

end Value

namespace Object

/-- The object without members. -/
def empty : Object := ⟨[], by simp [KeysDistinct, keys, MembersDistinct]⟩

/-- Puts a member in: in place of the one with its key, or at the end. -/
def insert (o : Object) (key : String) (value : Value) : Object :=
  ⟨insertMember o.members key value.1, keysDistinct_insertMember o.distinct value.2⟩

/-- The object with the pairs put in from left to right. -/
def ofList (pairs : List (String × Value)) : Object :=
  pairs.foldl (fun o pair => o.insert pair.1 pair.2) empty

/-- Whether the object has no members. -/
def isEmpty (o : Object) : Bool := o.members.isEmpty

theorem keysDistinct_of_mem {o : Object} {m : String × Json} (h : m ∈ o.members) :
    m.2.KeysDistinct :=
  membersDistinct_iff.1 o.distinct.2 m h

/-- The members in order, each with the proof that its value has no repeated keys. -/
def toList (o : Object) : List (String × Value) :=
  o.members.attach.map fun ⟨m, h⟩ => (m.1, ⟨m.2, keysDistinct_of_mem h⟩)

/-- The value of a key. -/
def get? (o : Object) (key : String) : Option Value := o.toList.lookup key

/-- The members of one object put into another from left to right. -/
def insertAll (o other : Object) : Object :=
  other.toList.foldl (fun o pair => o.insert pair.1 pair.2) o

/-- The object without the member of a key. -/
def erase (o : Object) (key : String) : Object where
  members := o.members.filter (·.1 ≠ key)
  distinct := by
    refine ⟨?_, membersDistinct_iff.2 fun m h => keysDistinct_of_mem (List.mem_filter.1 h).1⟩
    exact o.distinct.1.sublist (List.filter_sublist.map _)

/-- Equality of values: the order of members does not matter. -/
def same (a b : Object) : Bool := Json.same (.object a.members) (.object b.members)

end Object

end Json

end TemplateCoverage
