import TemplateCoverage.Json
import TemplateCoverage.Proofs.Sorted.Map

/-!
# `TemplateCoverage.Proofs.Json.Object`: what an object is built from

An object that is put together from members with distinct keys holds just these members in their
order. The theorems:

* `Object.toList_ofList`: the members of a list with distinct keys are those of the list;
* `Object.toList_insertAll`: an object with the members of another one, under keys of its own,
  holds its own members and then the other ones;
* `Object.get?_eq_some_iff`, `Object.get?_eq_none_iff`: which keys have which values;
* `Value.items?_array`: the items of an array are those it was built from;
* `Value.eq_array_of_items?`, `Value.eq_object_of_object?`: a value is what it was taken apart into.
-/

set_option autoImplicit false

namespace TemplateCoverage.Json

/-- A member under a new key goes to the end, behind all members that are there, so that objects
keep the order in which their keys came up first. -/
theorem insertMember_of_not_mem {members : Members} {key : String} {value : Json}
    (new : key ∉ keys members) : insertMember members key value = members ++ [(key, value)] := by
  induction members with
  | nil => rfl
  | cons m members ih =>
    simp only [keys, List.map_cons, List.mem_cons, not_or] at new
    rw [insertMember, if_neg (Ne.symm new.1), ih new.2, List.cons_append]

namespace Object

/-- The tree of a pair's value beside its key, which is how an object holds its members. -/
def tree (pair : String × Value) : String × Json := (pair.1, pair.2.1)

/-- Pairs with the same key and tree are equal, since a value is its tree with a proof. -/
theorem tree_injective : Function.Injective tree := by
  rintro ⟨k, v⟩ ⟨k', v'⟩ eq
  simp only [tree, Prod.mk.injEq] at eq
  exact Prod.ext eq.1 (Subtype.ext eq.2)

/-- The pairs of an object are its members: each carries the proof that the keys inside of it are
distinct, and is the member without that proof. -/
theorem map_tree_toList (o : Object) : o.toList.map tree = o.members := by
  simp only [toList, List.map_map]
  exact List.attach_map_subtype_val o.members

/-- The keys of the pairs are the keys of the members, in their order. -/
theorem map_fst_toList (o : Object) : o.toList.map (·.1) = keys o.members := by
  rw [keys, ← map_tree_toList, List.map_map]
  rfl

/-- The keys of an object are distinct by its type, here in the form for its pairs. -/
theorem nodup_keys (o : Object) : (o.toList.map (·.1)).Nodup := by
  rw [map_fst_toList]
  exact o.distinct.1

/-- Objects with the same members are equal: the proofs that come with them do not count. -/
theorem ext_toList {a b : Object} (h : a.toList = b.toList) : a = b :=
  Object.ext (by rw [← map_tree_toList, h, map_tree_toList])

/-- An object has certain pairs if and only if its members are the trees of these, so that a
statement on pairs can be proved on trees. -/
theorem toList_eq_iff {o : Object} {pairs : List (String × Value)} :
    o.toList = pairs ↔ o.members = pairs.map tree := by
  rw [← map_tree_toList]
  exact (List.map_inj_right fun _ _ eq => tree_injective eq).symm

/-! ### Putting members in -/

/-- A value under a new key is put in as the last pair. -/
theorem toList_insert_of_not_mem {o : Object} {key : String} {value : Value}
    (new : key ∉ o.toList.map (·.1)) :
    (o.insert key value).toList = o.toList ++ [(key, value)] := by
  rw [map_fst_toList] at new
  rw [toList_eq_iff, List.map_append, map_tree_toList]
  exact insertMember_of_not_mem new

/-- Members under distinct new keys go to the end in their order. The induction is on the members,
and the keys have to differ from those that are there and from each other. -/
theorem toList_foldl_insert {pairs : List (String × Value)} {o : Object}
    (distinct : ((o.toList ++ pairs).map (·.1)).Nodup) :
    (pairs.foldl (fun o pair => o.insert pair.1 pair.2) o).toList = o.toList ++ pairs := by
  induction pairs generalizing o with
  | nil => simp
  | cons pair pairs ih =>
    -- The key is in neither part by the one hypothesis on all keys together.
    have new : pair.1 ∉ o.toList.map (·.1) := by
      simp only [List.map_append, List.map_cons, List.nodup_append, List.mem_cons] at distinct
      exact fun old => distinct.2.2 _ old _ (.inl rfl) rfl
    have inserted : (o.insert pair.1 pair.2).toList = o.toList ++ [pair] :=
      toList_insert_of_not_mem new
    rw [List.foldl_cons, ih, inserted, List.append_assoc, List.singleton_append]
    rwa [inserted, List.append_assoc, List.singleton_append]

/-- The members of a list with distinct keys are those of the list, so that what is built to be
written holds just what was put in. -/
theorem toList_ofList {pairs : List (String × Value)} (distinct : (pairs.map (·.1)).Nodup) :
    (ofList pairs).toList = pairs :=
  toList_foldl_insert (o := empty) distinct

/-- An object with the members of another one under keys of its own holds both in order. Here the
other one's keys are those of unknown fields behind the known ones. -/
theorem toList_insertAll {o other : Object}
    (apart : ∀ key ∈ other.toList.map (·.1), key ∉ o.toList.map (·.1)) :
    (o.insertAll other).toList = o.toList ++ other.toList := by
  refine toList_foldl_insert ?_
  rw [List.map_append, List.nodup_append]
  refine ⟨o.nodup_keys, other.nodup_keys, fun key mine key' theirs eq => ?_⟩
  exact apart key' theirs (eq ▸ mine)

/-! ### Looking members up -/

/-- A key has no value if and only if it is not among the keys. -/
theorem get?_eq_none_iff {o : Object} {key : String} :
    o.get? key = none ↔ key ∉ o.toList.map (·.1) := by
  unfold get?
  induction o.toList with
  | nil => simp
  | cons pair pairs ih =>
    obtain ⟨k, v⟩ := pair
    rw [List.lookup_cons]
    -- Along the pairs, of which the first one with the key counts.
    by_cases eq : key = k
    · simp [eq]
    · simp [beq_false_of_ne eq, ih, eq]

/-- A key has a value if and only if the two are a pair of the object; there is one such pair at
most, as the keys are distinct. -/
theorem get?_eq_some_iff {o : Object} {key : String} {value : Value} :
    o.get? key = some value ↔ (key, value) ∈ o.toList :=
  SortedMap.lookup_eq_some_iff_mem o.nodup_keys

/-- Taking a member away leaves the other ones in their order. -/
theorem toList_erase (o : Object) (key : String) :
    (o.erase key).toList = o.toList.filter (·.1 ≠ key) := by
  rw [toList_eq_iff]
  show o.members.filter (·.1 ≠ key) = _
  rw [← map_tree_toList, List.filter_map]
  rfl

/-- A key that was taken away has no value. -/
theorem get?_erase_self {o : Object} {key : String} : (o.erase key).get? key = none := by
  rw [get?_eq_none_iff, toList_erase]
  simp

/-- Other keys have the value that they had before. -/
theorem get?_erase_of_ne {o : Object} {key other : String} (ne : key ≠ other) :
    (o.erase other).get? key = o.get? key := by
  refine Option.ext fun value => ?_
  rw [get?_eq_some_iff, get?_eq_some_iff, toList_erase, List.mem_filter]
  exact and_iff_left (by simpa using ne)

/-- Taking away a member that is not there changes nothing, so that an object without known keys is
its own unknown fields. -/
theorem erase_of_get?_eq_none {o : Object} {key : String} (absent : o.get? key = none) :
    o.erase key = o := by
  refine ext_toList ?_
  rw [toList_erase, List.filter_eq_self]
  intro pair mem
  rw [get?_eq_none_iff] at absent
  simpa using fun eq => absent (List.mem_map.2 ⟨pair, mem, eq⟩)

end Object

/-! ### Values taken apart -/

namespace Value

/-- The items of an array are those it was built from. An array holds trees, and the items are these
with the proofs that the array's own proof gives them. -/
theorem items?_array {items : List Value} : (array items).items? = some items := by
  refine congrArg some ((List.map_inj_right fun (v w : Value) => Subtype.ext).1 ?_)
  exact List.map_map.trans (List.attach_map_subtype_val (items.map (·.1)))

/-- A value that has items is their array, so that what is read as items is written as it was. -/
theorem eq_array_of_items? {v : Value} {items : List Value} (h : v.items? = some items) :
    v = array items := by
  obtain ⟨tree, distinct⟩ := v
  cases tree with
  | array trees =>
    cases h
    -- Each item is a tree of the array with its proof.
    have same : (trees.attach.map fun item =>
        (⟨item.1, itemsDistinct_iff.1 distinct item.1 item.2⟩ : Value)).map (·.1) = trees :=
      List.map_map.trans (List.attach_map_subtype_val trees)
    exact Subtype.ext (congrArg Json.array same.symm)
  | _ => contradiction

/-- A value that is an object is the value of that object, so that what is read as an object is
written as it was. -/
theorem eq_object_of_object? {v : Value} {o : Object} (h : v.object? = some o) : v = object o := by
  obtain ⟨tree, distinct⟩ := v
  cases tree with
  | object members =>
    cases h
    rfl
  | _ => contradiction

/-- The value of an object determines it. -/
theorem object_inj {o other : Object} (h : object o = object other) : o = other :=
  Object.ext (Json.object.inj (congrArg Subtype.val h))

/-- The test for null, which looks at the tree only, is equality with the value null. -/
theorem isNull_iff {v : Value} : v.isNull ↔ v = null := by
  have same : v = null ↔ v.1 = .null := Subtype.ext_iff
  rw [same, isNull]
  cases v.1 <;> simp

end Value

end TemplateCoverage.Json
