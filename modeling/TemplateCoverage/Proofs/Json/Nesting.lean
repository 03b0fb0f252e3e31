import TemplateCoverage.Proofs.Except
import TemplateCoverage.Proofs.Json.Tokens

/-!
# `TemplateCoverage.Proofs.Json.Nesting`: how deep what is read nests

The reader opens no array or object inside 127 other ones. So what it reads nests no deeper than
that, and of a tree that nests deeper it reads nothing. The theorems:

* `State.Fits.step`: one lexeme keeps everything that has been read within the depth;
* `depth_le_of_read`: what is read nests no deeper than the reader goes;
* `eq_of_read`: from tokens that spell a tree nothing but the tree is read.
-/

set_option autoImplicit false

namespace TemplateCoverage.Json

/-! ### Depths of items and members -/

/-- Items nest no deeper than a bound if each of them does not: their depth is the greatest of
theirs. -/
theorem depthItems_le_iff {n : Nat} {items : List Json} :
    depthItems items ≤ n ↔ ∀ item ∈ items, item.depth ≤ n := by
  induction items with
  | nil => simp [depthItems]
  | cons item items ih => rw [depthItems, Nat.max_le, ih, List.forall_mem_cons]

/-- The same for members, whose depth is the greatest of their values', the keys having none. -/
theorem depthMembers_le_iff {n : Nat} {members : Members} :
    depthMembers members ≤ n ↔ ∀ m ∈ members, m.2.depth ≤ n := by
  induction members with
  | nil => simp [depthMembers]
  | cons m members ih => rw [depthMembers, Nat.max_le, ih, List.forall_mem_cons]

/-- An array nests one deeper than its deepest item, so that a bound for the array is a bound
smaller by one for all of its items. -/
theorem depth_array_le_iff {n : Nat} {items : List Value} :
    (Value.array items).1.depth ≤ n + 1 ↔ ∀ v ∈ items, v.1.depth ≤ n := by
  show depthItems (items.map (·.1)) + 1 ≤ n + 1 ↔ _
  rw [Nat.add_le_add_iff_right, depthItems_le_iff, List.forall_mem_map]

/-- An object nests one deeper than its deepest member, so that a bound for the object is a bound
smaller by one for all of its members. -/
theorem depth_object_le_iff {n : Nat} {o : Object} :
    (Value.object o).1.depth ≤ n + 1 ↔ ∀ m ∈ o.members, m.2.depth ≤ n := by
  show depthMembers o.members + 1 ≤ n + 1 ↔ _
  rw [Nat.add_le_add_iff_right, depthMembers_le_iff]

/-- Putting a member in brings no other member than that, whether its key is new or the value of an
old one is replaced. -/
theorem mem_insertMember {members : Members} {key : String} {value : Json} {m : String × Json}
    (mem : m ∈ insertMember members key value) : m = (key, value) ∨ m ∈ members := by
  induction members with
  | nil => exact .inl (List.mem_singleton.1 mem)
  | cons first members ih =>
    rw [insertMember] at mem
    split at mem
    · rcases List.mem_cons.1 mem with eq | old
      · exact .inl eq
      · exact .inr (List.mem_cons_of_mem first old)
    · rcases List.mem_cons.1 mem with eq | rest
      · exact .inr (eq ▸ List.mem_cons_self)
      · exact (ih rest).imp_right (List.mem_cons_of_mem first)

/-! ### Objects with members of limited depth -/

/-- No member's value nests deeper than so many arrays and objects. It is stated on the members as
pairs of key and value, which is how documents look at them. -/
def Object.Within (n : Nat) (o : Object) : Prop := ∀ pair ∈ o.toList, pair.2.1.depth ≤ n

/-- An object nests no deeper than a bound if its members are within that bound less one. -/
theorem depth_object_le_iff_within {n : Nat} {o : Object} :
    (Value.object o).1.depth ≤ n + 1 ↔ o.Within n := by
  rw [depth_object_le_iff, ← Object.map_tree_toList, List.forall_mem_map]
  rfl

/-- The members of an object are that of a key, if there is one, and the other ones. So the depth of
an event is told by its entries and its fields separately. -/
theorem Object.within_iff_erase {n : Nat} {o : Object} (key : String) :
    o.Within n ↔
      (∀ value, o.get? key = some value → value.1.depth ≤ n) ∧ (o.erase key).Within n := by
  unfold Object.Within
  rw [Object.toList_erase]
  constructor
  · intro within
    exact ⟨fun value found => within (key, value) (Object.get?_eq_some_iff.1 found),
      fun pair mem => within pair (List.mem_filter.1 mem).1⟩
  · rintro ⟨own, others⟩ ⟨k, value⟩ mem
    by_cases eq : k = key
    · exact own value (Object.get?_eq_some_iff.2 (eq ▸ mem))
    · exact others (k, value) (List.mem_filter.2 ⟨mem, by simpa using eq⟩)

/-! ### Lexemes nest nothing -/

/-- Whether a lexeme holds no array and no object. Lexemes could hold any value by their type; those
that are scanned hold constants and numbers only. -/
def Lexeme.IsFlat : Lexeme → Prop
  | .scalar v => v.1.depth = 0
  | _ => True

/-- A broken lexeme holds no value, so that it is flat. -/
theorem Lexeme.isFlat_of_isBroken {l : Lexeme} (broken : l.isBroken) : l.IsFlat := by
  cases l <;> trivial

/-- What is scanned is flat: the value of a constant is one of three, and that of a number is the
number. -/
theorem Lexeme.isFlat_of_scan {c : Char} {cs rest : List Char} {l : Lexeme}
    (h : Lexeme.scan c cs = .ok (l, rest)) : l.IsFlat := by
  have constant {value : Value} {word cs : List Char} (flat : value.1.depth = 0)
      (h : Lexeme.scanConstant value word cs = .ok (l, rest)) : l.IsFlat := by
    unfold Lexeme.scanConstant at h
    split at h
    · cases h
      exact flat
    · contradiction
  unfold Lexeme.scan at h
  split at h
  · rename_i mark found
    cases h
    unfold Lexeme.punctuation? at found
    split at found <;> cases found <;> trivial
  · split at h
    · split at h
      · cases h
        trivial
      · contradiction
    · repeat' split at h
      · exact constant rfl h
      · exact constant rfl h
      · exact constant rfl h
      · unfold Lexeme.scanNumber at h
        repeat' split at h
        all_goals
          first
          | contradiction
          | cases h
            rfl
      · contradiction

/-- All lexemes of a text are flat, the broken one at its end included, so that nesting comes from
the reader's frames alone. -/
theorem isFlat_of_mem_lexemes {line : Nat} {cs : List Char} {l : Nat × Lexeme}
    (mem : l ∈ lexemes line cs) : l.2.IsFlat := by
  fun_induction lexemes line cs with
  | case1 => contradiction
  | case2 line c rest space ih => exact ih mem
  | case3 line c rest space lexeme rest' found ih =>
    rcases List.mem_cons.1 mem with rfl | later
    · exact Lexeme.isFlat_of_scan found
    · exact ih later
  | case4 line c rest space broken found =>
    obtain rfl := List.mem_singleton.1 mem
    exact Lexeme.isFlat_of_isBroken (isBroken_of_scan found)

/-! ### What has been read -/

/-- What a frame holds nests no deeper than the reader goes, below so many open arrays and objects.
The frame itself is one of these. -/
def Frame.Fits (height : Nat) : Frame → Prop
  | .item before => ∀ v ∈ before, v.1.depth + height ≤ maxDepth
  | .member before _ => ∀ m ∈ before.members, m.2.depth + height ≤ maxDepth

/-- No more frames are open than the reader goes deep, and all of them fit. Each frame is at the
height of those outside of it, and one more. -/
def FramesFit : List Frame → Prop
  | [] => True
  | frame :: outer => outer.length < maxDepth ∧ frame.Fits (outer.length + 1) ∧ FramesFit outer

/-- All that has been read nests no deeper than the reader goes. This is the invariant of reading:
it holds at the start, where nothing has been read, and each step keeps it. -/
def State.Fits : State → Prop
  | .value outer => FramesFit outer
  | .items outer => FramesFit (.item [] :: outer)
  | .members outer => FramesFit (.member Object.empty "" :: outer)
  -- No key is known yet, and none matters for the depth.
  | .key before outer => FramesFit (.member before "" :: outer)
  | .colon before name outer => FramesFit (.member before name :: outer)
  | .after v outer => v.1.depth + outer.length ≤ maxDepth ∧ FramesFit outer

/-- If the frames fit, no more of them are open than the reader goes deep, so that a scalar may
still stand inside of them. -/
theorem FramesFit.length_le {outer : List Frame} (fit : FramesFit outer) :
    outer.length ≤ maxDepth := by
  cases outer with
  | nil => exact Nat.zero_le _
  | cons frame outer => exact fit.1

/-- A value behind the items before it: the frame fits with the value put in if the value fits below
the open arrays and objects. -/
theorem FramesFit.item {v : Value} {before : List Value} {outer : List Frame}
    (depth : v.1.depth + (outer.length + 1) ≤ maxDepth)
    (fit : FramesFit (.item before :: outer)) : FramesFit (.item (v :: before) :: outer) :=
  ⟨fit.1, List.forall_mem_cons.2 ⟨depth, fit.2.1⟩, fit.2.2⟩

/-- A value put in among the members before it. The key under which it stands and the key that is
expected next do not matter for the depth. -/
theorem FramesFit.member {v : Value} {before : Object} {key name : String} {outer : List Frame}
    (depth : v.1.depth + (outer.length + 1) ≤ maxDepth)
    (fit : FramesFit (.member before key :: outer)) :
    FramesFit (.member (before.insert key v) name :: outer) := by
  refine ⟨fit.1, fun m mem => ?_, fit.2.2⟩
  rcases mem_insertMember mem with rfl | old
  · exact depth
  · exact fit.2.1 m old

/-- The array of the items that are in a frame that fits: closing the array takes one frame away and
makes one level, so that the sum stays. -/
theorem FramesFit.endArray {before : List Value} {outer : List Frame}
    (fit : FramesFit (.item before :: outer)) :
    (State.after (Value.array before.reverse) outer).Fits := by
  obtain ⟨room, depths, rest⟩ := fit
  have depth : (Value.array before.reverse).1.depth ≤ maxDepth - (outer.length + 1) + 1 := by
    refine depth_array_le_iff.2 fun v mem => ?_
    -- Inside the frame an item may be as deep as the frame's height leaves.
    have fits := depths v (List.mem_reverse.1 mem)
    omega
  exact ⟨by omega, rest⟩

/-- The object of the members that are in a frame that fits; as with arrays one frame less is open
and one level more is read. -/
theorem FramesFit.endObject {before : Object} {name : String} {outer : List Frame}
    (fit : FramesFit (.member before name :: outer)) :
    (State.after (Value.object before) outer).Fits := by
  obtain ⟨room, depths, rest⟩ := fit
  have depth : (Value.object before).1.depth ≤ maxDepth - (outer.length + 1) + 1 := by
    refine depth_object_le_iff.2 fun m mem => ?_
    have fits := depths m mem
    omega
  exact ⟨by omega, rest⟩

/-- The first lexeme of a value keeps what has been read within the depth. Arrays and objects are
opened only if there is room, and this is the one place where the reader checks it. -/
theorem State.Fits.start {outer : List Frame} {l : Lexeme} {next : State}
    (fit : FramesFit outer) (flat : l.IsFlat) (h : State.start outer l = .ok next) :
    next.Fits := by
  have room := fit.length_le
  unfold State.start at h
  split at h
  · rename_i v
    cases h
    have none : v.1.depth = 0 := flat
    exact ⟨by omega, fit⟩
  · cases h
    show 0 + outer.length ≤ maxDepth ∧ FramesFit outer
    exact ⟨by omega, fit⟩
  · split at h
    · -- The check is what the new frame needs to fit.
      rename_i less
      cases h
      exact ⟨less, List.forall_mem_nil _, fit⟩
    · contradiction
  · split at h
    · rename_i less
      cases h
      exact ⟨less, List.forall_mem_nil _, fit⟩
    · contradiction
  all_goals contradiction

/-- One lexeme keeps everything that has been read within the depth. The lexeme has to be flat, as a
scalar is taken over without a check. -/
theorem State.Fits.step {state next : State} {l : Lexeme} (fits : state.Fits) (flat : l.IsFlat)
    (h : state.step l = .ok next) : next.Fits := by
  unfold State.step at h
  -- One case for each rule of the reader, in its order.
  split at h
  · exact State.Fits.start fits flat h
  · cases h
    exact fits.endArray
  · exact State.Fits.start fits flat h
  · cases h
    exact fits.endObject
  · cases h
    exact fits
  · contradiction
  · cases h
    exact fits
  · contradiction
  · cases h
    exact fits
  · cases h
    exact fits.2.item fits.1
  · cases h
    exact (fits.2.item fits.1).endArray
  · cases h
    exact fits.2.member fits.1
  · rename_i v before name outer
    cases h
    have inside : FramesFit (.member (before.insert name v) name :: outer) :=
      fits.2.member fits.1
    exact inside.endObject
  · contradiction

/-- So do any number of flat lexemes, by induction along them. -/
theorem State.Fits.foldlM_step {ls : List Lexeme} {state final : State} (fits : state.Fits)
    (flat : ∀ l ∈ ls, l.IsFlat) (h : ls.foldlM State.step state = .ok final) : final.Fits := by
  -- Lexeme by lexeme, each of which is flat.
  induction ls generalizing state with
  | nil =>
    cases h
    exact fits
  | cons l ls ih =>
    rw [List.foldlM_cons] at h
    obtain ⟨next, stepped, h⟩ := bind_eq_ok_iff.1 h
    obtain ⟨first, others⟩ := List.forall_mem_cons.1 flat
    exact ih (fits.step first stepped) others h

/-- What is read nests no deeper than the reader goes. With `depth_le_of_foldlM_step` a value can be
read from its text if and only if it fits. -/
theorem depth_le_of_read {cs : List Char} {v : Value} (h : read cs = .ok v) :
    v.1.depth ≤ maxDepth := by
  have start : (State.value []).Fits := trivial
  have flat : ∀ l ∈ tokens cs, l.IsFlat := by
    intro l mem
    obtain ⟨pair, inLexemes, rfl⟩ := List.mem_map.1 mem
    exact isFlat_of_mem_lexemes inLexemes
  have final := start.foldlM_step flat (read_eq_ok_iff.1 h)
  exact final.1

/-! ### Trees that are too deep -/

/-- What is read after the tokens of a tree that fits is read behind that tree: these tokens lead
the reader there and nowhere else. -/
theorem foldlM_step_spell_append {j : Json} (h : j.KeysDistinct) {outer : List Frame}
    {ls : List Lexeme} {final : State} (fits : j.depth + outer.length ≤ maxDepth)
    (read : (spell j ++ ls).foldlM State.step (.value outer) = .ok final) :
    ls.foldlM State.step (.after ⟨j, h⟩ outer) = .ok final := by
  rw [List.foldlM_append, foldlM_step_spell j h outer fits] at read
  exact read

/-- An array or object is opened only if there is room for it. The hypothesis is the rule of the
reader for the lexeme, which is the same for both brackets. -/
theorem foldlM_step_open {l : Lexeme} {opened : State} {outer : List Frame} {ls : List Lexeme}
    {final : State}
    (opens : State.start outer l = if outer.length < maxDepth then .ok opened else .error 0)
    (read : (l :: ls).foldlM State.step (.value outer) = .ok final) :
    outer.length < maxDepth ∧ ls.foldlM State.step opened = .ok final := by
  rw [List.foldlM_cons, State.step, opens] at read
  split at read
  · rename_i room
    exact ⟨room, read⟩
  · contradiction

mutual

/-- The tokens that spell a tree are read only if it is not too deep. What comes behind the tree is
arbitrary, as it is for a tree inside another one. -/
theorem depth_le_of_foldlM_step : ∀ (j : Json), j.KeysDistinct →
    ∀ (outer : List Frame) (ls : List Lexeme) (final : State), outer.length ≤ maxDepth →
      (spell j ++ ls).foldlM State.step (.value outer) = .ok final →
        j.depth + outer.length ≤ maxDepth
  | .null, _, outer, _, _, room, _ => Nat.le_trans (Nat.le_of_eq (Nat.zero_add _)) room
  | .bool _, _, outer, _, _, room, _ => Nat.le_trans (Nat.le_of_eq (Nat.zero_add _)) room
  | .number _, _, outer, _, _, room, _ => Nat.le_trans (Nat.le_of_eq (Nat.zero_add _)) room
  | .string _, _, outer, _, _, room, _ => Nat.le_trans (Nat.le_of_eq (Nat.zero_add _)) room
  | .array [], _, outer, ls, final, _, read => by
    obtain ⟨room, _⟩ := foldlM_step_open rfl read
    show 0 + 1 + outer.length ≤ maxDepth
    omega
  | .array (item :: items), h, outer, ls, final, _, read => by
    rw [spell, List.cons_append, List.append_assoc] at read
    -- The first item is in reach of the induction hypothesis once the array is open.
    obtain ⟨room, first⟩ := foldlM_step_open rfl read
    rw [foldlM_step_items] at first
    have depth := depth_le_of_foldlM_step item h.1 (.item [] :: outer) _ _ room first
    have others := depthItems_le_of_foldlM_step items h.2 outer _ _ ls final room
      (foldlM_step_spell_append h.1 depth first)
    rw [List.length_cons] at depth
    rw [Json.depth, depthItems]
    omega
  | .object [], _, outer, ls, final, _, read => by
    obtain ⟨room, _⟩ := foldlM_step_open rfl read
    show 0 + 1 + outer.length ≤ maxDepth
    omega
  | .object ((key, value) :: members), h, outer, ls, final, _, read => by
    rw [spell, List.cons_append, List.cons_append, List.cons_append, List.append_assoc] at read
    obtain ⟨room, first⟩ := foldlM_step_open rfl read
    have depth := depth_le_of_foldlM_step value h.2.1 (.member Object.empty key :: outer) _ _ room
      first
    have others := depthMembers_le_of_foldlM_step members h.2.2 outer _ _ _ ls final room
      (foldlM_step_spell_append h.2.1 depth first)
    rw [List.length_cons] at depth
    rw [Json.depth, depthMembers]
    omega

/-- The tokens of the items after the first are read only if none of them is too deep. The array is
open already, so that there is room for its frame. -/
theorem depthItems_le_of_foldlM_step : ∀ (items : List Json), ItemsDistinct items →
    ∀ (outer : List Frame) (before : List Value) (v : Value) (ls : List Lexeme) (final : State),
      outer.length < maxDepth →
      (spellItems items ++ ls).foldlM State.step (.after v (.item before :: outer)) = .ok final →
        depthItems items + (outer.length + 1) ≤ maxDepth
  | [], _, outer, _, _, _, _, room, _ => by rwa [depthItems, Nat.zero_add]
  | item :: items, h, outer, before, v, ls, final, room, read => by
    -- Behind the comma the item is read as a value of the array.
    have first : (spell item ++ (spellItems items ++ ls)).foldlM State.step
        (.value (.item (v :: before) :: outer)) = .ok final := by
      rw [← List.append_assoc]
      exact read
    have depth := depth_le_of_foldlM_step item h.1 (.item (v :: before) :: outer) _ _ room first
    have others := depthItems_le_of_foldlM_step items h.2 outer _ _ ls final room
      (foldlM_step_spell_append h.1 depth first)
    rw [List.length_cons] at depth
    rw [depthItems]
    omega

/-- The tokens of the members after the first are read only if none of them is too deep. The frame
holds the members before, whatever they are. -/
theorem depthMembers_le_of_foldlM_step : ∀ (members : Members), MembersDistinct members →
    ∀ (outer : List Frame) (before : Object) (key : String) (v : Value) (ls : List Lexeme)
      (final : State), outer.length < maxDepth →
      (spellMembers members ++ ls).foldlM State.step (.after v (.member before key :: outer))
        = .ok final → depthMembers members + (outer.length + 1) ≤ maxDepth
  | [], _, outer, _, _, _, _, _, room, _ => by rwa [depthMembers, Nat.zero_add]
  | (name, value) :: members, h, outer, before, key, v, ls, final, room, read => by
    have first : (spell value ++ (spellMembers members ++ ls)).foldlM State.step
        (.value (.member (before.insert key v) name :: outer)) = .ok final := by
      rw [← List.append_assoc]
      exact read
    have depth := depth_le_of_foldlM_step value h.1 (.member (before.insert key v) name :: outer)
      _ _ room first
    have others := depthMembers_le_of_foldlM_step members h.2 outer _ _ _ ls final room
      (foldlM_step_spell_append h.1 depth first)
    rw [List.length_cons] at depth
    rw [depthMembers]
    omega

end

/-- From tokens that spell a tree nothing but the tree is read. This holds without a bound on the
depth, since a tree that is too deep is not read at all. -/
theorem eq_of_read {cs : List Char} {v w : Value} (h : read cs = .ok v)
    (spelled : tokens cs = spell w.1) : v = w := by
  -- The value and the tree are both what the reader comes to on these tokens.
  have run : (spell w.1 ++ []).foldlM State.step (.value []) = .ok (.after v []) := by
    rw [List.append_nil, ← spelled]
    exact read_eq_ok_iff.1 h
  have depth := depth_le_of_foldlM_step w.1 w.2 [] [] _ (Nat.zero_le _) run
  have whole := foldlM_step_spell_append w.2 depth run
  cases whole
  rfl

end TemplateCoverage.Json
