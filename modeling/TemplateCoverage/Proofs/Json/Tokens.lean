import TemplateCoverage.Json.Reader
import TemplateCoverage.Proofs.Json.Object

/-!
# `TemplateCoverage.Proofs.Json.Tokens`: reading what spells a tree

Between a text and its value stand the lexemes. Lines matter only where reading fails, so a text
that is read is described by its lexemes without them, its tokens. A tree is spelled by tokens of
its own. The theorems:

* `read_eq_ok_iff`: a text has a value if and only if its tokens lead the reader to that value;
* `foldlM_step_spell`: the tokens that spell a tree lead the reader to the tree, if no more than
  127 arrays and objects are open at once.
-/

set_option autoImplicit false

namespace TemplateCoverage.Json

/-! ### The tokens of a text -/

/-- The lexemes of a text without their lines. The start of the count does not matter for them, and
the first line is taken. -/
def tokens (cs : List Char) : List Lexeme := (lexemes 1 cs).map (·.2)

/-- The line that a text starts on does not matter for its tokens. Both texts are scanned in the
same way, so that the induction is along one of them with the other line arbitrary. -/
theorem map_snd_lexemes (line : Nat) (cs : List Char) :
    (lexemes line cs).map (·.2) = tokens cs := by
  -- It is enough to compare two lines, of which one is the first.
  suffices same : ∀ line', (lexemes line cs).map (·.2) = (lexemes line' cs).map (·.2) from same 1
  fun_induction lexemes line cs with
  | case1 line => simp [lexemes_nil]
  | case2 line c rest space ih =>
    intro line'
    rw [lexemes, if_pos space]
    exact ih _
  | case3 line c rest space lexeme rest' found ih =>
    intro line'
    rw [lexemes_scan (Bool.not_eq_true _ ▸ space) found, List.map_cons, List.map_cons, ih line']
  | case4 line c rest space broken found =>
    intro line'
    rw [lexemes, if_neg space]
    split <;> simp_all

/-- A text without characters has no tokens. -/
@[simp] theorem tokens_nil : tokens [] = [] := by simp [tokens, lexemes_nil]

/-- A blank in front has no token. -/
theorem tokens_space {c : Char} {cs : List Char} (space : isSpace c) :
    tokens (c :: cs) = tokens cs := by
  rw [tokens, lexemes, if_pos space, map_snd_lexemes]

/-- Blanks have no tokens, however many of them stand in front of a text. -/
theorem tokens_blanks {blanks cs : List Char} (space : ∀ c ∈ blanks, isSpace c) :
    tokens (blanks ++ cs) = tokens cs := by
  induction blanks with
  | nil => rfl
  | cons c blanks ih =>
    rw [List.cons_append, tokens_space (space c (by simp))]
    exact ih fun d hd => space d (by simp [hd])

/-- The first lexeme of a text is its first token, and the others are those of what is left behind
that lexeme. -/
theorem tokens_scan {c : Char} {cs rest : List Char} {lexeme : Lexeme}
    (space : isSpace c = false) (found : Lexeme.scan c cs = .ok (lexeme, rest)) :
    tokens (c :: cs) = lexeme :: tokens rest := by
  rw [tokens, lexemes_scan space found, List.map_cons, map_snd_lexemes]

/-- Reading goes well with lines if and only if it does without them. Lines are only passed on to
failures, so that a run without failure is a plain fold of steps. -/
theorem run_eq_ok_iff {state final : State} {ls : List (Nat × Lexeme)} :
    state.run ls = .ok final ↔ (ls.map (·.2)).foldlM State.step state = .ok final := by
  induction ls generalizing state with
  | nil => rfl
  | cons l ls ih =>
    obtain ⟨line, lexeme⟩ := l
    rw [State.run, List.map_cons, List.foldlM_cons]
    cases state.step lexeme with
    | ok next => exact ih
    | error lines => simp [bind, Except.bind]

/-- A text has a value if and only if its tokens lead the reader to that value, with no array or
object left open. -/
theorem read_eq_ok_iff {cs : List Char} {v : Value} :
    read cs = .ok v ↔ (tokens cs).foldlM State.step (.value []) = .ok (.after v []) := by
  rw [tokens, ← run_eq_ok_iff, read]
  split
  · rename_i w read
    simp [read]
  · -- The lexemes are read, but they leave the reader inside a value.
    rename_i state other read
    simp only [read, reduceCtorEq, Except.ok.injEq, false_iff]
    exact other v
  · rename_i line stopped
    simp [stopped]

/-! ### Broken lexemes -/

/-- Whether a lexeme is malformed, or no lexeme at all. The scan makes such lexemes where a text
goes wrong, and puts them last. -/
def Lexeme.isBroken : Lexeme → Bool
  | .brokenText _ => true
  | .brokenScalar _ => true
  | .stray => true
  | _ => false

/-- A broken lexeme takes the reader nowhere, whatever its state. -/
theorem State.step_of_isBroken {l : Lexeme} (broken : l.isBroken) (state next : State) :
    state.step l ≠ .ok next := by
  cases l <;> first | contradiction | skip
  all_goals
    cases state with
    | after v outer => rcases outer with _ | ⟨_ | _, _⟩ <;> simp [step]
    | _ => simp [step, start]

/-- What the scan fails with is a broken lexeme, in each of its branches: texts, constants, numbers,
and characters that start nothing. -/
theorem isBroken_of_scan {c : Char} {cs : List Char} {l : Lexeme}
    (h : Lexeme.scan c cs = .error l) : l.isBroken := by
  -- A constant that is misspelled is a broken scalar, whichever constant it is.
  have constant {value : Value} {word cs : List Char}
      (h : Lexeme.scanConstant value word cs = .error l) : l.isBroken := by
    unfold Lexeme.scanConstant at h
    split at h
    · contradiction
    · simp only [Except.error.injEq] at h
      rw [← h]
      rfl
  unfold Lexeme.scan at h
  split at h
  · contradiction
  · split at h
    · split at h
      · contradiction
      · simp only [Except.error.injEq] at h
        rw [← h]
        rfl
    · repeat' split at h
      · exact constant h
      · exact constant h
      · exact constant h
      · unfold Lexeme.scanNumber at h
        repeat' split at h
        all_goals
          first
          | contradiction
          | simp only [Except.error.injEq] at h
            rw [← h]
            rfl
      · simp only [Except.error.injEq] at h
        rw [← h]
        rfl

/-- Every character but a blank leaves a token behind, if only a broken one. So a text without
tokens is blank. -/
theorem tokens_ne_nil {c : Char} {cs : List Char} (space : isSpace c = false) :
    tokens (c :: cs) ≠ [] := by
  rw [tokens, lexemes, if_neg (by simp [space])]
  split <;> simp

/-- A text that starts with no lexeme is one broken token, whatever else is in it. -/
theorem tokens_broken {c : Char} {cs : List Char} {broken : Lexeme} (space : isSpace c = false)
    (found : Lexeme.scan c cs = .error broken) : tokens (c :: cs) = [broken] := by
  rw [tokens, lexemes, if_neg (by simp [space])]
  split <;> simp_all

/-- What the reader gets through starts with a lexeme that is not broken, and the reader goes
through what is left of the text from the state behind that lexeme. -/
theorem exists_scan_of_foldlM_step {c : Char} {cs : List Char} {state final : State}
    (space : isSpace c = false)
    (h : (tokens (c :: cs)).foldlM State.step state = .ok final) :
    ∃ l rest next, Lexeme.scan c cs = .ok (l, rest) ∧ state.step l = .ok next ∧
      (tokens rest).foldlM State.step next = .ok final := by
  cases found : Lexeme.scan c cs with
  | error broken =>
    rw [tokens_broken space found, List.foldlM_cons] at h
    -- No state takes a broken lexeme, so that reading stops there.
    cases stepped : state.step broken with
    | error lines =>
      rw [stepped] at h
      contradiction
    | ok next => exact absurd stepped (State.step_of_isBroken (isBroken_of_scan found) state next)
  | ok scanned =>
    obtain ⟨l, rest⟩ := scanned
    rw [tokens_scan space found, List.foldlM_cons] at h
    cases stepped : state.step l with
    | error lines =>
      rw [stepped] at h
      contradiction
    | ok next =>
      rw [stepped] at h
      exact ⟨l, rest, next, rfl, stepped, h⟩

/-! ### The tokens of a tree -/

mutual

/-- The tokens that spell a tree. The first item and the first member are treated apart from the
others, in front of which commas stand. -/
def spell : Json → List Lexeme
  | .null => [.scalar Value.null]
  | .bool b => [.scalar (Value.bool b)]
  | .number n => [.scalar ⟨.number n, trivial⟩]
  | .string s => [.text s]
  | .array [] => [.beginArray, .endArray]
  | .array (item :: items) => .beginArray :: (spell item ++ spellItems items)
  | .object [] => [.beginObject, .endObject]
  | .object ((key, value) :: members) =>
    .beginObject :: .text key :: .colon :: (spell value ++ spellMembers members)

/-- The tokens of the items after the first, and the end of the array. Each of the items has a comma
in front. -/
def spellItems : List Json → List Lexeme
  | [] => [.endArray]
  | item :: items => .comma :: (spell item ++ spellItems items)

/-- The tokens of the members after the first, and the end of the object. Each has a comma in front,
then its key and the colon. -/
def spellMembers : Members → List Lexeme
  | [] => [.endObject]
  | (key, value) :: members =>
    .comma :: .text key :: .colon :: (spell value ++ spellMembers members)

end

mutual

/-- No lexeme that spells a tree is broken, so that comments and blanks can be put between them
without a change to what they are. -/
theorem not_isBroken_spell : ∀ (j : Json), ∀ l ∈ spell j, ¬l.isBroken
  | .null => by simp [spell, Lexeme.isBroken]
  | .bool _ => by simp [spell, Lexeme.isBroken]
  | .number _ => by simp [spell, Lexeme.isBroken]
  | .string _ => by simp [spell, Lexeme.isBroken]
  | .array [] => by simp [spell, Lexeme.isBroken]
  | .array (item :: items) => by
    refine List.forall_mem_cons.2 ⟨nofun, List.forall_mem_append.2 ⟨?_, ?_⟩⟩
    · exact not_isBroken_spell item
    · exact not_isBroken_spellItems items
  | .object [] => by simp [spell, Lexeme.isBroken]
  | .object ((_, value) :: members) => by
    refine List.forall_mem_cons.2 ⟨nofun, List.forall_mem_cons.2 ⟨nofun, ?_⟩⟩
    refine List.forall_mem_cons.2 ⟨nofun, List.forall_mem_append.2 ⟨?_, ?_⟩⟩
    · exact not_isBroken_spell value
    · exact not_isBroken_spellMembers members

/-- Neither is one that spells the items after the first. -/
theorem not_isBroken_spellItems : ∀ (items : List Json), ∀ l ∈ spellItems items, ¬l.isBroken
  | [] => by simp [spellItems, Lexeme.isBroken]
  | item :: items => by
    refine List.forall_mem_cons.2 ⟨nofun, List.forall_mem_append.2 ⟨?_, ?_⟩⟩
    · exact not_isBroken_spell item
    · exact not_isBroken_spellItems items

/-- Neither is one that spells the members after the first; keys and colons are whole lexemes too.
-/
theorem not_isBroken_spellMembers : ∀ (members : Members), ∀ l ∈ spellMembers members, ¬l.isBroken
  | [] => by simp [spellMembers, Lexeme.isBroken]
  | (_, value) :: members => by
    refine List.forall_mem_cons.2 ⟨nofun, List.forall_mem_cons.2 ⟨nofun, ?_⟩⟩
    refine List.forall_mem_cons.2 ⟨nofun, List.forall_mem_append.2 ⟨?_, ?_⟩⟩
    · exact not_isBroken_spell value
    · exact not_isBroken_spellMembers members

end

/-- No tree is spelled by something that could end an array, and none by nothing, so that an array
with an item is never taken to be empty. -/
theorem exists_spell_eq_cons (j : Json) : ∃ l ls, spell j = l :: ls ∧ l ≠ .endArray := by
  unfold spell
  split <;> exact ⟨_, _, rfl, by simp⟩

/-- After an array was opened its first item is read like any value in it, since that item does not
start with the end of the array. -/
theorem foldlM_step_items (j : Json) (rest : List Lexeme) (outer : List Frame) :
    (spell j ++ rest).foldlM State.step (.items outer)
      = (spell j ++ rest).foldlM State.step (.value (.item [] :: outer)) := by
  obtain ⟨l, ls, eq, ne⟩ := exists_spell_eq_cons j
  rw [eq, List.cons_append, List.foldlM_cons, List.foldlM_cons]
  have starts : State.step (.items outer) l = State.start (.item [] :: outer) l := by
    cases l <;> first | rfl | exact absurd rfl ne
  rw [starts]
  rfl

/-- What was read last stands behind what was read before it: the reader keeps items with the last
one first, and the array has them in order. -/
private theorem map_reverse_append_cons {α β : Type} (f : α → β) (a : α) (before : List α)
    (items : List β) :
    before.reverse.map f ++ f a :: items = (a :: before).reverse.map f ++ items := by
  simp

/-- A member goes to the end if it stands behind the others in an object: the keys of that object
are distinct, so that the member's key is not among those before. -/
theorem members_insert_of_object {before : Object} {key : String} {v w : Value} {rest : Members}
    (hw : w.1 = .object (before.members ++ (key, v.1) :: rest)) :
    (before.insert key v).members = before.members ++ [(key, v.1)] := by
  have distinct := w.2
  rw [hw] at distinct
  refine insertMember_of_not_mem ?_
  intro old
  -- The keys of the whole object are distinct, of which this one and those before are a part.
  have apart := distinct.1
  simp only [keys, List.map_append, List.map_cons, List.nodup_append, List.mem_cons] at apart old
  exact apart.2.2 key old key (.inl rfl) rfl

mutual

/-- The tokens that spell a tree lead the reader to the tree, below frames that leave it enough
room. One case for each constructor; arrays and objects go on with the lemmas on items and members.
-/
theorem foldlM_step_spell : ∀ (j : Json) (h : j.KeysDistinct) (outer : List Frame),
    j.depth + outer.length ≤ maxDepth →
      (spell j).foldlM State.step (.value outer) = .ok (.after ⟨j, h⟩ outer)
  | .null, _, _, _ => rfl
  | .bool _, _, _, _ => rfl
  | .number _, _, _, _ => rfl
  | .string _, _, _, _ => rfl
  | .array [], h, outer, fits => by
    have room : outer.length < maxDepth := by
      simp only [depth] at fits
      omega
    simp only [spell, List.foldlM_cons, State.step, State.start, if_pos room]
    rfl
  | .array (item :: items), h, outer, fits => by
    simp only [depth, depthItems] at fits
    have room : outer.length < maxDepth := by omega
    have first := foldlM_step_spell item h.1 (.item [] :: outer) (by simp; omega)
    have others := foldlM_step_spellItems items outer [] ⟨item, h.1⟩ ⟨.array (item :: items), h⟩
      rfl (by omega)
    rw [spell, List.foldlM_cons]
    simp only [State.step, State.start, if_pos room]
    show (spell item ++ spellItems items).foldlM State.step (.items outer) = _
    -- The first item is read, and the reader is behind it in the frame of the array.
    rw [foldlM_step_items, List.foldlM_append, first]
    exact others
  | .object [], h, outer, fits => by
    have room : outer.length < maxDepth := by
      simp only [depth] at fits
      omega
    simp only [spell, List.foldlM_cons, State.step, State.start, if_pos room]
    rfl
  | .object ((key, value) :: members), h, outer, fits => by
    simp only [depth, depthMembers] at fits
    have room : outer.length < maxDepth := by omega
    have first := foldlM_step_spell value h.2.1 (.member Object.empty key :: outer)
      (by simp; omega)
    have others := foldlM_step_spellMembers members outer Object.empty key ⟨value, h.2.1⟩
      ⟨.object ((key, value) :: members), h⟩ rfl (by omega)
    rw [spell, List.foldlM_cons]
    simp only [State.step, State.start, if_pos room]
    show (spell value ++ spellMembers members).foldlM State.step
      (.value (.member Object.empty key :: outer)) = _
    rw [List.foldlM_append, first]
    exact others

/-- The tokens of the items after the first lead to the whole array. The items before are in the
frame, and the array is told by these, the value just read and the items to come. -/
theorem foldlM_step_spellItems : ∀ (items : List Json) (outer : List Frame) (before : List Value)
    (v w : Value), w.1 = .array (((v :: before).reverse.map (·.1)) ++ items) →
    depthItems items + (outer.length + 1) ≤ maxDepth →
      (spellItems items).foldlM State.step (.after v (.item before :: outer)) = .ok (.after w outer)
  | [], outer, before, v, w, hw, _ => by
    have whole : Value.array (v :: before).reverse = w := Subtype.ext (by
      rw [hw, List.append_nil]
      rfl)
    rw [← whole]
    rfl
  | item :: items, outer, before, v, w, hw, fits => by
    simp only [depthItems] at fits
    -- The item is a part of the array, which has distinct keys throughout.
    have distinct : item.KeysDistinct := by
      have all := w.2
      rw [hw] at all
      exact itemsDistinct_iff.1 all item (by simp)
    have first := foldlM_step_spell item distinct (.item (v :: before) :: outer) (by simp; omega)
    have others := foldlM_step_spellItems items outer (v :: before) ⟨item, distinct⟩ w
      (hw.trans (congrArg Json.array
        (map_reverse_append_cons _ (⟨item, distinct⟩ : Value) _ items)))
      (by omega)
    rw [spellItems, List.foldlM_cons]
    show (spell item ++ spellItems items).foldlM State.step
      (.value (.item (v :: before) :: outer)) = _
    rw [List.foldlM_append, first]
    exact others

/-- The tokens of the members after the first lead to the whole object. That its keys are distinct
comes with the object itself, so that each member goes to the end of those before. -/
theorem foldlM_step_spellMembers : ∀ (members : Members) (outer : List Frame) (before : Object)
    (key : String) (v w : Value),
    w.1 = .object (before.members ++ (key, v.1) :: members) →
    depthMembers members + (outer.length + 1) ≤ maxDepth →
      (spellMembers members).foldlM State.step (.after v (.member before key :: outer))
        = .ok (.after w outer)
  | [], outer, before, key, v, w, hw, _ => by
    have inserted := members_insert_of_object hw
    have whole : Value.object (before.insert key v) = w := Subtype.ext (by
      rw [hw]
      exact congrArg Json.object inserted)
    rw [← whole]
    rfl
  | (name, value) :: members, outer, before, key, v, w, hw, fits => by
    simp only [depthMembers] at fits
    have inserted := members_insert_of_object hw
    have distinct : value.KeysDistinct := by
      have all := w.2
      rw [hw] at all
      exact membersDistinct_iff.1 all.2 (name, value) (by simp)
    have first := foldlM_step_spell value distinct (.member (before.insert key v) name :: outer)
      (by simp; omega)
    have others := foldlM_step_spellMembers members outer (before.insert key v) name
      ⟨value, distinct⟩ w (by rw [inserted, hw]; simp) (by omega)
    rw [spellMembers, List.foldlM_cons]
    show (spell value ++ spellMembers members).foldlM State.step
      (.value (.member (before.insert key v) name :: outer)) = _
    rw [List.foldlM_append, first]
    exact others

end

end TemplateCoverage.Json
