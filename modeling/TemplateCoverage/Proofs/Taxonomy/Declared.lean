import Mathlib.Data.List.Forall2
import TemplateCoverage.Proofs.Sorted.Map
import TemplateCoverage.Proofs.Yaml.Document
import TemplateCoverage.Taxonomy.Schema

/-!
# `TemplateCoverage.Proofs.Taxonomy.Declared`: what a taxonomy document declares

The tags that a document declares for its events are said of its nodes alone, without the order in
which they are read, the refusals or the count of aliases. The theorems:

* `Gives.bind`, `Gives.mapM`: a reader in steps gives what its steps give;
* `tags?_of_decode`: a taxonomy has the tags that its document lists, normalised;
* `exists_document_of_ofText`: it expects what the document declares.
-/

set_option autoImplicit false

namespace TemplateCoverage

open Yaml (Document Node)

/-! ### Nodes with aliases followed -/

namespace Yaml.Document

/-- The node itself, or the one that an alias means. An alias of nothing stays one, which no
document that is read has. -/
def content (d : Document) : Node Nat → Node Nat
  | .alias n => (d.target? n).getD (.alias n)
  | node => node

/-- The text of a scalar, as keys and tags are read; no other node has one. -/
def textOf? (d : Document) (node : Node Nat) : Option String :=
  match d.content node with
  | .scalar _ text _ => some text
  | _ => none

/-- The pairs of a mapping; nothing else has any. What is no mapping is refused by the reader, so
that this case does not matter. -/
def pairs (d : Document) (node : Node Nat) : List (Node Nat × Node Nat) :=
  match d.content node with
  | .mapping _ pairs => pairs
  | _ => []

/-- The items of a sequence; nothing else has any, and is refused by the reader unless it stands for
nothing. -/
def items (d : Document) (node : Node Nat) : List (Node Nat) :=
  match d.content node with
  | .sequence _ items => items
  | _ => []

/-- What the first pair with a key holds. A second pair is refused for the keys of a document's own
mappings; events may come twice, and their pairs are looked at in reverse. -/
def valueIn? (d : Document) (key : String) (pairs : List (Node Nat × Node Nat)) :
    Option (Node Nat) :=
  (pairs.find? fun pair => d.textOf? pair.1 = some key).map (·.2)

end Yaml.Document

/-! ### What a document declares -/

namespace Taxonomy

/-- Whether a node stands for nothing: a plain scalar that is empty or one of the null words and has
no tag, or a null word with the tag of null. -/
def isNull (d : Document) (node : Node Nat) : Bool :=
  match d.content node with
  | .scalar p text true =>
    (p.tag = none ∧ (text = "" ∨ text ∈ nullWords)) ∨ (p.tag = some nullTag ∧ text ∈ nullWords)
  | _ => false

/-- The tags that an event's value lists: those under its `types`, unless it or these stand for
nothing. -/
def listed (d : Document) (schema : Node Nat) : List String :=
  if isNull d schema then []
  else
    match d.valueIn? "types" (d.pairs schema) with
    | none => []
    | some types => if isNull d types then [] else (d.items types).filterMap d.textOf?

/-- The pairs of the mapping under `events`, which every taxonomy document has. -/
def eventPairs (d : Document) : List (Node Nat × Node Nat) :=
  match d.valueIn? "events" (d.pairs d.root) with
  | none => []
  | some events => d.pairs events

/-- The value of an event; where a document repeats it, the last one counts, as it does in the
reader's map. -/
def schema? (d : Document) (event : String) : Option (Node Nat) :=
  d.valueIn? event (eventPairs d).reverse

/-- A document declares a tag for an event: the event lists the tag, or it lists none and the tag is
the default one. -/
def Declares (d : Document) (event tag : String) : Prop :=
  ∃ schema, schema? d event = some schema ∧
    (tag ∈ listed d schema ∨ listed d schema = [] ∧ tag = "")

/-! ### Readers -/

variable {α β : Type}

/-- A reader gives a result, after some number of aliases. That number is only for the limit on
them, and no result depends on it. -/
def Gives (x : Decoder α) (a : α) : Prop := ∃ n n', x n = .ok (a, n')

/-- Two steps give what the second one gives for what the first one gives. By this lemma each reader
below is taken apart, step by step. -/
theorem Gives.bind {x : Decoder α} {f : α → Decoder β} {b : β} (h : Gives (x >>= f) b) :
    ∃ a, Gives x a ∧ Gives (f a) b := by
  obtain ⟨n, n', run⟩ := h
  obtain ⟨⟨a, m⟩, first, second⟩ := bind_eq_ok_iff.1 run
  exact ⟨a, ⟨n, m, first⟩, m, n', second⟩

/-- A step that reads nothing gives its value and no other. -/
theorem Gives.pure {a b : α} (h : Gives (pure a) b) : b = a := by
  obtain ⟨n, n', run⟩ := h
  exact (congrArg Prod.fst (Except.ok.inj run)).symm

/-- A refusal gives nothing, so that its branches are closed in what is read. -/
theorem not_gives_refuse {problem : Yaml.Problem} {a : α} : ¬Gives (refuse problem) a := by
  intro ⟨n, n', run⟩
  contradiction

/-- A reader of every item of a list gives a result for each, in their order. The induction is on
the items. -/
theorem Gives.mapM {f : α → Decoder β} {as : List α} {bs : List β} (h : Gives (as.mapM f) bs) :
    List.Forall₂ (fun a b => Gives (f a) b) as bs := by
  induction as generalizing bs with
  | nil =>
    rw [List.mapM_nil] at h
    rw [h.pure]
    exact .nil
  | cons a as ih =>
    rw [List.mapM_cons] at h
    obtain ⟨b, first, rest⟩ := h.bind
    obtain ⟨more, others, last⟩ := rest.bind
    rw [last.pure]
    exact .cons first (ih others)

/-! ### The parts of a document -/

variable {d : Document} {node : Node Nat}

/-- Following an alias gives what it means, and any other node is given as it is. -/
theorem content_of_follow {node' : Node Nat} :
    ∀ {node : Node Nat}, Gives (follow d node) node' → d.content node = node'
  | .alias n, h => by
    obtain ⟨m, m', run⟩ := h
    simp only [follow] at run
    split at run
    · contradiction
    · split at run
      · rename_i found
        cases run
        simp [Document.content, found]
      · contradiction
  | .scalar _ _ _, h => h.pure.symm
  | .sequence _ _, h => h.pure.symm
  | .mapping _ _, h => h.pure.symm

/-- A text that is read is that of the node: nothing but a scalar is read as a text. -/
theorem textOf?_of_textOf {text : String} (h : Gives (textOf d node) text) :
    d.textOf? node = some text := by
  obtain ⟨node', followed, rest⟩ := h.bind
  rw [Document.textOf?, content_of_follow followed]
  -- Whatever is no scalar has been refused.
  cases node' with
  | scalar => rw [rest.pure]
  | _ => exact absurd rest not_gives_refuse

/-- Pairs that are read are those of the node, or none where the reader takes an empty plain scalar
for an empty mapping. -/
theorem pairs_of_pairsOf {pairs : List (Node Nat × Node Nat)} (h : Gives (pairsOf d node) pairs) :
    d.pairs node = pairs := by
  obtain ⟨node', followed, rest⟩ := h.bind
  rw [Document.pairs, content_of_follow followed]
  split at rest
  · exact rest.pure.symm
  · exact rest.pure.symm
  · exact absurd rest not_gives_refuse

/-- Items that are read are those of the node, or none where the reader takes an empty plain scalar
for an empty sequence. -/
theorem items_of_itemsOf {items : List (Node Nat)} (h : Gives (itemsOf d node) items) :
    d.items node = items := by
  obtain ⟨node', followed, rest⟩ := h.bind
  rw [Document.items, content_of_follow followed]
  split at rest
  · exact rest.pure.symm
  · exact rest.pure.symm
  · exact absurd rest not_gives_refuse

/-- What does not stand for nothing is kept with its alias followed. The reader looks at the tag
first and then at the word, and refuses other words with the tag of null. -/
theorem isNull_of_unlessNull {kept : Option (Node Nat)} (h : Gives (unlessNull d node) kept) :
    kept = if isNull d node then none else some (d.content node) := by
  obtain ⟨node', followed, rest⟩ := h.bind
  rw [isNull, content_of_follow followed]
  split at rest
  · rename_i p text
    split at rest
    · rename_i untagged
      rw [rest.pure]
      simp [untagged]
    · rename_i tag tagged
      split at rest
      · -- With another tag even an empty scalar is kept.
        rename_i other
        rw [rest.pure]
        simp [tagged, other]
      · rename_i null
        split at rest
        · rename_i word
          rw [rest.pure]
          simp_all
        · exact absurd rest not_gives_refuse
  · rename_i plain
    rw [rest.pure]
    cases node' with
    | scalar p text isPlain =>
      cases isPlain with
      | true => exact (plain p text rfl).elim
      | false => rfl
    | _ => rfl

/-- So a node either stands for nothing and nothing is kept, or it does not and is kept. -/
theorem unlessNull_cases {kept : Option (Node Nat)} (h : Gives (unlessNull d node) kept) :
    isNull d node = true ∧ kept = none ∨ isNull d node = false ∧ kept = some (d.content node) := by
  rw [isNull_of_unlessNull h]
  cases isNull d node with
  | true => exact .inl ⟨rfl, rfl⟩
  | false => exact .inr ⟨rfl, rfl⟩

/-- The value that is read for a key is the one found before or that of the first pair with the key.
The induction is on the pairs, with what was found generalized. -/
theorem valueIn?_of_valueOf {key : String} {found r : Option (Node Nat)}
    {pairs : List (Node Nat × Node Nat)} (h : Gives (valueOf d key found pairs) r) :
    r = found.or (d.valueIn? key pairs) := by
  induction pairs generalizing found with
  | nil =>
    rw [h.pure]
    exact (Option.or_none).symm
  | cons pair pairs ih =>
    obtain ⟨k, value⟩ := pair
    obtain ⟨name, text, rest⟩ := h.bind
    have named := textOf?_of_textOf text
    split at rest
    · rename_i other
      rw [ih rest, Document.valueIn?, Document.valueIn?, List.find?_cons_of_neg]
      simp [named, other]
    · rename_i same
      have first : d.valueIn? key ((k, value) :: pairs) = some value := by
        rw [Document.valueIn?, List.find?_cons_of_pos]
        · rfl
        · simpa [named] using same
      -- A second pair with the key is refused, so nothing has been found before this one.
      split at rest
      · exact absurd rest not_gives_refuse
      · rename_i fresh
        rw [ih rest, first]
        cases found with
        | none => rfl
        | some _ => exact absurd rfl fresh

/-! ### Events -/

/-- An alias leads to a node that is none, so that following it again changes nothing. This needs a
document that is resolved, as it is if it was read from a text. -/
theorem content_content (resolved : d.IsResolved) :
    ∀ node : Node Nat, d.content (d.content node) = d.content node
  | .alias n => by
    cases found : d.target? n with
    | none => simp [Document.content, found]
    | some target =>
      have noAlias := resolved n target found
      simp only [Document.content, found, Option.getD_some]
      cases target <;> first | rfl | contradiction
  | .scalar _ _ _ => rfl
  | .sequence _ _ => rfl
  | .mapping _ _ => rfl

/-- What is read of a node whose alias has been followed is what is read of the node. -/
theorem pairs_content (resolved : d.IsResolved) : d.pairs (d.content node) = d.pairs node := by
  rw [Document.pairs, content_content resolved]
  rfl

/-- The same holds for the items of a sequence, whose alias was followed when it was asked whether
it stands for nothing. -/
theorem items_content (resolved : d.IsResolved) : d.items (d.content node) = d.items node := by
  rw [Document.items, content_content resolved]
  rfl

/-- Items that are read as texts have these texts, one for each, so that none is left out. -/
theorem filterMap_textOf? {items : List (Node Nat)} {texts : List String}
    (h : List.Forall₂ (fun item text => Gives (textOf d item) text) items texts) :
    items.filterMap d.textOf? = texts := by
  induction h with
  | nil => rfl
  | cons first _ ih => rw [List.filterMap_cons_some (textOf?_of_textOf first), ih]

/-- The tags of an event that does not stand for nothing are those that it lists. Its value is read
with the alias followed already. -/
theorem tags_of_tagsOf (resolved : d.IsResolved) {tags : List String} (some : isNull d node = false)
    (h : Gives (tagsOf d (d.content node)) tags) : tags = listed d node := by
  obtain ⟨pairs, mapping, rest⟩ := h.bind
  obtain ⟨types, value, rest⟩ := rest.bind
  have found : types = d.valueIn? "types" (d.pairs node) := by
    rw [valueIn?_of_valueOf value, ← pairs_of_pairsOf mapping, pairs_content resolved]
    rfl
  rw [listed, some, ← found]
  -- By whether there is a `types`, and whether it stands for nothing.
  cases types with
  | none => exact rest.pure
  | some types =>
    obtain ⟨kept, decided, rest⟩ := rest.bind
    rcases unlessNull_cases decided with ⟨null, rfl⟩ | ⟨null, rfl⟩
    · simpa [null] using rest.pure
    · obtain ⟨items, sequence, rest⟩ := rest.bind
      rw [← filterMap_textOf? rest.mapM, ← items_of_itemsOf sequence, items_content resolved]
      simp [null]

/-- An event is read with its name and the tags that it lists, normalised, whatever the value stands
for. -/
theorem eq_of_eventOf (resolved : d.IsResolved) {pair : Node Nat × Node Nat}
    {s : String × List String} (h : Gives (eventOf d pair) s) :
    d.textOf? pair.1 = some s.1 ∧ s.2 = (listed d pair.2).map Tag.normalize := by
  obtain ⟨event, text, rest⟩ := h.bind
  obtain ⟨kept, decided, rest⟩ := rest.bind
  rcases unlessNull_cases decided with ⟨null, rfl⟩ | ⟨null, rfl⟩
  · rw [rest.pure]
    exact ⟨textOf?_of_textOf text, by simp [listed, null]⟩
  · obtain ⟨tags, read, rest⟩ := rest.bind
    rw [rest.pure, ← tags_of_tagsOf resolved null read]
    exact ⟨textOf?_of_textOf text, rfl⟩

/-- What is read under an event's name is what the first pair with it lists. The reversed pairs are
looked at in this way, so that the last one counts. -/
theorem lookup_eq_of_eventOf (resolved : d.IsResolved) {pairs : List (Node Nat × Node Nat)}
    {read : List (String × List String)} {event : String}
    (h : List.Forall₂ (fun pair s => Gives (eventOf d pair) s) pairs read) :
    read.lookup event =
      (d.valueIn? event pairs).map fun schema => (listed d schema).map Tag.normalize := by
  induction h with
  | nil => rfl
  | @cons pair s pairs read first _ ih =>
    obtain ⟨name, tags⟩ := eq_of_eventOf resolved first
    rw [List.lookup_cons, Document.valueIn?, List.find?_cons]
    -- Both lookups stop at the first pair with the name.
    by_cases eq : event = s.1
    · simp [name, tags, eq]
    · have ne : (event == s.1) = false := beq_false_of_ne eq
      simp only [ne, name, Option.some.injEq, Ne.symm eq, decide_false]
      exact ih

/-- A taxonomy has the tags that its document lists, normalised, and no tags for an event that the
document does not have. -/
theorem tags?_of_decode (resolved : d.IsResolved) {t : Taxonomy} (h : Gives (decode d) t)
    {event : String} :
    t.tags? event = (schema? d event).map fun schema => (listed d schema).map Tag.normalize := by
  obtain ⟨pairs, mapping, rest⟩ := h.bind
  obtain ⟨events, value, rest⟩ := rest.bind
  have found : d.valueIn? "events" (d.pairs d.root) = events := by
    rw [valueIn?_of_valueOf value, pairs_of_pairsOf mapping]
    rfl
  cases events with
  | none => exact absurd rest not_gives_refuse
  | some events =>
    obtain ⟨pairs, mapping, rest⟩ := rest.bind
    obtain ⟨read, each, rest⟩ := rest.bind
    have pairs_eq : eventPairs d = pairs := by
      rw [eventPairs, found]
      exact pairs_of_pairsOf mapping
    rw [rest.pure, schema?, pairs_eq]
    show (SortedMap.ofList read).get? event = _
    -- Of an event that is repeated the map keeps the last value.
    rw [SortedMap.get?_ofList_eq_reverse]
    exact lookup_eq_of_eventOf resolved (List.rel_reverse each.mapM)

/-- A taxonomy expects the combinations that its document declares. An event without tags is
expected with the default tag, as one that lists the empty tag is. -/
theorem mem_expected_of_decode (resolved : d.IsResolved) {t : Taxonomy} (h : Gives (decode d) t)
    {x : Combination} :
    x ∈ t.expected ↔ ∃ tag, Declares d x.event tag ∧ Tag.normalize tag = x.tag := by
  have default : Tag.normalize "" = "" := by decide
  rw [mem_expected]
  refine ⟨?_, ?_⟩
  · intro ⟨tags, declared, expected⟩
    rw [tags?_of_decode resolved h, Option.map_eq_some_iff] at declared
    obtain ⟨schema, found, rfl⟩ := declared
    -- By what is expected: the default tag of an event without tags, or one that it lists.
    rcases expected with ⟨none, isDefault⟩ | ⟨tag, mem, same⟩
    · refine ⟨"", ⟨schema, found, .inr ⟨?_, rfl⟩⟩, default.trans isDefault.symm⟩
      exact List.map_eq_nil_iff.1 none
    · obtain ⟨spelled, listed, rfl⟩ := List.mem_map.1 mem
      refine ⟨spelled, ⟨schema, found, .inl listed⟩, ?_⟩
      exact (Tag.normalize_normalize spelled).symm.trans same
  · rintro ⟨tag, ⟨schema, found, declared⟩, same⟩
    refine ⟨(listed d schema).map Tag.normalize, ?_, ?_⟩
    · rw [tags?_of_decode resolved h, found]
      rfl
    · rcases declared with mem | ⟨none, rfl⟩
      · exact .inr ⟨_, List.mem_map_of_mem mem, (Tag.normalize_normalize tag).trans same⟩
      · exact .inl ⟨List.map_eq_nil_iff.2 none, same.symm.trans default⟩

/-- A text that is a taxonomy is a document, and the taxonomy expects what that declares. So the
verdict of an analysis can be stated on the nodes of the file. -/
theorem exists_document_of_ofText {text : String} {t : Taxonomy} (h : ofText text = .ok t) :
    ∃ d, Document.ofText text.toList = .ok d ∧ ∀ x : Combination,
      x ∈ t.expected ↔ ∃ tag, Declares d x.event tag ∧ Tag.normalize tag = x.tag := by
  obtain ⟨d, read, rest⟩ := bind_eq_ok_iff.1 h
  obtain ⟨⟨t', n⟩, decoded, last⟩ := bind_eq_ok_iff.1 rest
  cases last
  exact ⟨d, read, fun x =>
    mem_expected_of_decode (Document.isResolved_of_ofText read) ⟨0, n, decoded⟩⟩

end Taxonomy

end TemplateCoverage
