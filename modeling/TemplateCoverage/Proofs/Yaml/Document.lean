import TemplateCoverage.Proofs.Except
import TemplateCoverage.Yaml.Document

/-!
# `TemplateCoverage.Proofs.Yaml.Document`: what aliases mean

Only scalars, sequences and mappings bear anchors, so that following an alias once leads to one of
them. The theorems:

* `areContent_of_resolve`: the nodes that take numbers are no aliases;
* `isResolved_of_ofText`: in a document that is read, no alias means another alias.
-/

set_option autoImplicit false

namespace TemplateCoverage.Yaml

/-- Whether a node is an alias, which stands for another node and has no content of its own. -/
def Node.isAlias {α : Type} : Node α → Bool
  | .alias _ => true
  | _ => false

namespace Document

/-- No node among those that took numbers is an alias. These are the nodes that later aliases can
mean. -/
def AreContent (marked : List (Nat × Node Nat)) : Prop := ∀ m ∈ marked, m.2.isAlias = false

/-- No nodes at all are no aliases. -/
theorem AreContent.nil : AreContent [] := nofun

/-- The nodes of two parts of a document are no aliases if those of each part are none. -/
theorem AreContent.append {first second : List (Nat × Node Nat)} (hf : AreContent first)
    (hs : AreContent second) : AreContent (first ++ second) := List.forall_mem_append.2 ⟨hf, hs⟩

/-- A node with content takes a number if it has an anchor, and it is no alias. -/
theorem areContent_mark (anchors : Anchors) (name : Option String) {node : Node Nat}
    (content : node.isAlias = false) : AreContent (mark anchors name node) := by
  cases name with
  | none => exact .nil
  | some name => exact List.forall_mem_singleton.2 content

mutual

/-- The nodes that take numbers are no aliases. One case for each kind of node: an alias takes no
number, and the parts of the others are covered by the lemmas on items and pairs. -/
theorem areContent_of_resolve {anchors : Anchors} {r : Resolved (Node Nat)} :
    ∀ node : Node String, resolve anchors node = .ok r → AreContent r.marked
  | .alias name, h => by
    rw [resolve] at h
    split at h
    · cases h
      exact .nil
    · contradiction
  | .scalar p text plain, h => by
    rw [resolve] at h
    cases h
    exact areContent_mark anchors p.anchor rfl
  | .sequence p items, h => by
    rw [resolve] at h
    obtain ⟨inner, resolved, eq⟩ := bind_eq_ok_iff.1 h
    cases eq
    exact (areContent_mark anchors p.anchor rfl).append (areContent_of_resolveItems items resolved)
  | .mapping p pairs, h => by
    rw [resolve] at h
    obtain ⟨inner, resolved, eq⟩ := bind_eq_ok_iff.1 h
    cases eq
    exact (areContent_mark anchors p.anchor rfl).append (areContent_of_resolvePairs pairs resolved)

/-- The same for the items of a sequence, whose anchors are known to the items behind them. -/
theorem areContent_of_resolveItems {anchors : Anchors} {r : Resolved (List (Node Nat))} :
    ∀ items : List (Node String), resolveItems anchors items = .ok r → AreContent r.marked
  | [], h => by
    rw [resolveItems] at h
    cases h
    exact .nil
  | item :: items, h => by
    rw [resolveItems] at h
    obtain ⟨first, resolved, rest⟩ := bind_eq_ok_iff.1 h
    obtain ⟨more, resolved', eq⟩ := bind_eq_ok_iff.1 rest
    cases eq
    exact (areContent_of_resolve item resolved).append (areContent_of_resolveItems items resolved')

/-- The same for the pairs of a mapping, where both the key and the value may have anchors inside.
-/
theorem areContent_of_resolvePairs {anchors : Anchors} {r : Resolved (List (Node Nat × Node Nat))} :
    ∀ pairs : List (Node String × Node String), resolvePairs anchors pairs = .ok r →
      AreContent r.marked
  | [], h => by
    rw [resolvePairs] at h
    cases h
    exact .nil
  | (key, value) :: pairs, h => by
    rw [resolvePairs] at h
    obtain ⟨first, resolved, rest⟩ := bind_eq_ok_iff.1 h
    obtain ⟨second, resolved', rest⟩ := bind_eq_ok_iff.1 rest
    obtain ⟨more, resolved'', eq⟩ := bind_eq_ok_iff.1 rest
    cases eq
    have pair := (areContent_of_resolve key resolved).append (areContent_of_resolve value resolved')
    exact pair.append (areContent_of_resolvePairs pairs resolved'')

end

/-- No alias of a document means another alias, so that one step leads from an alias to its content.
-/
def IsResolved (d : Document) : Prop := ∀ n node, d.target? n = some node → node.isAlias = false

/-- A document that is read is resolved: an alias means a node that took a number. -/
theorem isResolved_of_ofText {text : List Char} {d : Document} (h : ofText text = .ok d) :
    d.IsResolved := by
  intro n node found
  obtain ⟨tokens, _, rest⟩ := bind_eq_ok_iff.1 h
  obtain ⟨⟨root, left⟩, _, last⟩ := bind_eq_ok_iff.1 rest
  dsimp only at last
  split at last
  · obtain ⟨resolved, result, eq⟩ := bind_eq_ok_iff.1 last
    cases eq
    -- What an alias means is found among the nodes with numbers.
    have mem : (n, node) ∈ resolved.marked.reverse := by
      obtain ⟨before, after, eq, -⟩ := List.lookup_eq_some_iff.1 found
      rw [show resolved.marked.reverse = before ++ (n, node) :: after from eq]
      exact List.mem_append_right before List.mem_cons_self
    exact areContent_of_resolve root result _ (List.mem_reverse.1 mem)
  · contradiction

end Document

end TemplateCoverage.Yaml
