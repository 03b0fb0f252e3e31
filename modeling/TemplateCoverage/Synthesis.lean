import TemplateCoverage.Card
import TemplateCoverage.Catalog

/-!
# `TemplateCoverage.Synthesis`: entries for combinations that are missing

A synthesizer makes an entry for an event with a tag in a locale. An entry is refused unless its
only tag is the one asked for; one refused entry refuses them all. Main statements:

* `check_eq_ok_iff`: an entry is accepted if and only if it covers what was asked for, once.
-/

set_option autoImplicit false

namespace TemplateCoverage

/-- Makes an entry for an event with a normalised tag. -/
abbrev Synthesizer := String → String → Locale → Entry

namespace Synthesis

/-- Refuses an entry that does not cover exactly the combination asked for. -/
def check (c : Combination) (e : Entry) : Except EntryError Unit :=
  match e.tags with
  | [tag] =>
    if Tag.normalize tag = c.tag then .ok ()
    else .error (.otherTag c.event c.tag (Tag.normalize tag))
  | tags => .error (.tagCount c.event tags.length)

/-- The entry made for a combination, unless it is refused. -/
def entryFor (make : Synthesizer) (locale : Locale) (c : Combination) :
    Except EntryError (Combination × Entry) := do
  check c (make c.event c.tag locale)
  return (c, make c.event c.tag locale)

/-- The catalog of the entries made for the missing combinations, in order. -/
def candidates (make : Synthesizer) (missing : SortedSet Combination) (locale : Locale) :
    Except EntryError Catalog := do
  return Catalog.ofPairs (← missing.toList.mapM (entryFor make locale))

/-- The combinations for which entries are accepted before the first refusal. -/
def acceptedFor (make : Synthesizer) (missing : SortedSet Combination) (locale : Locale) :
    List Combination :=
  missing.toList.takeWhile fun c => (entryFor make locale c).isOk

/-- An entry is accepted if and only if it covers what was asked for, once. -/
theorem check_eq_ok_iff {c : Combination} {e : Entry} :
    check c e = .ok () ↔ e.combinations c.event = [c] := by
  unfold check Entry.combinations
  split
  · rename_i tag only
    simp only [only, List.map_cons, List.map_nil, List.cons.injEq, and_true]
    constructor
    · intro ok
      split at ok
      · rename_i same
        exact Combination.ext rfl same
      · simp at ok
    · intro same
      exact if_pos (congrArg Combination.tag same)
  · rename_i other
    simp only [reduceCtorEq, false_iff]
    intro one
    obtain ⟨tag, tags, _⟩ := List.map_eq_singleton_iff.1 one
    exact other tag tags

end Synthesis

end TemplateCoverage
