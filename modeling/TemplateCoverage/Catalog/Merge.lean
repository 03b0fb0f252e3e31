import TemplateCoverage.Catalog

/-!
# `TemplateCoverage.Catalog.Merge`: adding candidates to a catalog

A candidate entry is accepted if it has tags and the catalog covers none of them under the same
event; acceptance looks at the catalog before the merge only. Accepted entries go behind those of
their event. An event that is new takes over the fields of the candidates. Main statements:

* `entries?_append`: appending entries changes the entries of one event only;
* `accepts_iff`: which candidate entries are accepted.
-/

set_option autoImplicit false

namespace TemplateCoverage

/-- How many entries a merge kept, added and left out. -/
structure MergeCounts where
  retained : Nat
  added : Nat
  rejected : Nat
  deriving DecidableEq

/-- The number of entries after a merge. -/
def MergeCounts.total (n : MergeCounts) : Nat := n.retained + n.added

namespace Catalog

/-- Puts entries behind those of an event; without entries nothing changes. -/
def append (c : Catalog) (event : String) (entries : List Entry) : Catalog :=
  if entries.isEmpty then c else c.setEntries event ((c.entries? event).getD [] ++ entries)

/-- Whether a catalog accepts a candidate entry under an event. -/
def accepts (primary : Catalog) (event : String) (e : Entry) : Bool :=
  e.isTagged && !e.overlaps (primary.coveredTags event)

/-- The entries of an event that a catalog accepts. -/
def accepted (primary : Catalog) (event : String) (entries : List Entry) : List Entry :=
  entries.filter (primary.accepts event)

/-- Takes an event's fields over if the event is new and there are any. -/
def adoptFields (primary candidates merged : Catalog) (event : String) : Catalog :=
  -- An event of the catalog keeps its own fields; one of which nothing was accepted stays out.
  if primary.contains event || !merged.contains event then merged
  else
    match candidates.fields? event with
    | some fields => merged.setFields event fields
    | none => merged

/-- Merges the candidates of one event. -/
def mergeEvent (primary candidates merged : Catalog) (candidate : String × List Entry) : Catalog :=
  adoptFields primary candidates
    (merged.append candidate.1 (primary.accepted candidate.1 candidate.2)) candidate.1

/-- The catalog with the accepted candidates added. -/
def merge (primary candidates : Catalog) : Catalog :=
  candidates.events.toList.foldl (mergeEvent primary candidates) primary

/-- The candidate entries that a catalog does not accept, each with its event, in order. -/
def rejected (primary candidates : Catalog) : List (String × Entry) :=
  candidates.events.toList.flatMap fun c =>
    (c.2.filter fun e => !primary.accepts c.1 e).map fun e => (c.1, e)

/-- How many entries a merge keeps, adds and leaves out. -/
def mergeCounts (primary candidates : Catalog) : MergeCounts where
  retained := primary.entryCount
  added := (candidates.events.toList.flatMap fun c => primary.accepted c.1 c.2).length
  rejected := (rejected primary candidates).length

theorem entries?_append {c : Catalog} {event e : String} {entries : List Entry} :
    (c.append event entries).entries? e =
      if e = event ∧ entries ≠ [] then some ((c.entries? event).getD [] ++ entries)
      else c.entries? e := by
  unfold append
  by_cases none : entries = []
  · simp [none]
  · simp [none, entries?_setEntries]

theorem fields?_append {c : Catalog} {event e : String} {entries : List Entry} :
    (c.append event entries).fields? e = c.fields? e := by
  unfold append
  split <;> rfl

/-- Which candidate entries are accepted: those that have tags, none of which is covered. -/
theorem accepts_iff {primary : Catalog} {event : String} {e : Entry} :
    primary.accepts event e ↔
      e.tags ≠ [] ∧ ∀ c ∈ e.combinations event, c ∉ primary.combinations := by
  have free : (!e.overlaps (primary.coveredTags event)) = true ↔
      ¬∃ tag ∈ e.normalizedTags, tag ∈ primary.coveredTags event := by
    rw [← Entry.overlaps_iff, Bool.not_eq_true', Bool.not_eq_true]
  rw [accepts, Bool.and_eq_true, free, Entry.isTagged]
  simp only [mem_combinations, Entry.mem_combinations]
  constructor
  · rintro ⟨tagged, free⟩
    refine ⟨by simpa using tagged, ?_⟩
    -- A covered combination would show its tag among the covered ones.
    rintro c ⟨rfl, mem⟩ covered
    exact free ⟨c.tag, mem, covered⟩
  · rintro ⟨tagged, free⟩
    refine ⟨by simpa using tagged, ?_⟩
    rintro ⟨tag, mem, covered⟩
    -- A covered tag, in whatever spelling, would be a covered combination.
    obtain ⟨raw, inTags, rfl⟩ := List.mem_map.1 mem
    exact free (Combination.of event raw) ⟨rfl, mem⟩ covered

end Catalog

end TemplateCoverage
