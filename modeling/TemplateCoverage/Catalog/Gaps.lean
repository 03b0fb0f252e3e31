import TemplateCoverage.Catalog

/-!
# `TemplateCoverage.Catalog.Gaps`: what one catalog lacks beside another

The events of a catalog that another catalog does not have, and those that it has without some of
their tags. Main statements:

* `isEmpty_iff`: there is no gap if and only if neither list holds an event.
-/

set_option autoImplicit false

namespace TemplateCoverage

/-- An event with tags in the spelling of documents. -/
structure Gap where
  event : String
  tags : List String
  deriving DecidableEq

/-- What a catalog lacks beside another one. -/
structure Gaps where
  /-- The events that it does not have, with all their tags. -/
  absent : List Gap
  /-- The events that it has, with the tags that are not covered. -/
  incomplete : List Gap
  deriving DecidableEq

namespace Gaps

/-- Whether nothing is lacking. -/
def isEmpty (g : Gaps) : Bool := g.absent.isEmpty && g.incomplete.isEmpty

theorem isEmpty_iff {g : Gaps} : g.isEmpty ↔ g.absent = [] ∧ g.incomplete = [] := by
  simp [isEmpty, List.isEmpty_iff]

end Gaps

namespace Catalog

/-- The gap of an event with normalised tags. -/
def gap (event : String) (tags : SortedSet String) : Gap := ⟨event, tags.toList.map Tag.spell⟩

/-- The tags that a catalog covers under an event and another one does not. -/
def lackingTags (primary secondary : Catalog) (event : String) : SortedSet String :=
  (primary.coveredTags event).diff (secondary.coveredTags event)

/-- What the second catalog lacks beside the first. -/
def gaps (primary secondary : Catalog) : Gaps where
  absent := (primary.events.keys.filter (!secondary.contains ·)).map fun event =>
    gap event (primary.coveredTags event)
  incomplete := ((primary.events.keys.filter (secondary.contains ·)).filter fun event =>
      !(lackingTags primary secondary event).isEmpty).map fun event =>
    gap event (lackingTags primary secondary event)

end Catalog

end TemplateCoverage
