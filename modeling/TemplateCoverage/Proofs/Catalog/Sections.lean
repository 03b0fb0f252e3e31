import TemplateCoverage.Catalog
import TemplateCoverage.Proofs.Sorted.Map

/-!
# `TemplateCoverage.Proofs.Catalog.Sections`: catalogs and their sections

A document holds a catalog as one section for each event. The theorems:

* `Catalog.ext`: catalogs with the same entries and fields under every event are equal;
* `entries?_ofSections` / `fields?_ofSections`: what the catalog of sections holds;
* `sections_ofSections`: the catalog of sections has these sections;
* `ofSections_sections`: a catalog is the catalog of its sections if every event with fields has an
  entry list.
-/

set_option autoImplicit false

namespace TemplateCoverage.Catalog

/-- Catalogs with the same entries and fields under every event are equal, as the maps that they are
made of are told by their lookups. -/
theorem ext {c d : Catalog} (entries : ∀ event, c.entries? event = d.entries? event)
    (fields : ∀ event, c.fields? event = d.fields? event) : c = d := by
  obtain ⟨cEvents, cFields, _⟩ := c
  obtain ⟨dEvents, dFields, _⟩ := d
  have events : cEvents = dEvents := SortedMap.ext entries
  have others : cFields = dFields := SortedMap.ext fields
  subst events
  subst others
  rfl

/-- A catalog contains an event if and only if it has an entry list for it, which may be empty. -/
theorem contains_iff {c : Catalog} {event : String} :
    c.contains event ↔ ∃ entries, c.entries? event = some entries := by
  rw [contains, SortedMap.contains, Option.isSome_iff_exists]
  rfl

/-- A catalog does not contain an event if and only if it has no entry list for it. -/
theorem contains_eq_false_iff {c : Catalog} {event : String} :
    c.contains event = false ↔ c.entries? event = none := by
  rw [← Bool.not_eq_true, contains_iff]
  cases c.entries? event <;> simp

/-- The fields of an event are some, if it has any: the catalog keeps none without members. -/
theorem members_ne_nil_of_fields? {c : Catalog} {event : String} {fields : Json.Object}
    (h : c.fields? event = some fields) : fields.members ≠ [] :=
  c.fields_ne_nil (event, fields) (SortedMap.get?_eq_some_iff.1 h)

/-! ### The catalog of sections -/

/-- One section more in a catalog: its entries are set and then its fields. -/
def addSection (c : Catalog) (s : String × Section) : Catalog :=
  (c.setEntries s.1 s.2.entries).setFields s.1 s.2.fields

/-- The catalog of sections is made section by section, in the order of their events. -/
theorem ofSections_eq (sections : SortedMap String Section) :
    ofSections sections = sections.toList.foldl addSection empty := rfl

/-- One section more sets the entries of its event only, instead of those that the event had. -/
theorem entries?_addSection {c : Catalog} {s : String × Section} {event : String} :
    (c.addSection s).entries? event =
      if event = s.1 then some s.2.entries else c.entries? event := by
  rw [addSection, entries?_setFields, entries?_setEntries]

/-- One section more sets the fields of its event only, and none that have no members. -/
theorem fields?_addSection {c : Catalog} {s : String × Section} {event : String} :
    (c.addSection s).fields? event =
      if event = s.1 then (if s.2.fields.members = [] then none else some s.2.fields)
      else c.fields? event := by
  rw [addSection, fields?_setFields, fields?_setEntries]

/-- The catalog of sections has the entries of the section under each event. -/
theorem entries?_ofSections {sections : SortedMap String Section} {event : String} :
    (ofSections sections).entries? event = (sections.get? event).map (·.entries) := by
  rw [ofSections_eq, SortedMap.get?, SortedMap.foldl_keyed entries? (fun _ s _ => some s.entries)
    (fun _ _ _ => entries?_addSection) sections.nodup_keys]
  cases sections.toList.lookup event <;> rfl

/-- The catalog of sections has the fields of the section under each event, if these have members.
-/
theorem fields?_ofSections {sections : SortedMap String Section} {event : String} :
    (ofSections sections).fields? event =
      (sections.get? event).bind fun s =>
        if s.fields.members = [] then none else some s.fields := by
  rw [ofSections_eq, SortedMap.get?, SortedMap.foldl_keyed fields?
    (fun _ s _ => if s.fields.members = [] then none else some s.fields)
    (fun _ _ _ => fields?_addSection) sections.nodup_keys]
  cases sections.toList.lookup event <;> rfl

/-- The section of an event has its entries and its fields, or fields without members if it has
none. -/
theorem get?_sections {c : Catalog} {event : String} :
    c.sections.get? event = (c.entries? event).map fun entries =>
      ⟨entries, (c.fields? event).getD Json.Object.empty⟩ :=
  SortedMap.get?_map

/-- The catalog of sections has these sections, so that nothing is lost on this way. -/
theorem sections_ofSections (sections : SortedMap String Section) :
    (ofSections sections).sections = sections := by
  refine SortedMap.ext fun event => ?_
  rw [get?_sections, entries?_ofSections, fields?_ofSections]
  cases sections.get? event with
  | none => rfl
  | some s =>
    obtain ⟨entries, fields⟩ := s
    by_cases none : fields.members = []
    · -- A section without fields leaves none, and having none is having those without members.
      have empty : fields = Json.Object.empty := Json.Object.ext none
      subst empty
      rfl
    · simp [none]

/-- A catalog is the catalog of its sections if every event with fields has an entry list. Fields
without one have no section to stand in. -/
theorem ofSections_sections {c : Catalog} (filed : ∀ f ∈ c.fields.toList, c.contains f.1) :
    ofSections c.sections = c := by
  refine ext (fun event => ?_) fun event => ?_
  · rw [entries?_ofSections, get?_sections, Option.map_map]
    cases c.entries? event <;> rfl
  · rw [fields?_ofSections, get?_sections]
    cases hf : c.fields? event with
    | none => cases c.entries? event <;> simp [Json.Object.empty]
    | some fields =>
      obtain ⟨entries, he⟩ :=
        contains_iff.1 (filed (event, fields) (SortedMap.get?_eq_some_iff.1 hf))
      simp [he, members_ne_nil_of_fields? hf]

end TemplateCoverage.Catalog
