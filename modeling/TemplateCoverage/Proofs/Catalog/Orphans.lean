import TemplateCoverage.Proofs.Catalog.Equality
import TemplateCoverage.Proofs.Catalog.History

/-!
# `TemplateCoverage.Proofs.Catalog.Orphans`: what a document cannot hold

A document holds the fields of an event beside its entry list. Fields that a catalog keeps under an
event without an entry list are orphans: the sections of the catalog leave them out, and nothing
else. The theorems:

* `ofSections_sections_eq`: the catalog of a catalog's sections is the one without its orphans;
* `eq_of_sections_eq`: without orphans a catalog is told by its sections;
* `same_iff_sameSections`: and so it is when catalogs and sections are compared as values;
* `exists_ofHistory`: every catalog is made by some edits;
* `sections_inverse`: how far a catalog and its sections tell each other.
-/

set_option autoImplicit false

namespace TemplateCoverage.Catalog

variable {c d : Catalog} {event : String}

/-! ### Fields without entries -/

/-- Every event with fields has an entry list. Catalogs that were read are like this; others can be
made by edits. -/
def NoOrphans (c : Catalog) : Prop := ∀ f ∈ c.fields.toList, c.contains f.1

/-- Whether a catalog has no orphans can be computed from its fields. -/
instance : Decidable c.NoOrphans :=
  inferInstanceAs (Decidable (∀ f ∈ c.fields.toList, c.contains f.1))

/-- The catalog without the fields of events that have no entry list. This is what a document can
hold of it. -/
def withoutOrphans (c : Catalog) : Catalog where
  events := c.events
  fields :=
    ⟨c.fields.toList.filter (c.contains ·.1), c.fields.ascending.sublist List.filter_sublist⟩
  fields_ne_nil f mem := c.fields_ne_nil f (List.mem_filter.1 mem).1

/-- A catalog has no orphans if and only if what is no event of it has no fields either. -/
theorem noOrphans_iff :
    c.NoOrphans ↔ ∀ event, c.contains event = false → c.fields? event = none := by
  constructor
  · intro filed event absent
    refine Option.eq_none_iff_forall_ne_some.2 fun fields kept => ?_
    have has := filed (event, fields) (SortedMap.get?_eq_some_iff.1 kept)
    exact Bool.false_ne_true (absent.symm.trans has)
  · intro none f mem
    have kept : c.fields? f.1 = some f.2 := SortedMap.get?_eq_some_iff.2 mem
    by_contra absent
    rw [none f.1 (Bool.eq_false_iff.2 absent)] at kept
    contradiction

/-- Of the fields only those of events with an entry list are left. -/
theorem fields?_withoutOrphans : c.withoutOrphans.fields? event =
    if c.contains event then c.fields? event else none := by
  refine Option.ext fun fields => ?_
  have left : c.withoutOrphans.fields? event = some fields ↔
      (event, fields) ∈ c.fields.toList ∧ c.contains event :=
    SortedMap.get?_eq_some_iff.trans List.mem_filter
  have kept : c.fields? event = some fields ↔ (event, fields) ∈ c.fields.toList :=
    SortedMap.get?_eq_some_iff
  rw [left, ← kept]
  by_cases has : c.contains event <;> simp [has]

/-! ### There and back -/

/-- The catalog of sections has no orphans, since each section brings an entry list. -/
theorem noOrphans_ofSections (sections : SortedMap String Section) :
    (ofSections sections).NoOrphans := by
  refine noOrphans_iff.2 fun event absent => ?_
  rw [contains_eq_false_iff, entries?_ofSections, Option.map_eq_none_iff] at absent
  rw [fields?_ofSections, absent, Option.bind_none]

/-- The catalog of a catalog's sections is the one without its orphans, so that the way through
sections loses just these. -/
theorem ofSections_sections_eq (c : Catalog) : ofSections c.sections = c.withoutOrphans := by
  refine ext (fun event => ?_) fun event => ?_
  · rw [entries?_ofSections, get?_sections, Option.map_map]
    exact Option.map_id'
  · rw [fields?_ofSections, get?_sections, fields?_withoutOrphans]
    cases listed : c.entries? event with
    | none => rw [if_neg (by simp [contains_eq_false_iff.2 listed]), Option.map_none,
        Option.bind_none]
    | some entries =>
      rw [if_pos (contains_iff.2 ⟨entries, listed⟩)]
      -- An event that has no fields is written with those that have no members.
      cases kept : c.fields? event with
      | none => simp [Json.Object.empty]
      | some fields => simp [members_ne_nil_of_fields? kept]

/-- A catalog that comes back as the same value has no orphans. Comparing values instead of catalogs
lets no lost fields pass, as fields without members are never kept. -/
theorem noOrphans_of_same (same : (ofSections c.sections).same c) : c.NoOrphans := by
  refine noOrphans_iff.2 fun event absent => ?_
  have atEvent := (same_iff.1 same).2 event
  rw [ofSections_sections_eq, fields?_withoutOrphans, absent, if_neg Bool.false_ne_true] at atEvent
  generalize c.fields? event = fields at atEvent
  cases atEvent
  rfl

/-- A catalog comes back as it was if and only if it has no orphans. -/
theorem ofSections_sections_eq_iff : ofSections c.sections = c ↔ c.NoOrphans := by
  refine ⟨fun eq => ?_, ofSections_sections⟩
  rw [← eq]
  exact noOrphans_ofSections _

/-! ### Told by the sections -/

/-- Without orphans a catalog is told by its sections, being the catalog of these. -/
theorem eq_of_sections_eq (hc : c.NoOrphans) (hd : d.NoOrphans) (eq : c.sections = d.sections) :
    c = d := by
  rw [← ofSections_sections hc, ← ofSections_sections hd, eq]

/-- The fields of an event, or none, are the same as the ones that its section holds. Having none
and having those without members cannot be mixed up, as the latter are never kept. -/
theorem rel_fields?_iff : Option.Rel (fun a b => a.same b) (c.fields? event) (d.fields? event) ↔
    ((c.fields? event).getD Json.Object.empty).same ((d.fields? event).getD Json.Object.empty) := by
  cases hc : c.fields? event with
  | none =>
    cases hd : d.fields? event with
    | none => exact iff_of_true .none (Json.Object.same_self _)
    | some b =>
      have apart : Json.Object.empty.same b = false :=
        Json.Object.same_eq_false_of_members (iff_of_true rfl (members_ne_nil_of_fields? hd))
      refine iff_of_false (fun related => ?_) (Bool.eq_false_iff.1 apart)
      cases related
  | some a =>
    cases hd : d.fields? event with
    | none =>
      have apart : a.same Json.Object.empty = false :=
        Json.Object.same_eq_false_of_members
          (iff_of_false (members_ne_nil_of_fields? hc) fun some => some rfl)
      refine iff_of_false (fun related => ?_) (Bool.eq_false_iff.1 apart)
      cases related
    | some b => exact Option.rel_some_some

/-- Without orphans catalogs are the same as values if and only if their sections are. -/
theorem same_iff_sameSections (hc : c.NoOrphans) (hd : d.NoOrphans) :
    c.same d ↔ sameSections c.sections d.sections := by
  rw [same_iff, sameSections_iff, ← forall_and]
  refine forall_congr' fun event => ?_
  rw [get?_sections, get?_sections]
  cases listed : c.entries? event with
  | none =>
    have none := noOrphans_iff.1 hc event (contains_eq_false_iff.2 listed)
    cases listed' : d.entries? event with
    | none =>
      have none' := noOrphans_iff.1 hd event (contains_eq_false_iff.2 listed')
      rw [none, none']
      exact iff_of_true ⟨.none, .none⟩ .none
    | some fs => exact iff_of_false (fun same => nomatch same.1) nofun
  | some es =>
    cases listed' : d.entries? event with
    | none => exact iff_of_false (fun same => nomatch same.1) nofun
    | some fs =>
      rw [rel_fields?_iff, Option.rel_some_some]
      exact (Option.rel_some_some.trans (Bool.and_eq_true _ _ ▸ Iff.rfl)).symm

/-! ### How catalogs are made -/

/-- The edits that set the entries and the fields of each event of a catalog, first all entries and
then all fields. -/
def edits (c : Catalog) : List Edit :=
  c.events.toList.map (fun e => .setEntries e.1 e.2) ++
    c.fields.toList.map fun f => .setFields f.1 f.2

/-- Every catalog is made by some edits, so that nothing is left out by speaking of edits only. -/
theorem exists_ofHistory (c : Catalog) : ∃ history, ofHistory history = c := by
  refine ⟨c.edits, ?_⟩
  rw [ofHistory, edits, List.foldl_append, List.foldl_map, List.foldl_map]
  show c.fields.toList.foldl (fun s f => s.setFields f.1 f.2)
    (c.events.toList.foldl (fun s e => s.setEntries e.1 e.2) empty) = c
  -- Entries and fields are set apart from each other, and under each event once.
  refine ext (fun event => ?_) fun event => ?_
  · have listed : c.entries? event = c.events.toList.lookup event := rfl
    rw [SortedMap.foldl_keyed entries? (fun _ _ old => old)
      (fun _ _ _ => entries?_setFields.trans (ite_self _).symm) c.fields.nodup_keys]
    rw [SortedMap.foldl_keyed entries? (fun _ es _ => some es)
      (fun _ _ _ => entries?_setEntries) c.events.nodup_keys, listed]
    cases c.events.toList.lookup event <;> cases c.fields.toList.lookup event <;> rfl
  · have kept : c.fields? event = c.fields.toList.lookup event := rfl
    rw [SortedMap.foldl_keyed fields?
      (fun _ fields _ => if fields.members = [] then none else some fields)
      (fun _ _ _ => fields?_setFields) c.fields.nodup_keys]
    rw [SortedMap.foldl_keyed fields? (fun _ _ old => old)
      (fun _ _ _ => fields?_setEntries.trans (ite_self _).symm) c.events.nodup_keys, ← kept]
    cases found : c.fields? event with
    | none => cases c.events.toList.lookup event <;> rfl
    | some fields => simp [members_ne_nil_of_fields? found]

/-- Sections are those of their catalog. A catalog, however it was made, is the one of its sections
but for the fields that it keeps under events without an entry list: it loses these and nothing
else, so that it comes back, as it was or as the same value, just if there are none. Catalogs
without such fields are equal, or the same as values, just if their sections are. -/
theorem sections_inverse :
    (∀ sections, (ofSections sections).sections = sections) ∧
    (∀ c : Catalog, (∃ history, ofHistory history = c) ∧
      (ofSections c.sections = c ↔ c.NoOrphans) ∧
      ((ofSections c.sections).same c ↔ c.NoOrphans) ∧
      ofSections c.sections = c.withoutOrphans ∧
      ∀ event, c.withoutOrphans.entries? event = c.entries? event ∧
        c.withoutOrphans.fields? event = if c.contains event then c.fields? event else none) ∧
    ∀ c d : Catalog, c.NoOrphans → d.NoOrphans →
      (c = d ↔ c.sections = d.sections) ∧ (c.same d ↔ sameSections c.sections d.sections) := by
  refine ⟨sections_ofSections, fun c => ?_, fun c d hc hd => ⟨?_, same_iff_sameSections hc hd⟩⟩
  · -- Back from the sections there is everything but the orphans.
    refine ⟨exists_ofHistory c, ofSections_sections_eq_iff, ⟨noOrphans_of_same, fun filed => ?_⟩,
      ofSections_sections_eq c, fun event => ⟨rfl, fields?_withoutOrphans⟩⟩
    rw [ofSections_sections filed]
    exact same_self c
  · exact ⟨congrArg sections, eq_of_sections_eq hc hd⟩

/-- Whether the entries or the fields of an event come first does not matter, but the fields of an
event that never gets entries are lost. -/
theorem sections_inverse_push :
    let entry := Entry.forTag "default" Json.Value.null
    let fields := Json.Object.ofList [("note", Json.Value.string "branch pushes")]
    let c := (empty.push "push" entry).setFields "push" fields
    let d := (empty.setFields "push" fields).push "push" entry
    let orphaned := (empty.push "issues" entry).setFields "push" fields
    c.NoOrphans ∧ d.NoOrphans ∧ c = d ∧ c.same d ∧
      ¬orphaned.NoOrphans ∧ ofSections orphaned.sections = empty.push "issues" entry := by
  intro entry fields c d orphaned
  obtain ⟨-, back, told⟩ := sections_inverse
  have hc : c.NoOrphans := by decide +kernel
  have hd : d.NoOrphans := by decide +kernel
  obtain ⟨equal, same⟩ := told c d hc hd
  have sections : c.sections = d.sections := rfl
  refine ⟨hc, hd, equal.2 sections, ?_, by decide +kernel, ?_⟩
  · rw [same, ← sections]
    decide +kernel
  · rw [(back orphaned).2.2.2.1]
    rfl

end TemplateCoverage.Catalog
