import Mathlib.Data.List.Forall2
import TemplateCoverage.Catalog.Schema
import TemplateCoverage.Coverage
import TemplateCoverage.Proofs.Catalog.Alike
import TemplateCoverage.Taxonomy

/-!
# `TemplateCoverage.Proofs.Catalog.Respelling`: the two spellings of the default tag

A document may spell the default tag either way, and otherwise in every place. Everything that is
measured, compared or decided about a catalog depends on its outline only, the normalised tags of
its entries; and respelling keeps the outline. The theorems:

* `Tag.respells_iff`: two texts spell one tag if and only if they are normalised alike;
* `coveredTags_congr`, `gaps_congr`, `mergeCounts_congr`, `isSome_offence?_congr`: what depends on
  the outline only;
* `Corresponds.merge`: merged catalogs correspond as those did that they are merged from;
* `respelling_decides_nothing`: no spelling makes a difference, except to the spelling of the merged
  entries.
-/

set_option autoImplicit false

namespace TemplateCoverage

/-! ### Respelling -/

/-- Two texts spell one tag: they are the same text, or the two spellings of the default tag. -/
inductive Tag.Respells : String → String → Prop where
  | same (tag : String) : Respells tag tag
  | emptied : Respells sentinel ""
  | written : Respells "" sentinel

/-- Two texts spell one tag if and only if they are normalised alike. -/
theorem Tag.respells_iff {a b : String} : Respells a b ↔ normalize a = normalize b := by
  refine ⟨?_, ?_⟩
  · intro respells
    cases respells with
    | same => rfl
    | emptied => rfl
    | written => rfl
  · intro alike
    -- Each of the two texts is the written default or not; two others are alike only if equal.
    unfold normalize at alike
    split at alike <;> rename_i ha <;> split at alike <;> rename_i hb
    · rw [ha, hb]
      exact .same sentinel
    · rw [ha, ← alike]
      exact .emptied
    · rw [hb, alike]
      exact .written
    · rw [alike]
      exact .same b

/-- Respelled tags are normalised alike, one by one, by induction along the two lists. -/
theorem Tag.map_normalize_eq {tags tags' : List String}
    (respells : List.Forall₂ Tag.Respells tags tags') :
    tags.map normalize = tags'.map normalize := by
  induction respells with
  | nil => rfl
  | cons head _ ih => rw [List.map_cons, List.map_cons, respells_iff.1 head, ih]

/-- Two entries differ at most in the spelling of their tags: these are as many and in the same
order. -/
structure Entry.Respells (e f : Entry) : Prop where
  tags : List.Forall₂ Tag.Respells e.tags f.tags
  payload : e.payload = f.payload
  extra : e.extra = f.extra

/-- Respelled entries have the same normalised tags. This is all that is used of their tags from
here on. -/
theorem Entry.Respells.normalizedTags_eq {e f : Entry} (respells : e.Respells f) :
    e.normalizedTags = f.normalizedTags := Tag.map_normalize_eq respells.tags

/-- Two taxonomies declare the same events and differ at most in the spelling of their tags. -/
def Taxonomy.Respells (t t' : Taxonomy) : Prop :=
  ∀ event, Option.Rel (List.Forall₂ Tag.Respells) (t.tags? event) (t'.tags? event)

/-- Respelled taxonomies expect the same combinations. An event without tags expects its default
variant in both. -/
theorem Taxonomy.Respells.expected_eq {t t' : Taxonomy} (respells : t.Respells t') :
    t.expected = t'.expected := by
  refine SortedSet.ext ?_
  intro x
  rw [mem_expected, mem_expected]
  have related := respells x.event
  generalize t.tags? x.event = tags, t'.tags? x.event = tags' at related
  cases related with
  | none => simp
  | some tags =>
    rename_i before after
    have normal : before.map Tag.normalize = after.map Tag.normalize := Tag.map_normalize_eq tags
    have listed : ∀ ts : List String,
        (∃ tag ∈ ts, Tag.normalize tag = x.tag) ↔ x.tag ∈ ts.map Tag.normalize :=
      fun ts => List.mem_map.symm
    -- No respelling adds the first tag or takes the last one away.
    have missing : before = [] ↔ after = [] := by
      rw [← List.map_eq_nil_iff, normal, List.map_eq_nil_iff]
    simp only [Option.some.injEq, exists_eq_left']
    rw [listed, listed, normal, missing]

namespace Catalog

/-! ### The outline of a catalog -/

/-- The normalised tags of every entry, by event. Payloads and other fields have no part in it. -/
def outline (c : Catalog) : SortedMap String (List (List String)) :=
  c.events.map fun _ entries => entries.map (·.normalizedTags)

variable {c d p q : Catalog} {event : String}

/-- The outline of an event is that of its entries, and there is none for an event that is not
there. -/
theorem get?_outline : c.outline.get? event =
    (c.entries? event).map fun entries => entries.map (·.normalizedTags) :=
  SortedMap.get?_map

/-- The outline tells which events there are, as it has an item for each of them, also for one
without entries. -/
theorem contains_congr (same : c.outline = d.outline) : c.contains event = d.contains event := by
  have contained : ∀ c : Catalog, c.contains event = (c.outline.get? event).isSome := by
    intro c
    rw [get?_outline, Option.isSome_map]
    rfl
  rw [contained, same, contained]

/-- The outline tells which tags are covered under an event: all those in its items. -/
theorem coveredTags_congr (same : c.outline = d.outline) :
    c.coveredTags event = d.coveredTags event := by
  have covered : ∀ c : Catalog, c.coveredTags event =
      SortedSet.ofList ((c.outline.get? event).getD []).flatten := by
    intro c
    rw [get?_outline, coveredTags, List.flatMap_def]
    cases c.entries? event <;> rfl
  rw [covered, same, covered]

/-- The outline tells which combinations are covered, being the covered tags of all events. -/
theorem combinations_congr (same : c.outline = d.outline) : c.combinations = d.combinations := by
  refine SortedSet.ext ?_
  intro x
  rw [mem_combinations, mem_combinations, coveredTags_congr same]

/-- The outline tells how many entries there are, as it has one item for each of them. -/
theorem entryCount_congr (same : c.outline = d.outline) : c.entryCount = d.entryCount := by
  have counted : ∀ c : Catalog, c.entryCount = c.outline.values.flatten.length := by
    intro c
    show (c.events.toList.map (·.2)).flatten.length =
      ((c.events.toList.map fun e => (e.1, e.2.map (·.normalizedTags))).map (·.2)).flatten.length
    simp only [List.length_flatten, List.map_map, Function.comp_def, List.length_map]
  rw [counted, same, counted]

/-- Catalogs with the same outline cover alike, so that all that holds of those holds of these. -/
theorem coversAlike_of_outline_eq (same : c.outline = d.outline) : c.CoversAlike d :=
  ⟨fun _ => Bool.eq_iff_iff.1 (contains_congr same), combinations_congr same⟩

/-- The outlines of two catalogs tell their gaps, which compare the events and the covered tags. -/
theorem gaps_congr (first : p.outline = q.outline) (second : c.outline = d.outline) :
    p.gaps c = q.gaps d :=
  (coversAlike_of_outline_eq first).gaps_eq (coversAlike_of_outline_eq second)

/-- Whether an entry repeats a tag shows in the outline. How the repeated tag is spelled does not,
so that the report itself may differ. -/
theorem isSome_offence?_congr (same : c.outline = d.outline) :
    (offence? c).isSome = (offence? d).isSome := by
  have clean : ∀ c : Catalog, offence? c = none ↔
      ∀ o ∈ c.outline.toList, ∀ tags ∈ o.2, tags.Nodup := by
    intro c
    show _ ↔ ∀ o ∈ c.events.toList.map _, _
    rw [offence?_eq_none_iff, List.forall_mem_map]
    simp only [List.forall_mem_map]
  rw [Bool.eq_iff_iff, Option.isSome_iff_ne_none, Option.isSome_iff_ne_none, ne_eq, ne_eq, clean,
    clean, same]

/-! ### What a merge takes -/

/-- Whether a catalog accepts an entry with such normalised tags under an event. -/
def admits (p : Catalog) (event : String) (tags : List String) : Bool :=
  !tags.isEmpty && !tags.any (p.coveredTags event).contains

/-- An entry is accepted for its normalised tags: neither the spelling of a tag nor the payload is
looked at. -/
theorem accepts_eq_admits {e : Entry} : p.accepts event e = p.admits event e.normalizedTags := by
  have tagged : e.tags.isEmpty = e.normalizedTags.isEmpty := List.isEmpty_map.symm
  rw [accepts, Entry.isTagged, tagged]
  rfl

/-- The outline of a catalog tells which normalised tags it accepts, under every event. -/
theorem admits_congr (same : p.outline = q.outline) : p.admits = q.admits := by
  funext event tags
  rw [admits, coveredTags_congr same]
  rfl

/-- Which candidate entries are accepted, by their places, is told by the two outlines. The entries
themselves differ, so that places have to stand for them. -/
theorem map_accepts_congr (first : p.outline = q.outline) (second : c.outline = d.outline) :
    ((c.entries? event).getD []).map (p.accepts event) =
      ((d.entries? event).getD []).map (q.accepts event) := by
  -- Places are kept by the outline, since it has one item for each entry.
  have accepted : ∀ p c : Catalog, ((c.entries? event).getD []).map (p.accepts event) =
      ((c.outline.get? event).getD []).map (p.admits event) := by
    intro p c
    rw [get?_outline]
    cases c.entries? event with
    | none => rfl
    | some entries =>
      rw [Option.getD_some, Option.map_some, Option.getD_some, List.map_map]
      exact List.map_congr_left fun _ _ => accepts_eq_admits
  rw [accepted, accepted, second, admits_congr first]

/-- The outlines of a catalog and of candidates tell all counts of a merge. -/
theorem mergeCounts_congr (first : p.outline = q.outline) (second : c.outline = d.outline) :
    p.mergeCounts c = q.mergeCounts d := by
  have added : ∀ p c : Catalog, (p.mergeCounts c).added =
      (c.outline.toList.flatMap fun o => o.2.filter (p.admits o.1)).length := by
    intro p c
    have accepted : ∀ e : String × List Entry,
        (p.accepted e.1 e.2).length =
          ((e.2.map (·.normalizedTags)).filter (p.admits e.1)).length := by
      intro e
      have same : p.accepts e.1 = p.admits e.1 ∘ (·.normalizedTags) :=
        funext fun _ => accepts_eq_admits
      rw [accepted, List.filter_map, List.length_map, same]
    show (c.events.toList.flatMap fun e => p.accepted e.1 e.2).length =
      ((c.events.toList.map _).flatMap _).length
    rw [List.flatMap_map, List.length_flatMap, List.length_flatMap]
    exact congrArg List.sum (List.map_congr_left fun e _ => accepted e)
  have retained : (p.mergeCounts c).retained = (q.mergeCounts d).retained :=
    entryCount_congr first
  have taken : (p.mergeCounts c).added = (q.mergeCounts d).added := by
    rw [added, added, second, admits_congr first]
  -- What is not added is rejected, so the third count follows from the number of candidates.
  have left : (p.mergeCounts c).rejected = (q.mergeCounts d).rejected := by
    have total := added_add_rejected p c
    have total' := added_add_rejected q d
    have counted : c.entryCount = d.entryCount := entryCount_congr second
    omega
  generalize p.mergeCounts c = m, q.mergeCounts d = n at retained taken left
  cases m
  cases n
  simp_all

/-! ### Catalogs that correspond -/

/-- Two catalogs have the same events and fields, and under each event the entries of the one
correspond to those of the other in their order. How single entries correspond is left open, so that
respelling may be restricted further. -/
structure Corresponds (R : Entry → Entry → Prop) (c d : Catalog) : Prop where
  entries : ∀ event, Option.Rel (List.Forall₂ R) (c.entries? event) (d.entries? event)
  fields : ∀ event, c.fields? event = d.fields? event

variable {R : Entry → Entry → Prop} {p' c' : Catalog}

/-- The entries of an event correspond, also if there is no such event. -/
theorem Corresponds.getD_entries (h : c.Corresponds R d) :
    List.Forall₂ R ((c.entries? event).getD []) ((d.entries? event).getD []) := by
  have related := h.entries event
  generalize c.entries? event = es, d.entries? event = fs at related
  cases related with
  | none => exact .nil
  | some related => exact related

/-- Catalogs go on corresponding when entries that do so are set under an event. -/
theorem Corresponds.setEntries (h : c.Corresponds R d) {entries entries' : List Entry}
    (related : List.Forall₂ R entries entries') :
    (c.setEntries event entries).Corresponds R (d.setEntries event entries') where
  entries e := by
    rw [entries?_setEntries, entries?_setEntries]
    split
    · exact .some related
    · exact h.entries e
  fields e := h.fields e

/-- Empty catalogs correspond, whatever the relation on entries. -/
theorem corresponds_empty : empty.Corresponds R empty := ⟨fun _ => .none, fun _ => rfl⟩

/-- A respelling keeps the outline, entry by entry. All lemmas on outlines thereby speak of catalogs
that correspond. -/
theorem Corresponds.outline_eq (respelling : ∀ e f, R e f → e.Respells f)
    (h : c.Corresponds R d) : c.outline = d.outline := by
  refine SortedMap.ext ?_
  intro event
  rw [get?_outline, get?_outline]
  have related := h.entries event
  generalize c.entries? event = es, d.entries? event = fs at related
  cases related with
  | none => rfl
  | some related =>
    rename_i es fs
    -- The entries of one event are compared one by one.
    have alike : es.map (·.normalizedTags) = fs.map (·.normalizedTags) := by
      induction related with
      | nil => rfl
      | cons head _ ih =>
        rw [List.map_cons, List.map_cons, ih, (respelling _ _ head).normalizedTags_eq]
    exact congrArg some alike

/-- The additions of a merge correspond as the candidates do, since at each place either both
entries are accepted or neither is. -/
theorem Corresponds.additions (respelling : ∀ e f, R e f → e.Respells f)
    (primaries : p.Corresponds R p') (candidates : c.Corresponds R c') :
    List.Forall₂ R (p.additions c event) (p'.additions c' event) := by
  refine List.rel_filter ?_ candidates.getD_entries
  intro e f related
  have alike : p.accepts event e = p'.accepts event f := by
    rw [accepts_eq_admits, accepts_eq_admits, (respelling e f related).normalizedTags_eq,
      admits_congr (primaries.outline_eq respelling)]
  exact Bool.eq_iff_iff.1 alike

/-- Merged catalogs correspond as those did that they are merged from. So any number of merges may
follow one another. -/
theorem Corresponds.merge (respelling : ∀ e f, R e f → e.Respells f)
    (primaries : p.Corresponds R p') (candidates : c.Corresponds R c') :
    (p.merge c).Corresponds R (p'.merge c') := by
  have added : ∀ event, List.Forall₂ R (p.additions c event) (p'.additions c' event) :=
    fun event => primaries.additions respelling candidates
  -- The additions are as many on both sides, so an event changes on both or on neither.
  have none : ∀ event, p.additions c event = [] ↔ p'.additions c' event = [] := by
    intro event
    rw [← List.length_eq_zero_iff, (added event).length_eq, List.length_eq_zero_iff]
  refine ⟨fun event => ?_, fun event => ?_⟩
  · rw [entries?_merge, entries?_merge]
    by_cases nothing : p.additions c event = []
    · rw [if_neg (by simp [nothing]), if_neg (by simp [(none event).1 nothing])]
      exact primaries.entries event
    · rw [if_pos nothing, if_pos (mt (none event).2 nothing)]
      exact .some (List.rel_append primaries.getD_entries (added event))
  · have contained : p.contains event = p'.contains event :=
      contains_congr (primaries.outline_eq respelling)
    rw [fields?_merge, fields?_merge, contained, candidates.fields event, primaries.fields event]
    simp only [ne_eq, none event]

/-! ### Both spellings -/

/-- What is measured of two catalogs against two taxonomies is the same, and either both catalogs
repeat a tag or neither does. -/
structure MeasuredAlike (t t' : Taxonomy) (c d : Catalog) : Prop where
  combinations : c.combinations = d.combinations
  coveredTags : ∀ event, c.coveredTags event = d.coveredTags event
  coverage : Coverage.measure t.expected c.combinations =
    Coverage.measure t'.expected d.combinations
  percent : (Coverage.measure t.expected c.combinations).percent =
    (Coverage.measure t'.expected d.combinations).percent
  refused : (offence? c).isSome = (offence? d).isSome

/-- Catalogs with the same outline are measured alike against taxonomies that expect the same. -/
theorem measuredAlike_of_outline_eq {t t' : Taxonomy} (expected : t.expected = t'.expected)
    (same : c.outline = d.outline) : MeasuredAlike t t' c d := by
  have covered : c.combinations = d.combinations := combinations_congr same
  refine ⟨covered, fun _ => coveredTags_congr same, ?_, ?_, isSome_offence?_congr same⟩
  · rw [expected, covered]
  · rw [expected, covered]

/-- No spelling of the default tag makes a difference, whichever places it is changed in, except to
the spelling of the merged entries. The places are chosen by the relation on entries, which may
respell some of them and leave others alone. -/
theorem respelling_decides_nothing {t t' : Taxonomy} (respelling : ∀ e f, R e f → e.Respells f)
    (taxonomies : t.Respells t') (primaries : p.Corresponds R p')
    (candidates : c.Corresponds R c') :
    t.expected = t'.expected ∧ MeasuredAlike t t' p p' ∧ MeasuredAlike t t' c c' ∧
      p.gaps c = p'.gaps c' ∧ c.gaps p = c'.gaps p' ∧ p.mergeCounts c = p'.mergeCounts c' ∧
      (∀ event, ((c.entries? event).getD []).map (p.accepts event) =
        ((c'.entries? event).getD []).map (p'.accepts event)) ∧
      (p.merge c).Corresponds R (p'.merge c') := by
  have expected : t.expected = t'.expected := taxonomies.expected_eq
  have first : p.outline = p'.outline := primaries.outline_eq respelling
  have second : c.outline = c'.outline := candidates.outline_eq respelling
  exact ⟨expected, measuredAlike_of_outline_eq expected first,
    measuredAlike_of_outline_eq expected second, gaps_congr first second, gaps_congr second first,
    mergeCounts_congr first second, fun _ => map_accepts_congr first second,
    primaries.merge respelling candidates⟩

/-- A catalog with an event `push` of one entry, whose tags are spelled in some way. -/
def sampleSpelled (tags : List String) : Catalog :=
  empty.setEntries "push" [⟨tags, Json.Value.null, Json.Object.empty⟩]

/-- Catalogs of one entry correspond if the tags are respelled, as they have the same payload and
fields. -/
theorem corresponds_sampleSpelled {tags tags' : List String}
    (respells : List.Forall₂ Tag.Respells tags tags') :
    (sampleSpelled tags).Corresponds Entry.Respells (sampleSpelled tags') :=
  corresponds_empty.setEntries (.cons ⟨respells, rfl, rfl⟩ .nil)

/-- A candidate that spells the default tag out is refused, as is one that leaves it empty, beside a
catalog that spells it the other way. -/
theorem respelling_decides_nothing_sample :
    (sampleSpelled [""]).mergeCounts (sampleSpelled ["forced", "default"]) =
        (sampleSpelled ["default"]).mergeCounts (sampleSpelled ["forced", ""]) ∧
      (sampleSpelled [""]).mergeCounts (sampleSpelled ["forced", "default"]) = ⟨1, 0, 1⟩ := by
  have taxonomies : (Taxonomy.ofList [("push", ["default", "forced"])]).Respells
      (Taxonomy.ofList [("push", ["", "forced"])]) := by
    intro event
    -- Of each taxonomy only the list that it was made from is looked at.
    show Option.Rel _ ([("push", ["default", "forced"])].lookup event)
      ([("push", ["", "forced"])].lookup event)
    rw [List.lookup_cons, List.lookup_cons]
    split
    · exact .some (.cons .emptied (.cons (.same "forced") .nil))
    · exact .none
  obtain ⟨-, -, -, -, -, counts, -, -⟩ := respelling_decides_nothing (fun _ _ related => related)
    taxonomies (corresponds_sampleSpelled (.cons .written .nil))
    (corresponds_sampleSpelled (.cons (.same "forced") (.cons .emptied .nil)))
  exact ⟨counts, by decide⟩

end Catalog

end TemplateCoverage
