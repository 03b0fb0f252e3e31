import TemplateCoverage.Proofs.Catalog.Growth
import TemplateCoverage.Proofs.Catalog.History
import TemplateCoverage.Proofs.Catalog.Uniqueness
import TemplateCoverage.Proofs.Except
import TemplateCoverage.Synthesis

/-!
# `TemplateCoverage.Proofs.Synthesis`: candidates that fill the gaps

Candidates for missing combinations hold one entry for each of them, which covers that combination
only. So they overlap neither the catalog that lacks these combinations nor each other, and a merge
takes them all. The theorems:

* `candidates_eq_ok_iff`: when candidates are made, and which;
* `candidates_eq_error_iff`: and for which combination they are refused;
* `covering_filing`, `mem_combinations_filing`: candidates cover what was missing, each combination
  once;
* `takes_filing`: a catalog takes candidates for what it lacks;
* `candidates_outcome`: what becomes of a synthesis, whatever makes the entries;
* `merge_fills_gaps`: merged candidates close the gaps and nothing else.
-/

set_option autoImplicit false

namespace TemplateCoverage.Synthesis

variable {make : Synthesizer} {missing : SortedSet Combination} {locale : Locale}

/-- The entries made for missing combinations, each with its combination, in the order of these. -/
def made (make : Synthesizer) (missing : SortedSet Combination) (locale : Locale) :
    List (Combination × Entry) :=
  missing.toList.map fun x => (x, make x.event x.tag locale)

/-- The catalog of the entries made for missing combinations, each filed under its event. It is what
a synthesis gives if every entry fits. -/
def filing (make : Synthesizer) (missing : SortedSet Combination) (locale : Locale) : Catalog :=
  Catalog.ofPairs (made make missing locale)

/-- Whether each entry made covers exactly the combination that it is made for. Nothing is assumed
of what makes the entries, so that this has to be checked. -/
def Fits (make : Synthesizer) (missing : SortedSet Combination) (locale : Locale) : Prop :=
  ∀ x ∈ missing, (make x.event x.tag locale).combinations x.event = [x]

/-- An entry is accepted for a combination if and only if it covers just that, and it goes into the
candidates as it was made. -/
theorem entryFor_eq_ok_iff {x : Combination} {pair : Combination × Entry} :
    entryFor make locale x = .ok pair ↔
      (make x.event x.tag locale).combinations x.event = [x] ∧
        pair = (x, make x.event x.tag locale) := by
  unfold entryFor
  rw [bind_eq_ok_iff]
  constructor
  · rintro ⟨⟨⟩, checked, eq⟩
    cases eq
    exact ⟨check_eq_ok_iff.1 checked, rfl⟩
  · rintro ⟨fits, rfl⟩
    exact ⟨(), check_eq_ok_iff.2 fits, rfl⟩

/-- Candidates are made if and only if each entry fits; then they are these entries in order. So
there is no partial catalog of the entries that fit. -/
theorem candidates_eq_ok_iff {c : Catalog} :
    candidates make missing locale = .ok c ↔
      Fits make missing locale ∧ c = filing make missing locale := by
  unfold candidates
  rw [bind_eq_ok_iff]
  constructor
  · rintro ⟨pairs, mapped, eq⟩
    cases eq
    have fits : Fits make missing locale := by
      intro x mem
      have result : entryFor make locale x ∈ pairs.map .ok :=
        mapM_eq_ok_iff.1 mapped ▸ List.mem_map_of_mem mem
      obtain ⟨pair, _, eq⟩ := List.mem_map.1 result
      exact (entryFor_eq_ok_iff.1 eq.symm).1
    refine ⟨fits, congrArg Catalog.ofPairs ?_⟩
    have same : pairs.map (fun pair => (.ok pair : Except EntryError (Combination × Entry))) =
        (made make missing locale).map .ok := by
      -- Accepted entries are those made, at their places.
      rw [← mapM_eq_ok_iff.1 mapped, made, List.map_map]
      exact List.map_congr_left fun x mem => entryFor_eq_ok_iff.2 ⟨fits x mem, rfl⟩
    exact (List.map_inj_right fun _ _ => Except.ok.inj).1 same
  · rintro ⟨fits, rfl⟩
    refine ⟨made make missing locale, mapM_eq_ok_iff.2 ?_, rfl⟩
    rw [made, List.map_map]
    exact List.map_congr_left fun x mem => entryFor_eq_ok_iff.2 ⟨fits x mem, rfl⟩

/-- Cards cover exactly what they are made for: their tag spells the normal tag of the combination,
which comes back. -/
theorem fits_card : Fits Card.entry missing locale := by
  intro x _
  have spelled : Combination.of x.event (Tag.spell (Tag.normalize x.tag)) = x :=
    Combination.ext rfl (by simp [Combination.of, x.normal])
  exact congrArg (fun y => [y]) spelled

/-! ### What is refused -/

/-- An entry covers just one combination if its only tag is a spelling of the combination's. A
second tag would cover another one, or the same one twice. -/
theorem combinations_eq_singleton_iff {x : Combination} {e : Entry} :
    e.combinations x.event = [x] ↔ ∃ tag, e.tags = [tag] ∧ Tag.normalize tag = x.tag := by
  rw [Entry.combinations, List.map_eq_singleton_iff]
  refine exists_congr fun tag => and_congr_right fun _ => ?_
  exact ⟨congrArg Combination.tag, fun same => Combination.ext rfl same⟩

/-- An entry is refused for the number of its tags or else for being for another tag; the error
shows the event and what was found. -/
theorem check_eq_error_iff {x : Combination} {e : Entry} {err : EntryError} :
    check x e = .error err ↔
      e.tags.length ≠ 1 ∧ err = .tagCount x.event e.tags.length ∨
      ∃ tag, e.tags = [tag] ∧ Tag.normalize tag ≠ x.tag ∧
        err = .otherTag x.event x.tag (Tag.normalize tag) := by
  unfold check
  split
  · rename_i tag only
    by_cases same : Tag.normalize tag = x.tag
    · simp [only, same]
    · simp [only, same, eq_comm (a := err)]
  · rename_i other
    have several : e.tags.length ≠ 1 := fun one => by
      obtain ⟨tag, only⟩ := List.length_eq_one_iff.1 one
      exact other tag only
    have none : ∀ tag, e.tags ≠ [tag] := other
    simp [several, none, eq_comm (a := err)]

/-- An entry is refused by its check only, as making it cannot fail. -/
theorem entryFor_eq_error_iff {x : Combination} {err : EntryError} :
    entryFor make locale x = .error err ↔ check x (make x.event x.tag locale) = .error err := by
  unfold entryFor
  cases check x (make x.event x.tag locale) <;> simp [bind, Except.bind, pure, Except.pure]

/-- Candidates are refused for the least combination whose entry is. All lesser ones have entries
that fit, and greater ones are not looked at. -/
theorem candidates_eq_error_iff {err : EntryError} :
    candidates make missing locale = .error err ↔
      ∃ x ∈ missing, (∀ y ∈ missing, y < x →
        (make y.event y.tag locale).combinations y.event = [y]) ∧
        check x (make x.event x.tag locale) = .error err := by
  have mapped : candidates make missing locale = .error err ↔
      missing.toList.mapM (entryFor make locale) = .error err := by
    unfold candidates
    cases missing.toList.mapM (entryFor make locale) <;>
      simp [bind, Except.bind, pure, Except.pure]
  have fine : ∀ y, (∃ r, entryFor make locale y = .ok r) ↔
      (make y.event y.tag locale).combinations y.event = [y] := by
    intro y
    simp only [entryFor_eq_ok_iff, exists_and_left, exists_eq, and_true]
  rw [mapped, mapM_eq_error_iff]
  simp only [fine, entryFor_eq_error_iff]
  constructor
  -- The list of a set ascends: before an item stand just the lesser members.
  · rintro ⟨before, x, after, listed, fits, refused⟩
    refine ⟨x, SortedSet.mem_def.2 (by simp [listed]), fun y mem lt => ?_, refused⟩
    exact fits y ((SortedSet.mem_before_iff listed).2 ⟨mem, lt⟩)
  · rintro ⟨x, mem, fits, refused⟩
    obtain ⟨before, after, listed⟩ := List.append_of_mem mem
    refine ⟨before, x, after, listed, fun y early => ?_, refused⟩
    obtain ⟨inMissing, lt⟩ := (SortedSet.mem_before_iff listed).1 early
    exact fits y inMissing lt

/-! ### What candidates cover -/

/-- An event is among the candidates if and only if one of its combinations was missing. -/
theorem contains_filing_iff {event : String} :
    (filing make missing locale).contains event ↔ ∃ x ∈ missing, x.event = event := by
  rw [filing, Catalog.contains_ofPairs_iff, made]
  simp [SortedSet.mem_def]

/-- The entries filed under an event, in order, are those for the event's missing combinations. -/
theorem getD_entries?_filing {event : String} :
    ((filing make missing locale).entries? event).getD [] =
      (missing.toList.filter (·.event = event)).map fun x => make x.event x.tag locale := by
  -- Entries are filed in the order of their combinations.
  rw [filing, Catalog.getD_entries?_ofPairs, made, List.filter_map, List.map_map]
  rfl

/-- An entry that fits covers no other combination, so that looking for a combination among the
candidates finds the entry made for it. -/
theorem Fits.contains_iff (fits : Fits make missing locale) {x y : Combination}
    (mem : y ∈ missing) :
    (y.event = x.event ∧ (make y.event y.tag locale).normalizedTags.contains x.tag) ↔ y = x := by
  have covered : x ∈ (make y.event y.tag locale).combinations y.event ↔ x = y := by
    rw [fits y mem, List.mem_singleton]
  rw [Entry.mem_combinations] at covered
  rw [eq_comm (a := y), ← covered, eq_comm (a := x.event), List.contains_iff_mem]

/-- Candidates cover a missing combination by the entry made for it only, and what was not missing
by none. -/
theorem covering_filing (fits : Fits make missing locale) {x : Combination} :
    (filing make missing locale).covering x =
      (missing.toList.filter (· == x)).map fun x => make x.event x.tag locale := by
  rw [Catalog.covering, getD_entries?_filing, List.filter_map, List.filter_filter]
  refine congrArg _ (List.filter_congr fun y mem => ?_)
  have iff := fits.contains_iff (x := x) mem
  rw [Bool.eq_iff_iff, Bool.and_eq_true, decide_eq_true_iff, beq_iff_eq, and_comm, ← iff]
  rfl

/-- Candidates cover what was missing and nothing besides, if the entries fit. -/
theorem mem_combinations_filing (fits : Fits make missing locale) {x : Combination} :
    x ∈ (filing make missing locale).combinations ↔ x ∈ missing := by
  rw [Catalog.mem_combinations_iff_covering, covering_filing fits, ne_eq, List.map_eq_nil_iff,
    List.filter_eq_nil_iff]
  simp [SortedSet.mem_def]

/-- No two candidates cover the same combination, since a set has each combination once. -/
theorem coversOnce_filing (fits : Fits make missing locale) :
    (filing make missing locale).CoversOnce := by
  intro x
  have count : missing.toList.count x ≤ 1 := List.nodup_iff_count.1 missing.nodup_toList x
  rw [covering_filing fits, List.length_map, ← List.countP_eq_length_filter]
  exact count

/-- There are as many candidates as combinations were missing, whether they fit or not. -/
theorem entryCount_filing : (filing make missing locale).entryCount = missing.size := by
  rw [filing, Catalog.entryCount_ofPairs, made, List.length_map]
  rfl

/-- A catalog takes candidates for combinations that it lacks: none of them is for what it covers,
and none of them is without a tag. -/
theorem takes_filing {p : Catalog} (fits : Fits make missing locale)
    (lacks : ∀ x ∈ missing, x ∉ p.combinations) : p.Takes (filing make missing locale) := by
  intro event entries listed e mem
  have new : ∀ x ∈ (filing make missing locale).combinations, x ∉ p.combinations := fun x covered =>
    lacks x ((mem_combinations_filing fits).1 covered)
  refine Catalog.accepts_of_new new listed mem fun untagged => ?_
  -- The entry covers the combination that it was made for, so it has a tag.
  have filed : e ∈ (missing.toList.filter (·.event = event)).map fun x =>
      make x.event x.tag locale := by
    rw [← getD_entries?_filing, listed]
    exact mem
  obtain ⟨x, inFilter, rfl⟩ := List.mem_map.1 filed
  have covers := fits x (List.mem_filter.1 inFilter).1
  rw [Entry.combinations, untagged] at covers
  contradiction

/-- There are no candidates if and only if nothing is missing; then no file is written for them. -/
theorem isEmpty_iff {c : Catalog} (made : candidates make missing locale = .ok c) :
    c.isEmpty ↔ missing = SortedSet.empty := by
  obtain ⟨_, rfl⟩ := candidates_eq_ok_iff.1 made
  constructor
  · intro none
    -- Without events there are no entries, and these are as many as are missing.
    have noEvents : (filing make missing locale).events.toList = [] := List.isEmpty_iff.1 none
    have count : (filing make missing locale).entryCount = missing.size := entryCount_filing
    rw [Catalog.entryCount, SortedMap.values, noEvents] at count
    exact SortedSet.toList_inj (List.length_eq_zero_iff.1 count.symm)
  · rintro rfl
    rfl

/-- There is one candidate for each missing combination, which is the entry made for it. -/
theorem covering_filing_of_mem (fits : Fits make missing locale) {x : Combination}
    (mem : x ∈ missing) :
    (filing make missing locale).covering x = [make x.event x.tag locale] := by
  have once : missing.toList.filter (· == x) = [x] := by
    rw [List.filter_beq, List.count_eq_one_of_mem missing.nodup_toList mem, List.replicate_one]
  rw [covering_filing fits, once, List.map_singleton]

/-- Under each event the candidates stand in ascending order of their tags, so that the file does
not depend on how the gaps were found. -/
theorem ascending_tags_filing (fits : Fits make missing locale) {event : String} :
    ((((filing make missing locale).entries? event).getD []).flatMap
      (·.normalizedTags)).Pairwise (· < ·) := by
  have own : ∀ x ∈ missing.toList.filter (·.event = event),
      (make x.event x.tag locale).normalizedTags = [x.tag] := by
    intro x mem
    have covers := fits x (List.mem_filter.1 mem).1
    have tags : ((make x.event x.tag locale).combinations x.event).map (·.tag) = [x.tag] := by
      rw [covers, List.map_singleton]
    rwa [Entry.combinations, List.map_map] at tags
  have listed : (((filing make missing locale).entries? event).getD []).flatMap
      (·.normalizedTags) = (missing.toList.filter (·.event = event)).map (·.tag) := by
    rw [getD_entries?_filing, List.flatMap_map, List.flatMap_congr own, List.map_eq_flatMap]
  rw [listed, List.pairwise_map]
  refine (missing.ascending.filter _).imp_of_mem fun {x y} memX memY lt => ?_
  -- Combinations of one event are in the order of their tags.
  have sameEvent : x.event = y.event := by
    rw [of_decide_eq_true (List.mem_filter.1 memX).2, of_decide_eq_true (List.mem_filter.1 memY).2]
  rcases Combination.lt_iff.1 lt with less | ⟨-, less⟩
  · exact absurd (sameEvent ▸ less) (StrictOrder.irrefl _)
  · exact less

/-! ### What becomes of a synthesis -/

/-- There are candidates if and only if every entry made has one tag, which is a spelling of the tag
asked for. -/
theorem exists_candidates_iff : (∃ c, candidates make missing locale = .ok c) ↔
    ∀ x ∈ missing, ∃ tag, (make x.event x.tag locale).tags = [tag] ∧
      Tag.normalize tag = x.tag := by
  simp only [candidates_eq_ok_iff, exists_eq_right, ← combinations_eq_singleton_iff]
  rfl

/-- Whatever makes the entries, there are candidates if and only if each entry made for a missing
combination has one tag and this is the one asked for. Then the candidates are just these entries,
as they were made, one for each missing combination, under each event in the order of their tags,
and cover what was missing. Otherwise the error is about the entry of the least combination whose
entry is refused: about the number of its tags, or else about its tag. Cards are never refused. -/
theorem candidates_outcome (make : Synthesizer) (missing : SortedSet Combination)
    (locale : Locale) :
    let entry := fun x : Combination => make x.event x.tag locale
    let fits := fun x : Combination => ∃ tag, (entry x).tags = [tag] ∧ Tag.normalize tag = x.tag
    ((∃ c, candidates make missing locale = .ok c) ↔ ∀ x ∈ missing, fits x) ∧
    (∀ c, candidates make missing locale = .ok c →
      (∀ event, (c.entries? event).getD [] =
        (missing.toList.filter (·.event = event)).map entry) ∧
      (∀ event, c.contains event ↔ ∃ x ∈ missing, x.event = event) ∧
      (∀ event, c.fields? event = none) ∧
      (∀ x ∈ missing, c.covering x = [entry x]) ∧
      c.combinations = missing ∧ c.entryCount = missing.size ∧
      (c.isEmpty ↔ missing = SortedSet.empty) ∧
      ∀ event, (((c.entries? event).getD []).flatMap (·.normalizedTags)).Pairwise (· < ·)) ∧
    (∀ err, candidates make missing locale = .error err ↔
      ∃ x ∈ missing, (∀ y ∈ missing, y < x → fits y) ∧
        ((entry x).tags.length ≠ 1 ∧ err = .tagCount x.event (entry x).tags.length ∨
          ∃ tag, (entry x).tags = [tag] ∧ Tag.normalize tag ≠ x.tag ∧
            err = .otherTag x.event x.tag (Tag.normalize tag))) ∧
    ∀ missing locale, ∃ c, candidates Card.entry missing locale = .ok c := by
  intro entry fits
  refine ⟨exists_candidates_iff, fun c found => ?_, fun err => ?_, fun missing locale =>
    ⟨_, candidates_eq_ok_iff.2 ⟨fits_card, rfl⟩⟩⟩
  · -- The candidates are known as a whole, and each fact is one about the entries filed.
    obtain ⟨covers, rfl⟩ := candidates_eq_ok_iff.1 found
    exact ⟨fun _ => getD_entries?_filing, fun _ => contains_filing_iff,
      fun _ => Catalog.fields?_ofPairs, fun _ => covering_filing_of_mem covers,
      SortedSet.ext fun _ => mem_combinations_filing covers, entryCount_filing, isEmpty_iff found,
      fun _ => ascending_tags_filing covers⟩
  · simp only [candidates_eq_error_iff, check_eq_error_iff, combinations_eq_singleton_iff]
    rfl

/-- Of three entries the least one fits, though its tag is spelled in another way; of the other two,
which are both refused, the error is about the lesser one, which has two tags. -/
theorem candidates_outcome_two_refused :
    let make : Synthesizer := fun event tag _ =>
      if event = "issues" then ⟨["default"], Json.Value.null, Json.Object.empty⟩
      else if tag = "closed" then ⟨["closed", "other"], Json.Value.null, Json.Object.empty⟩
      else Entry.forTag "other" Json.Value.null
    let missing := SortedSet.ofList [Combination.of "push" "forced", Combination.default "issues",
      Combination.of "push" "closed"]
    candidates make missing .english = .error (.tagCount "push" 2) ∧
      ∃ c, candidates Card.entry missing .english = .ok c ∧ c.combinations = missing ∧
        c.entryCount = 3 := by
  intro make missing
  obtain ⟨-, -, refused, cards⟩ := candidates_outcome make missing .english
  obtain ⟨-, whole, -, -⟩ := candidates_outcome Card.entry missing .english
  obtain ⟨c, found⟩ := cards missing .english
  obtain ⟨-, -, -, -, covered, count, -, -⟩ := whole c found
  refine ⟨(refused _).2 ⟨Combination.of "push" "closed", by decide +kernel, fun y mem less => ?_,
    .inl ⟨by decide, rfl⟩⟩, c, found, covered, count.trans (by decide +kernel)⟩
  have one : y = Combination.of "push" "forced" ∨ y = Combination.default "issues" ∨
      y = Combination.of "push" "closed" := by
    simpa using SortedSet.mem_ofList.1 mem
  rcases one with rfl | rfl | rfl
  · exact absurd less (by decide)
  · exact ⟨"default", rfl, by decide⟩
  · exact absurd less (StrictOrder.irrefl _)

/-! ### Filling the gaps of a catalog -/

section Gaps

variable {expected : SortedSet Combination} {p c : Catalog}

/-- A catalog takes the candidates for what it lacks of the expected combinations. They need not be
made by cards: that they are made at all is enough. -/
theorem takes_candidates (made : candidates make (expected.diff p.combinations) locale = .ok c) :
    p.Takes c := by
  obtain ⟨fits, rfl⟩ := candidates_eq_ok_iff.1 made
  exact takes_filing fits fun x mem => (SortedSet.mem_diff.1 mem).2

/-- Candidates that are made cover just what was missing, so that nothing unexpected comes in by a
merge. -/
theorem mem_combinations_candidates
    (made : candidates make missing locale = .ok c) {x : Combination} :
    x ∈ c.combinations ↔ x ∈ missing := by
  obtain ⟨fits, rfl⟩ := candidates_eq_ok_iff.1 made
  exact mem_combinations_filing fits

/-- The merged catalog covers what was covered and what was missing of the expected combinations. -/
theorem mem_combinations_merge_candidates
    (made : candidates make (expected.diff p.combinations) locale = .ok c) {x : Combination} :
    x ∈ (p.merge c).combinations ↔ x ∈ p.combinations ∨ x ∈ expected.diff p.combinations := by
  have new : ∀ x ∈ c.combinations, x ∉ p.combinations := fun x mem =>
    (SortedSet.mem_diff.1 ((mem_combinations_candidates made).1 mem)).2
  rw [Catalog.mem_combinations_merge_of_new new, mem_combinations_candidates made]

/-- Nothing is missing after the merge: what was expected was covered or has a candidate. -/
theorem diff_merge_candidates
    (made : candidates make (expected.diff p.combinations) locale = .ok c) :
    expected.diff (p.merge c).combinations = SortedSet.empty := by
  refine SortedSet.ext ?_
  intro x
  rw [SortedSet.mem_diff, mem_combinations_merge_candidates made, SortedSet.mem_diff]
  have none : x ∉ (SortedSet.empty : SortedSet Combination) := List.not_mem_nil
  grind

/-- What is not expected stays as it was: orphans are neither added nor removed by closing the gaps.
-/
theorem merge_candidates_diff
    (made : candidates make (expected.diff p.combinations) locale = .ok c) :
    (p.merge c).combinations.diff expected = p.combinations.diff expected :=
  Catalog.merge_diff_of_missing fun _ => (mem_combinations_candidates made).1

/-- Every missing combination counts as one entry added, and no candidate is rejected. -/
theorem mergeCounts_candidates
    (made : candidates make (expected.diff p.combinations) locale = .ok c) :
    p.mergeCounts c = ⟨p.entryCount, (expected.diff p.combinations).size, 0⟩ := by
  rw [(takes_candidates made).mergeCounts_eq]
  obtain ⟨_, rfl⟩ := candidates_eq_ok_iff.1 made
  rw [entryCount_filing]

/-- If no two entries cover the same combination, none do so after the merge: candidates are apart
from the catalog's entries and from each other. -/
theorem length_covering_merge_le
    (made : candidates make (expected.diff p.combinations) locale = .ok c)
    (once : ∀ x, (p.covering x).length ≤ 1) (x : Combination) :
    ((p.merge c).covering x).length ≤ 1 := by
  obtain ⟨fits, rfl⟩ := candidates_eq_ok_iff.1 made
  exact Catalog.coversOnce_merge_iff.2 ⟨once, (coversOnce_filing fits).acceptsApart p⟩ x

/-- Candidates for what a catalog lacks are all taken by a merge, which closes the gaps and nothing
else and covers no combination twice; after it, there is nothing to make or to merge. -/
theorem merge_fills_gaps (made : candidates make (expected.diff p.combinations) locale = .ok c) :
    p.mergeCounts c = ⟨p.entryCount, (expected.diff p.combinations).size, 0⟩ ∧
      (∀ x, x ∈ (p.merge c).combinations ↔
        x ∈ p.combinations ∨ x ∈ expected.diff p.combinations) ∧
      expected.diff (p.merge c).combinations = SortedSet.empty ∧
      (p.merge c).combinations.diff expected = p.combinations.diff expected ∧
      ((∀ x, (p.covering x).length ≤ 1) → ∀ x, ((p.merge c).covering x).length ≤ 1) ∧
      ∀ make' locale',
        candidates make' (expected.diff (p.merge c).combinations) locale' = .ok Catalog.empty ∧
          (p.merge c).merge Catalog.empty = p.merge c := by
  refine ⟨mergeCounts_candidates made, fun x => mem_combinations_merge_candidates made,
    diff_merge_candidates made, merge_candidates_diff made, length_covering_merge_le made, ?_⟩
  -- Nothing is left to be made, whatever makes it.
  intro make' locale'
  rw [diff_merge_candidates made]
  exact ⟨rfl, rfl⟩

/-- A catalog with the default variant of an event, filled up with a card for another variant. -/
theorem merge_fills_gaps_push :
    let p := Catalog.empty.push "push" (Card.entry "push" "default" .english)
    let expected := SortedSet.ofList [Combination.default "push", Combination.of "push" "forced"]
    ∃ c, candidates Card.entry (expected.diff p.combinations) .chinese = .ok c ∧
      p.mergeCounts c = ⟨1, 1, 0⟩ ∧ expected.diff (p.merge c).combinations = SortedSet.empty := by
  intro p expected
  have made : candidates Card.entry (expected.diff p.combinations) .chinese =
      .ok (filing Card.entry (expected.diff p.combinations) .chinese) :=
    candidates_eq_ok_iff.2 ⟨fits_card, rfl⟩
  obtain ⟨counts, _, closed, _⟩ := merge_fills_gaps made
  have size : (expected.diff p.combinations).size = 1 := by decide
  exact ⟨_, made, by rw [counts, size]; rfl, closed⟩

end Gaps

end TemplateCoverage.Synthesis
