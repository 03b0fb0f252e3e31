import TemplateCoverage.Catalog.Merge
import TemplateCoverage.Proofs.Catalog.Entries
import TemplateCoverage.Proofs.Sorted.Set

/-!
# `TemplateCoverage.Proofs.Catalog.Merge`: what a merge leaves

A merge looks at each event of the candidates once, so it is known event by event what it leaves:
the old entries and then the additions. The theorems:

* `entries?_merge` / `fields?_merge`: the entries and the fields of an event after a merge;
* `mem_coveredTags_merge`: a merge covers what was covered before and the tags of the additions;
* `entryCount_merge`: the entries after a merge are those kept and those added;
* `rejects_merge` / `Rejects.foldl_merge`: merged candidates are rejected from then on;
* `Takes.mergeCounts_eq`: candidates that are all accepted are counted as added;
* `isMerge_iff_eq_merge`: which catalog a merge makes, said without its steps;
* `merge_absorbs`: merging candidates again, after whatever other merges, changes nothing.
-/

set_option autoImplicit false

namespace TemplateCoverage.Catalog

variable {p c m : Catalog} {event : String}

/-! ### Event by event -/

/-- The candidate entries that a merge puts behind those of an event, in their order among the
candidates. -/
def additions (p c : Catalog) (event : String) : List Entry :=
  p.accepted event ((c.entries? event).getD [])

/-- A merge adds the entries of the candidates that the catalog accepts under their event. -/
theorem mem_additions {e : Entry} : e ∈ p.additions c event ↔
    ∃ entries, c.entries? event = some entries ∧ e ∈ entries ∧ p.accepts event e := by
  rw [additions, accepted, List.mem_filter]
  cases c.entries? event <;> simp

/-- Taking fields over leaves all entries alone. It is the second half of the step of one event. -/
theorem entries?_adoptFields {e : String} :
    (adoptFields p c m event).entries? e = m.entries? e := by
  unfold adoptFields
  split
  · rfl
  · split
    · exact entries?_setFields
    · rfl

/-- An event takes the candidates' fields over if it is new and was given entries; other events keep
theirs. -/
theorem fields?_adoptFields {e : String} : (adoptFields p c m event).fields? e =
    if e = event ∧ p.contains event = false ∧ m.contains event = true then
      (c.fields? event).or (m.fields? event)
    else m.fields? e := by
  unfold adoptFields
  split
  · rename_i stays
    rw [if_neg (by grind)]
  · rename_i new
    have added : p.contains event = false ∧ m.contains event = true := by grind
    split
    · rename_i fields found
      rw [fields?_setFields, if_neg (members_ne_nil_of_fields? found)]
      simp [added, found]
    · rename_i none
      split
      · rename_i same
        rw [same.1, none, Option.none_or]
      · rfl

/-- The entries of an event behind which its candidate entries were put. If none is accepted the
event stays as it was, which may be absent. -/
def extended (p : Catalog) (event : String) (candidates : List Entry) (old : Option (List Entry)) :
    Option (List Entry) :=
  if p.accepted event candidates ≠ [] then
    some (old.getD [] ++ p.accepted event candidates)
  else old

/-- The step of one event changes the entries of this event only, so that the events can be merged
in any order. -/
theorem entries?_mergeEvent {candidate : String × List Entry} :
    (mergeEvent p c m candidate).entries? event =
      if event = candidate.1 then p.extended event candidate.2 (m.entries? event)
      else m.entries? event := by
  rw [mergeEvent, entries?_adoptFields, entries?_append, extended]
  by_cases same : event = candidate.1
  · subst same
    simp
  · simp [same]

/-- The step of one event changes the fields of this event only: they are taken over if it is new
and has entries now. -/
theorem fields?_mergeEvent {candidate : String × List Entry} :
    (mergeEvent p c m candidate).fields? event =
      if event = candidate.1 then
        if p.contains event = false ∧ (p.extended event candidate.2 (m.entries? event)).isSome then
          (c.fields? event).or (m.fields? event)
        else m.fields? event
      else m.fields? event := by
  -- Whether the event is there after its entries were put shows in what they have become.
  have contained : (m.append candidate.1 (p.accepted candidate.1 candidate.2)).contains candidate.1
      = (p.extended candidate.1 candidate.2 (m.entries? candidate.1)).isSome := by
    show (entries? _ _).isSome = _
    rw [entries?_append, extended]
    simp
  rw [mergeEvent, fields?_adoptFields, fields?_append, fields?_append, contained]
  by_cases same : event = candidate.1
  · subst same
    simp
  · simp [same]

/-- A merge does at each event what the step does that has the event's candidates. It is stated for
whatever is seen of a catalog, because entries and fields are looked at in the same way. -/
theorem see_merge {γ : Type} (see : Catalog → String → γ)
    (update : String → List Entry → γ → γ)
    (steps : ∀ m candidate event, see (mergeEvent p c m candidate) event =
      if event = candidate.1 then update event candidate.2 (see m event) else see m event) :
    see (p.merge c) event =
      match c.entries? event with
      | some candidates => update event candidates (see p event)
      | none => see p event := by
  rw [merge, SortedMap.foldl_keyed see update steps c.events.nodup_keys, entries?, SortedMap.get?]
  cases c.events.toList.lookup event <;> rfl

/-- The entries of an event after a merge: the old ones and then the additions. An event without
additions keeps what it has, which may be an empty list or none. -/
theorem entries?_merge : (p.merge c).entries? event =
    if p.additions c event ≠ [] then some ((p.entries? event).getD [] ++ p.additions c event)
    else p.entries? event := by
  rw [see_merge entries? p.extended fun _ _ _ => entries?_mergeEvent, additions]
  cases c.entries? event with
  | none => simp [accepted]
  | some candidates => rfl

/-- The fields of an event after a merge: an event that is new and has additions takes the
candidates' ones. -/
theorem fields?_merge : (p.merge c).fields? event =
    if p.contains event = false ∧ p.additions c event ≠ [] then
      (c.fields? event).or (p.fields? event)
    else p.fields? event := by
  -- Whether a step sets fields depends on the entries that it leaves, so both are seen together.
  have both : ((p.merge c).entries? event, (p.merge c).fields? event) = _ := see_merge
    (fun m event => (m.entries? event, m.fields? event))
    (fun event candidates old =>
      (p.extended event candidates old.1,
        if p.contains event = false ∧ (p.extended event candidates old.1).isSome then
          (c.fields? event).or old.2
        else old.2))
    fun m candidate event => by
      rw [entries?_mergeEvent, fields?_mergeEvent]
      split <;> rfl
  have fields := congrArg Prod.snd both
  dsimp only at fields
  rw [fields, additions]
  cases c.entries? event with
  | none => simp [accepted]
  | some candidates =>
    by_cases new : p.contains event = false
    · have none : p.entries? event = none := contains_eq_false_iff.1 new
      by_cases accepted : p.accepted event candidates = [] <;>
        simp [extended, new, none, accepted]
    · simp [new]

/-- A merge puts the additions behind the entries that an event has, which may be none. -/
theorem getD_entries?_merge : ((p.merge c).entries? event).getD [] =
    (p.entries? event).getD [] ++ p.additions c event := by
  rw [entries?_merge]
  split
  · rfl
  · rename_i none
    rw [Classical.not_not.1 none, List.append_nil]

/-- The entries of an event stay where they are, in front of whatever a merge adds. -/
theorem exists_append_of_entries? {entries : List Entry} (h : p.entries? event = some entries) :
    ∃ more, (p.merge c).entries? event = some (entries ++ more) := by
  rw [entries?_merge, h]
  split
  · exact ⟨_, rfl⟩
  · exact ⟨[], by rw [List.append_nil]⟩

/-- After a merge there are the old events and those with additions. A new event whose entries are
all rejected is not there. -/
theorem contains_merge_iff :
    (p.merge c).contains event ↔ p.contains event ∨ p.additions c event ≠ [] := by
  rw [contains_iff, contains_iff, entries?_merge]
  split
  · rename_i some
    exact iff_of_true ⟨_, rfl⟩ (.inr some)
  · rename_i none
    exact (or_iff_left none).symm

/-- A merge covers what was covered before and the tags of the additions. -/
theorem mem_coveredTags_merge {tag : String} : tag ∈ (p.merge c).coveredTags event ↔
    tag ∈ p.coveredTags event ∨ ∃ e ∈ p.additions c event, tag ∈ e.normalizedTags := by
  simp only [coveredTags, SortedSet.mem_ofList, getD_entries?_merge, List.flatMap_append,
    List.mem_append, List.mem_flatMap]

/-! ### Rejected candidates -/

/-- A catalog rejects candidates if it accepts none of their entries. This is the invariant of
merging the same candidates again. -/
def Rejects (p c : Catalog) : Prop := ∀ event, p.additions c event = []

/-- A catalog rejects candidates if and only if it accepts none of the entries that they list. -/
theorem rejects_iff : p.Rejects c ↔
    ∀ event entries, c.entries? event = some entries →
      ∀ e ∈ entries, p.accepts event e = false := by
  constructor
  · intro rejects event entries listed e mem
    refine Bool.eq_false_iff.2 ?_
    intro accepts
    have added : e ∈ p.additions c event := mem_additions.2 ⟨entries, listed, mem, accepts⟩
    rw [rejects event] at added
    contradiction
  · intro refused event
    refine List.eq_nil_iff_forall_not_mem.2 ?_
    intro e added
    obtain ⟨entries, listed, mem, accepts⟩ := mem_additions.1 added
    rw [refused event entries listed e mem] at accepts
    contradiction

/-- Merging rejected candidates changes nothing, not even fields, as these are taken over only with
entries. -/
theorem Rejects.merge_eq (rejects : p.Rejects c) : p.merge c = p := by
  refine ext (fun event => ?_) fun event => ?_
  · rw [entries?_merge, if_neg (by simp [rejects event])]
  · rw [fields?_merge, if_neg (by simp [rejects event])]

/-- An entry that is not accepted is not accepted by a catalog that covers more either. -/
theorem accepts_eq_false_of_subset {e : Entry}
    (covered : ∀ tag ∈ p.coveredTags event, tag ∈ m.coveredTags event)
    (refused : p.accepts event e = false) : m.accepts event e = false := by
  refine Bool.eq_false_iff.2 fun accepts => Bool.eq_false_iff.1 refused ?_
  simp only [Catalog.accepts, Bool.and_eq_true, Bool.not_eq_true', ← Bool.not_eq_true,
    Entry.overlaps_iff] at accepts ⊢
  refine ⟨accepts.1, ?_⟩
  rintro ⟨tag, mem, old⟩
  exact accepts.2 ⟨tag, mem, covered tag old⟩

/-- Rejected candidates stay rejected when others are merged, as no tag is ever uncovered. -/
theorem Rejects.merge (rejects : p.Rejects c) (d : Catalog) : (p.merge d).Rejects c := by
  rw [rejects_iff] at rejects ⊢
  intro event entries listed e mem
  refine accepts_eq_false_of_subset (fun tag old => ?_) (rejects event entries listed e mem)
  exact mem_coveredTags_merge.2 (.inl old)

/-- Rejected candidates stay rejected in whatever run of merges, since what is covered only grows.
-/
theorem Rejects.foldl_merge (rejects : p.Rejects c) (others : List Catalog) :
    (others.foldl Catalog.merge p).Rejects c := by
  induction others generalizing p with
  | nil => exact rejects
  | cons d others ih => exact ih (rejects.merge d)

/-- Once merged, candidates are rejected: those that were accepted are covered by themselves now,
and the others still are not accepted. -/
theorem rejects_merge (p c : Catalog) : (p.merge c).Rejects c := by
  rw [rejects_iff]
  intro event entries listed e mem
  by_cases accepts : p.accepts event e
  · -- An accepted entry has a tag, which the merge covers.
    have added : e ∈ p.additions c event := mem_additions.2 ⟨entries, listed, mem, accepts⟩
    have tagged : e.tags ≠ [] := (accepts_iff.1 accepts).1
    obtain ⟨tag, rest, eq⟩ := List.exists_cons_of_ne_nil tagged
    have normal : Tag.normalize tag ∈ e.normalizedTags := by simp [Entry.normalizedTags, eq]
    have covered : Tag.normalize tag ∈ (p.merge c).coveredTags event :=
      mem_coveredTags_merge.2 (.inr ⟨e, added, normal⟩)
    have overlaps : e.overlaps ((p.merge c).coveredTags event) :=
      Entry.overlaps_iff.2 ⟨_, normal, covered⟩
    rw [Catalog.accepts, overlaps, Bool.not_true, Bool.and_false]
  · -- An entry that was not accepted before is not accepted by a catalog that covers more.
    refine accepts_eq_false_of_subset (fun tag old => ?_) (Bool.eq_false_iff.2 accepts)
    exact mem_coveredTags_merge.2 (.inl old)

/-! ### Counts -/

/-- Every candidate entry is added or rejected, so that no count can be off without the other. -/
theorem added_add_rejected (p c : Catalog) :
    (p.mergeCounts c).added + (p.mergeCounts c).rejected = c.entryCount := by
  show (c.events.toList.flatMap fun e => p.accepted e.1 e.2).length +
    (rejected p c).length = (c.events.toList.map (·.2)).flatten.length
  unfold rejected
  induction c.events.toList with
  | nil => rfl
  | cons e es ih =>
    -- The entries of one event fall into accepted ones and others.
    have parts : e.2.length =
        (e.2.filter (p.accepts e.1)).length + (e.2.filter fun x => !p.accepts e.1 x).length := by
      simpa [List.countP_eq_length_filter] using List.length_eq_countP_add_countP (p.accepts e.1)
    simp only [List.flatMap_cons, List.map_cons, List.flatten_cons, List.length_append,
      List.length_map, accepted] at ih ⊢
    omega

/-- Appending entries counts them, whether or not the event was there before. -/
theorem entryCount_append {entries : List Entry} :
    (m.append event entries).entryCount = m.entryCount + entries.length := by
  unfold append
  split
  · rename_i none
    rw [List.isEmpty_iff.1 none]
    rfl
  · -- The event's entries are set anew, with the old ones among them.
    have counted : (m.setEntries event ((m.entries? event).getD [] ++ entries)).entryCount +
        ((m.entries? event).getD []).length =
          m.entryCount + ((m.entries? event).getD [] ++ entries).length := entryCount_setEntries
    rw [List.length_append] at counted
    omega

/-- Taking fields over changes no count of entries, as it changes no entries. -/
theorem entryCount_adoptFields : (adoptFields p c m event).entryCount = m.entryCount := by
  have kept : ∀ fields, (m.setFields event fields).entryCount = m.entryCount := by
    intro fields
    unfold setFields
    split <;> rfl
  unfold adoptFields
  split
  · rfl
  · split
    · exact kept _
    · rfl

/-- The entries after a merge are those kept and those added, as the counts of the merge say. -/
theorem entryCount_merge (p c : Catalog) : (p.merge c).entryCount = (p.mergeCounts c).total := by
  -- The induction is on the candidates' events, for every catalog that has been merged so far.
  have steps : ∀ (es : List (String × List Entry)) (m : Catalog),
      (es.foldl (mergeEvent p c) m).entryCount =
        m.entryCount + (es.flatMap fun e => p.accepted e.1 e.2).length := by
    intro es
    induction es with
    | nil => exact fun m => rfl
    | cons e es ih =>
      intro m
      rw [List.foldl_cons, ih, mergeEvent, entryCount_adoptFields, entryCount_append,
        List.flatMap_cons, List.length_append, Nat.add_assoc]
  exact steps c.events.toList p

/-- Of candidates that are rejected each entry is counted as such, and none as added. -/
theorem Rejects.mergeCounts_eq (rejects : p.Rejects c) :
    p.mergeCounts c = ⟨p.entryCount, 0, c.entryCount⟩ := by
  have added : (p.mergeCounts c).added = 0 := by
    refine List.length_eq_zero_iff.2 (List.flatMap_eq_nil_iff.2 fun e mem => ?_)
    have listed : c.entries? e.1 = some e.2 := SortedMap.get?_eq_some_iff.2 mem
    have none := rejects e.1
    rwa [additions, listed, Option.getD_some] at none
  have total := added_add_rejected p c
  rw [added, Nat.zero_add] at total
  rw [← added, ← total]
  rfl

/-! ### Accepted candidates -/

/-- A catalog takes candidates if it accepts all of their entries. Candidates made for its gaps are
of this kind. -/
def Takes (p c : Catalog) : Prop :=
  ∀ event entries, c.entries? event = some entries → ∀ e ∈ entries, p.accepts event e

/-- Of candidates that are taken each entry is added, and none is rejected. -/
theorem Takes.mergeCounts_eq (takes : p.Takes c) :
    p.mergeCounts c = ⟨p.entryCount, c.entryCount, 0⟩ := by
  have rejected : (p.mergeCounts c).rejected = 0 := by
    refine List.length_eq_zero_iff.2 (List.flatMap_eq_nil_iff.2 fun ev mem => ?_)
    rw [List.map_eq_nil_iff, List.filter_eq_nil_iff]
    intro e inEntries
    have accepted := takes ev.1 ev.2 (SortedMap.get?_eq_some_iff.2 mem) e inEntries
    rw [accepted]
    decide
  have total := added_add_rejected p c
  rw [rejected, Nat.add_zero] at total
  rw [← rejected, ← total]
  rfl

/-! ### The merged catalog without the steps of a merge -/

/-- A candidate entry is fresh if it has a tag and covers nothing that the catalog covers. It is
said of combinations, while the merge compares tags under an event. -/
def Fresh (p : Catalog) (event : String) (e : Entry) : Prop :=
  e.tags ≠ [] ∧ ∀ x ∈ e.combinations event, x ∉ p.combinations

/-- Whether an entry is fresh can be computed, as lists are filtered by it. -/
instance : DecidablePred (p.Fresh event) := fun _ => inferInstanceAs (Decidable (_ ∧ _))

/-- A catalog is another one with candidates merged into it. The fresh candidate entries stand
behind those of their event, which stay as they are; an event with fresh entries is there if it was
not, and then has the candidates' fields, if they have some. All other fields are the old ones. -/
structure IsMerge (p c m : Catalog) : Prop where
  entries : ∀ event, (m.entries? event).getD [] = (p.entries? event).getD [] ++
    ((c.entries? event).getD []).filter fun e => p.Fresh event e
  contains : ∀ event, m.contains event ↔
    p.contains event ∨ ∃ e ∈ (c.entries? event).getD [], p.Fresh event e
  kept : ∀ event, p.contains event → m.fields? event = p.fields? event
  adopted : ∀ event, m.contains event → ¬p.contains event →
    m.fields? event = (c.fields? event).or (p.fields? event)
  others : ∀ event, ¬m.contains event → m.fields? event = p.fields? event

/-- The additions of a merge are the fresh candidate entries: those of whose tags none is covered
already, in their order. -/
theorem additions_eq_fresh : p.additions c event =
    ((c.entries? event).getD []).filter fun e => p.Fresh event e := by
  refine List.filter_congr fun e _ => ?_
  rw [Bool.eq_iff_iff, decide_eq_true_iff]
  exact accepts_iff

/-- A merge adds to an event if and only if one of its candidate entries is fresh. -/
theorem additions_ne_nil_iff : p.additions c event ≠ [] ↔
    ∃ e ∈ (c.entries? event).getD [], p.Fresh event e := by
  rw [additions_eq_fresh, ne_eq, List.filter_eq_nil_iff]
  simp

/-- The catalog that a merge makes is one with the candidates merged into it. -/
theorem isMerge_merge (p c : Catalog) : IsMerge p c (p.merge c) where
  entries event := by
    rw [getD_entries?_merge, additions_eq_fresh]
  contains event := by
    rw [contains_merge_iff, additions_ne_nil_iff]
  kept event has := by
    rw [fields?_merge, has, if_neg (by simp)]
  adopted event there new := by
    have added := (contains_merge_iff.1 there).resolve_left new
    rw [fields?_merge, if_pos ⟨Bool.eq_false_iff.2 new, added⟩]
  others event absent := by
    rw [fields?_merge, if_neg fun added => absent (contains_merge_iff.2 (.inr added.2))]

/-- A catalog's entries under an event are told by whether it has the event and which these are. -/
theorem entries?_eq_of_getD_eq {d : Catalog} (contains : c.contains event ↔ d.contains event)
    (entries : (c.entries? event).getD [] = (d.entries? event).getD []) :
    c.entries? event = d.entries? event := by
  rw [contains_iff, contains_iff] at contains
  cases hc : c.entries? event <;> cases hd : d.entries? event <;> simp_all

/-- Only one catalog is the one with the candidates merged into it, since each event is told by the
old catalog and the candidates. -/
theorem IsMerge.unique {d : Catalog} (isMerge : IsMerge p c m) (isMerge' : IsMerge p c d) :
    m = d := by
  have contains : ∀ event, m.contains event ↔ d.contains event := fun event =>
    (isMerge.contains event).trans (isMerge'.contains event).symm
  refine ext (fun event => ?_) fun event => ?_
  · refine entries?_eq_of_getD_eq (contains event) ?_
    rw [isMerge.entries, isMerge'.entries]
  · -- The three rules for fields cover every event, whether it is old, new or not there.
    by_cases old : p.contains event
    · rw [isMerge.kept event old, isMerge'.kept event old]
    · by_cases there : m.contains event
      · rw [isMerge.adopted event there old,
          isMerge'.adopted event ((contains event).1 there) old]
      · rw [isMerge.others event there, isMerge'.others event (there ∘ (contains event).2)]

/-- The merge of a catalog and candidates is the one catalog that keeps all entries and fields, has
the fresh candidate entries behind them and the candidates' fields at the events that these bring;
the counts account for all of its entries and for all candidate entries. -/
theorem isMerge_iff_eq_merge (p c m : Catalog) :
    (IsMerge p c m ↔ m = p.merge c) ∧ (p.mergeCounts c).retained = p.entryCount ∧
      (p.mergeCounts c).total = (p.merge c).entryCount ∧
      (p.mergeCounts c).added + (p.mergeCounts c).rejected = c.entryCount := by
  refine ⟨⟨fun isMerge => isMerge.unique (isMerge_merge p c), ?_⟩, rfl,
    (entryCount_merge p c).symm, added_add_rejected p c⟩
  rintro rfl
  exact isMerge_merge p c

/-! ### Absorption -/

/-- Merging candidates again, after whatever other merges, changes nothing and rejects them all. The
invariant is that the candidates are rejected; it holds after the first merge and is kept by the
others. -/
theorem merge_absorbs (p c : Catalog) (others : List Catalog) :
    let m := others.foldl merge (p.merge c)
    m.merge c = m ∧ m.mergeCounts c = ⟨m.entryCount, 0, c.entryCount⟩ := by
  intro m
  have rejects : m.Rejects c := (rejects_merge p c).foldl_merge others
  exact ⟨rejects.merge_eq, rejects.mergeCounts_eq⟩

end TemplateCoverage.Catalog
