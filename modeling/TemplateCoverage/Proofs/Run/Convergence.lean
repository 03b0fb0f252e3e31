import TemplateCoverage.Proofs.Document.Cards
import TemplateCoverage.Proofs.Files.Writing
import TemplateCoverage.Proofs.Layout
import TemplateCoverage.Proofs.Run.Runs

/-!
# `TemplateCoverage.Proofs.Run.Convergence`: synthesis and merge close all gaps

A synthesis writes candidates for what the catalogs lack, and a merge reads them back and writes
the merged catalogs. If the documents lie apart and survive being written, nothing is missing then,
and another synthesis writes nothing. The theorems:

* `fills_of_synthesis`, `holds_of_merge`: what each run leaves for the next one to read;
* `PlannedMerge.Fills`: what is merged for a locale fills the gaps of its catalog;
* `exists_runs_of_complete`: on complete catalogs an analysis and a synthesis change no file;
* `pipeline_converges`: a synthesis and a merge make every locale complete for good.
-/

set_option autoImplicit false

namespace TemplateCoverage.Run

open FileTree (Writes)

variable {make : Synthesizer} {layout : Layout} {locales : List Locale} {t t₁ t₂ : FileTree}
  {taxonomy : Taxonomy}

/-! ### After a synthesis -/

section Synthesis

variable {planned : List (Locale × Catalog)}

/-- The documents of a synthesis are those of the locales that have candidates. In this form one
document stands for each of these locales, as facts about different places ask for. -/
theorem flatMap_candidateDocuments : planned.flatMap (candidateDocuments layout) =
    (planned.filter (!·.2.isEmpty)).map (candidateDocument layout) := by
  induction planned with
  | nil => rfl
  | cons p planned ih =>
    rw [List.flatMap_cons, ih, List.filter_cons, candidateDocuments]
    cases p.2.isEmpty <;> rfl

/-- Whatever a synthesis writes, it writes at the path of the candidates of some locale. -/
theorem exists_of_mem_candidateDocuments {w : String × String}
    (mem : w ∈ planned.flatMap (candidateDocuments layout)) :
    ∃ l, w.1 = (layout.paths l).candidates := by
  rw [flatMap_candidateDocuments] at mem
  obtain ⟨p, _, rfl⟩ := List.mem_map.1 mem
  exact ⟨p.1, rfl⟩

/-- A synthesis leaves the taxonomy as it was, as no candidates lie where the taxonomy does. -/
theorem taxonomy_of_synthesis (apart : layout.Apart t)
    (writes : Writes (planned.flatMap (candidateDocuments layout)) t t₁)
    (holds : HoldsTaxonomy t layout.taxonomy taxonomy) :
    HoldsTaxonomy t₁ layout.taxonomy taxonomy := by
  refine holds.of_read_imp fun text read => writes.read_of_ne (fun w mem => ?_) read
  obtain ⟨l, eq⟩ := exists_of_mem_candidateDocuments mem
  exact eq ▸ (apart.taxonomy_ne l).2

/-- A synthesis leaves the catalogs as they were, also those of locales for which it has made
candidates. -/
theorem catalog_of_synthesis (apart : layout.Apart t)
    (writes : Writes (planned.flatMap (candidateDocuments layout)) t t₁) {l : Locale} {c : Catalog}
    (holds : HoldsCatalog t (layout.paths l).catalog c) :
    HoldsCatalog t₁ (layout.paths l).catalog c := by
  refine holds.of_read_imp fun text read => writes.read_of_ne (fun w mem => ?_) read
  obtain ⟨l', eq⟩ := exists_of_mem_candidateDocuments mem
  exact eq ▸ apart.catalog_ne_candidates l l'

/-- A synthesis leaves the texts of the candidates that there are. Locales must not come twice: the
later text would stand in the file. -/
theorem read_of_synthesis (apart : layout.Apart t) (distinct : (planned.map (·.1)).Nodup)
    (writes : Writes (planned.flatMap (candidateDocuments layout)) t t₁) {p : Locale × Catalog}
    (mem : p ∈ planned) (any : p.2.isEmpty = false) :
    t₁.read (layout.paths p.1).candidates = .ok (Document.candidatesText p.2) := by
  -- Locales without candidates write nothing, so the others' documents are the ones that count.
  have targets : planned.Pairwise fun a b =>
      t.target (layout.paths a.1).candidates ≠ t.target (layout.paths b.1).candidates :=
    (List.pairwise_map.1 distinct).imp fun ne same => ne (apart.candidates_inj same)
  have kept : (planned.filter (!·.2.isEmpty)).Sublist planned := List.filter_sublist
  have inFilter : p ∈ planned.filter (!·.2.isEmpty) := List.mem_filter.2 ⟨mem, by simp [any]⟩
  have written : candidateDocument layout p ∈
      (planned.filter (!·.2.isEmpty)).map (candidateDocument layout) := List.mem_map_of_mem inFilter
  have apartAll : (((planned.filter (!·.2.isEmpty)).map (candidateDocument layout)).map
      (t.target ·.1)).Nodup :=
    List.pairwise_map.2 (List.pairwise_map.2 (targets.sublist kept))
  rw [flatMap_candidateDocuments] at writes
  have read := writes.read_of_mem apartAll written
  exact read

end Synthesis

/-! ### After a merge -/

section Merge

variable {planned : List PlannedMerge}

/-- A merge leaves the taxonomy as it was, as no catalog lies where the taxonomy does. -/
theorem taxonomy_of_merge (apart : layout.Apart t)
    (writes : Writes (planned.map (mergedDocument layout)) t t₁)
    (holds : HoldsTaxonomy t layout.taxonomy taxonomy) :
    HoldsTaxonomy t₁ layout.taxonomy taxonomy := by
  refine holds.of_read_imp fun text read => writes.read_of_ne (fun w mem => ?_) read
  obtain ⟨p, _, rfl⟩ := List.mem_map.1 mem
  exact (apart.taxonomy_ne p.locale).1

/-- A merge leaves the texts of the merged catalogs. Locales must not come twice here either. -/
theorem read_of_merge (apart : layout.Apart t) (distinct : (planned.map (·.locale)).Nodup)
    (writes : Writes (planned.map (mergedDocument layout)) t t₁) {p : PlannedMerge}
    (mem : p ∈ planned) : t₁.read (layout.paths p.locale).catalog =
      .ok (Document.catalogText p.result p.locale) := by
  have targets : planned.Pairwise fun a b =>
      t.target (layout.paths a.locale).catalog ≠ t.target (layout.paths b.locale).catalog :=
    (List.pairwise_map.1 distinct).imp fun ne same => ne (apart.catalog_inj same)
  have written : mergedDocument layout p ∈ planned.map (mergedDocument layout) :=
    List.mem_map_of_mem mem
  have apartAll : ((planned.map (mergedDocument layout)).map (t.target ·.1)).Nodup :=
    List.pairwise_map.2 (List.pairwise_map.2 targets)
  have read := writes.read_of_mem apartAll written
  exact read

/-- What is merged for a locale are the candidates for what its catalog lacks, or anything if it
lacks nothing. Nothing can be said about the second case, as a synthesis leaves old candidates of a
complete locale where they are. -/
def PlannedMerge.Fills (p : PlannedMerge) (make : Synthesizer) (expected : SortedSet Combination) :
    Prop :=
  ∃ c, Synthesis.candidates make (expected.diff p.primary.combinations) p.locale = .ok c ∧
    (expected.diff p.primary.combinations ≠ SortedSet.empty → p.candidates = c)

/-- Nothing is missing after a merge that fills the gaps. If nothing was missing before, this holds
whatever is merged, since a merge never takes entries away. -/
theorem PlannedMerge.Fills.diff_result {p : PlannedMerge} {expected : SortedSet Combination}
    (fills : p.Fills make expected) : expected.diff p.result.combinations = SortedSet.empty := by
  obtain ⟨c, made, same⟩ := fills
  -- The two parts of `Fills` are used one each: what is merged is known only where something was
  -- missing.
  by_cases complete : expected.diff p.primary.combinations = SortedSet.empty
  · -- Whatever is merged, what was covered stays covered.
    refine SortedSet.ext ?_
    intro x
    have none : x ∉ (SortedSet.empty : SortedSet Combination) := List.not_mem_nil
    have covered : x ∈ p.primary.combinations → x ∈ p.result.combinations := fun old =>
      Catalog.mem_combinations.2
        (Catalog.mem_coveredTags_merge.2 (.inl (Catalog.mem_combinations.1 old)))
    have absent : x ∉ expected.diff p.primary.combinations := complete ▸ none
    rw [SortedSet.mem_diff] at absent ⊢
    grind
  · rw [result, same complete]
    exact Synthesis.diff_merge_candidates made

/-- Where something was missing, a merge that fills the gaps adds as many entries and rejects none:
there is one candidate for each missing combination. -/
theorem PlannedMerge.Fills.counts {p : PlannedMerge} {expected : SortedSet Combination}
    (fills : p.Fills make expected)
    (lacks : expected.diff p.primary.combinations ≠ SortedSet.empty) :
    (p.primary.mergeCounts p.candidates).rejected = 0 ∧
      (p.primary.mergeCounts p.candidates).added =
        (expected.diff p.primary.combinations).size := by
  obtain ⟨c, made, same⟩ := fills
  rw [same lacks, Synthesis.mergeCounts_candidates made]
  exact ⟨rfl, rfl⟩

end Merge

/-! ### Complete catalogs -/

section Complete

variable {held : List (Locale × Catalog)}

/-- On files with complete catalogs an analysis succeeds and reports every locale complete, in the
order in which the locales are asked for. -/
theorem exists_analysis_of_complete (holds : HoldsTaxonomy t layout.taxonomy taxonomy)
    (complete : ∀ h ∈ held, HoldsCatalog t (layout.paths h.1).catalog h.2 ∧
      taxonomy.expected.diff h.2.combinations = SortedSet.empty) :
    ∃ a, Does (analyze layout (held.map (·.1))) t a t ∧
      a.locales.map (·.locale) = held.map (·.1) ∧ ∀ r ∈ a.locales, r.coverage.isComplete := by
  let coverages := held.map fun h : Locale × Catalog => (⟨h.1, (layout.paths h.1).catalog,
    Coverage.measure taxonomy.expected h.2.combinations⟩ : LocaleCoverage)
  have keys : coverages.map (·.locale) = held.map (·.1) := List.map_map
  refine ⟨⟨taxonomy.eventCount, taxonomy.expected.size, coverages⟩, does_analyze_iff.2 ?_, keys, ?_⟩
  · refine ⟨taxonomy, coverages, holds, keys, fun r mem => ?_, rfl, rfl⟩
    obtain ⟨h, inHeld, rfl⟩ := List.mem_map.1 mem
    exact ⟨h.2, (complete h inHeld).1, rfl⟩
  · intro r mem
    obtain ⟨h, inHeld, rfl⟩ := List.mem_map.1 mem
    exact congrArg SortedSet.isEmpty (complete h inHeld).2

/-- On files with complete catalogs a synthesis has nothing to make and writes nothing, whatever the
synthesizer: it is never called. -/
theorem does_synthesize_of_complete (holds : HoldsTaxonomy t layout.taxonomy taxonomy)
    (complete : ∀ h ∈ held, HoldsCatalog t (layout.paths h.1).catalog h.2 ∧
      taxonomy.expected.diff h.2.combinations = SortedSet.empty) :
    Does (synthesize make layout (held.map (·.1))) t
      ((held.map (·.1)).map fun l => ⟨l, (layout.paths l).candidates, 0, false⟩) t := by
  let planned := held.map fun h : Locale × Catalog => (h.1, Catalog.empty)
  have nothing : planned.flatMap (candidateDocuments layout) = [] := by
    refine List.flatMap_eq_nil_iff.2 ?_
    intro p mem
    obtain ⟨h, _, rfl⟩ := List.mem_map.1 mem
    rfl
  refine does_synthesize_iff.2 ⟨taxonomy, planned, holds, List.map_map, fun p mem => ?_, ?_, ?_⟩
  · obtain ⟨h, inHeld, rfl⟩ := List.mem_map.1 mem
    refine ⟨h.2, (complete h inHeld).1, ?_⟩
    rw [(complete h inHeld).2]
    rfl
  · rw [nothing]
    rfl
  · rw [List.map_map, List.map_map]
    rfl

/-- On files with complete catalogs an analysis and then a synthesis succeed and change no file. The
first one finds every locale complete, and for the second one nothing is missing. -/
theorem exists_runs_of_complete {m : Machine} (keys : held.map (·.1) = locales)
    (holds : HoldsTaxonomy m.files layout.taxonomy taxonomy)
    (complete : ∀ h ∈ held, HoldsCatalog m.files (layout.paths h.1).catalog h.2 ∧
      taxonomy.expected.diff h.2.combinations = SortedSet.empty) :
    ∃ a m₁ m₂, (analyze layout locales).run.run m = (.ok a, m₁) ∧
      a.locales.map (·.locale) = locales ∧ (∀ r ∈ a.locales, r.coverage.isComplete) ∧
      (synthesize make layout locales).run.run m₁ =
        (.ok (locales.map fun l => ⟨l, (layout.paths l).candidates, 0, false⟩), m₂) ∧
      m₂.files = m.files := by
  subst keys
  obtain ⟨a, analyzed, order, all⟩ := exists_analysis_of_complete holds complete
  obtain ⟨m₁, run, same⟩ := analyzed.exists_run rfl
  have again : Does (synthesize make layout (held.map (·.1))) m.files _ m.files :=
    does_synthesize_of_complete holds complete
  obtain ⟨m₂, run', same'⟩ := again.exists_run same
  exact ⟨a, m₁, m₂, run, order, all, run', same'⟩

end Complete

/-! ### From one run to the next -/

/-- What a merge loads after a synthesis is the old catalog and what fills its gaps. The candidates
have been read back from their text, which is why they must be readable and carry no key that the
entry itself uses. -/
theorem fills_of_synthesis {planned : List (Locale × Catalog)} (apart : layout.Apart t)
    (distinct : (planned.map (·.1)).Nodup)
    (free : Synthesis.CarriesNoKnownKey make)
    (plans : ∀ p ∈ planned, IsPlanned make layout taxonomy t p)
    (writes : Writes (planned.flatMap (candidateDocuments layout)) t t₁)
    (readable : ∀ p ∈ planned, (Document.value p.2).Readable)
    {q : PlannedMerge} (mem : q.locale ∈ planned.map (·.1)) (loaded : IsLoaded layout t₁ q) :
    HoldsCatalog t (layout.paths q.locale).catalog q.primary ∧
      q.Fills make taxonomy.expected := by
  obtain ⟨p, inPlanned, same⟩ := List.mem_map.1 mem
  obtain ⟨old, holds, made⟩ := plans p inPlanned
  rw [same] at holds made
  have primary : q.primary = old :=
    loaded.1.unique (catalog_of_synthesis apart writes holds)
  rw [primary]
  refine ⟨holds, p.2, by rw [primary]; exact made, fun lacks => ?_⟩
  rw [primary] at lacks
  -- Where something was missing, the candidates that are loaded are those just written.
  have any : p.2.isEmpty = false :=
    Bool.eq_false_iff.2 fun none => lacks ((Synthesis.isEmpty_iff made).1 none)
  have text := read_of_synthesis apart distinct writes inPlanned any
  have decoded := Document.readCatalog_candidatesText (Catalog.storable_candidates made free)
    (readable p inPlanned)
  rw [same] at text
  exact loaded.2.unique ⟨_, text, decoded⟩

/-- A merge leaves the merged catalogs to be read: what is loaded from the text that was written is
the merged catalog itself, and not just one that is like it. -/
theorem holds_of_merge {planned : List PlannedMerge} (apart : layout.Apart t₁)
    (distinct : (planned.map (·.locale)).Nodup) (loaded : ∀ q ∈ planned, IsLoaded layout t₁ q)
    (writes : Writes (planned.map (mergedDocument layout)) t₁ t₂)
    (readable : ∀ q ∈ planned, (Document.value q.result).Readable) {q : PlannedMerge}
    (mem : q ∈ planned) : HoldsCatalog t₂ (layout.paths q.locale).catalog q.result := by
  obtain ⟨⟨_, _, primary⟩, ⟨_, _, candidates⟩⟩ := loaded q mem
  -- Both catalogs come from a document, and a merge of such catalogs can be written again.
  have storable : q.result.Storable :=
    (Catalog.storable_of_readCatalog primary).merge (Catalog.storable_of_readCatalog candidates)
  exact ⟨_, read_of_merge apart distinct writes mem,
    Document.readCatalog_catalogText storable (readable q mem) q.locale⟩

/-! ### A sample -/

/-- The documents with short names in the working directory. No two of the five have the same name,
so that they lie apart. -/
def sampleLayout : Layout :=
  ⟨"events.yaml", ⟨"en.jsonc", "en.json"⟩, ⟨"cn.jsonc", "cn.json"⟩⟩

/-- The taxonomy of one event in its default variant, so that a catalog lacks one combination or
none. -/
def sampleTaxonomy : Taxonomy := Taxonomy.ofList [("push", [])]

/-- Cards for all that the taxonomy expects, as the program's own synthesizer makes them. -/
def sampleCards (locale : Locale) : Catalog :=
  Synthesis.filing Card.entry sampleTaxonomy.expected locale

/-- Files with an English catalog that lacks everything and a Chinese one that is complete, beside
which stale candidates lie. So both cases of `PlannedMerge.Fills` occur. -/
def sampleFiles : FileTree := .inRoot [
  ("events.yaml", .file (.text "events: {push: }")),
  ("en.jsonc", .file (.text "{}")),
  ("cn.jsonc", .file (.text (Document.candidatesText (sampleCards .chinese)))),
  ("cn.json", .file (.text (Document.candidatesText Document.awkward)))]

/-- The documents of the sample lie apart, which is computed from their names. -/
theorem apart_sample : sampleLayout.Apart sampleFiles := by
  unfold Layout.Apart
  decide +kernel

/-- The documents of the sample have plain names, so that each of them is reached from the working
directory in one step. -/
theorem isPlain_sample {name : String} (mem : name ∈ sampleLayout.files) :
    FileTree.IsPlain name := by
  have all : ∀ name ∈ sampleLayout.files, FileTree.IsPlain name := by decide +kernel
  exact all name mem

/-- The cards are what the synthesizer makes for all that the taxonomy expects. -/
theorem candidates_sampleCards (locale : Locale) :
    Synthesis.candidates Card.entry sampleTaxonomy.expected locale = .ok (sampleCards locale) :=
  Synthesis.candidates_eq_ok_iff.2 ⟨Synthesis.fits_card, rfl⟩

/-- The cards can be written and read back: they hold no doubles and are not deep. -/
theorem readable_sampleCards (locale : Locale) :
    (Document.value (sampleCards locale)).Readable :=
  Document.readable_cards (candidates_sampleCards locale)

/-- The text of the sample's taxonomy is read as the sample's taxonomy. Only its events are
computed; a taxonomy is determined by them. -/
theorem readTaxonomy_sample : Document.readTaxonomy "events: {push: }" = .ok sampleTaxonomy := by
  have declared : (Document.readTaxonomy "events: {push: }").toOption.map (·.events.toList) =
      some [("push", [])] := by decide +kernel
  cases read : Document.readTaxonomy "events: {push: }" with
  | error defect =>
    rw [read] at declared
    contradiction
  | ok taxonomy =>
    rw [read] at declared
    rw [sampleTaxonomy, Taxonomy.ofList, ← Option.some.inj declared, SortedMap.ofList_toList]

/-- The taxonomy of the sample is on its files, at the path that the layout gives. -/
theorem holds_sampleTaxonomy : HoldsTaxonomy sampleFiles sampleLayout.taxonomy sampleTaxonomy :=
  ⟨"events: {push: }", (isPlain_sample (by decide)).read rfl, readTaxonomy_sample⟩

/-- What the catalogs of the sample hold: nothing in English, all cards in Chinese. -/
def sampleCatalog : Locale → Catalog
  | .english => Catalog.empty
  | .chinese => sampleCards .chinese

/-- These catalogs are on the files of the sample, each at its locale's path. -/
theorem holds_sampleCatalog (locale : Locale) :
    HoldsCatalog sampleFiles (sampleLayout.paths locale).catalog (sampleCatalog locale) := by
  cases locale with
  | english =>
    exact ⟨"{}", (isPlain_sample (by decide)).read rfl, Document.readCatalog_braces⟩
  | chinese =>
    exact ⟨Document.candidatesText (sampleCards .chinese),
      (isPlain_sample (by decide)).read rfl,
      Document.readCatalog_cards (candidates_sampleCards _)⟩

/-- What a synthesis makes for the sample: all cards in English, nothing in Chinese. -/
def sampleCandidates : Locale → Catalog
  | .english => sampleCards .english
  | .chinese => Catalog.empty

/-- A catalog without events lacks a card for all that the taxonomy expects. -/
theorem candidates_of_empty (locale : Locale) : Synthesis.candidates Card.entry
    (sampleTaxonomy.expected.diff Catalog.empty.combinations) locale =
      .ok (sampleCards locale) := by
  have all : sampleTaxonomy.expected.diff Catalog.empty.combinations =
      sampleTaxonomy.expected := by decide +kernel
  rw [all]
  exact candidates_sampleCards locale

/-- The synthesizer makes these candidates for what the catalogs of the sample lack. -/
theorem candidates_sample (locale : Locale) : Synthesis.candidates Card.entry
    (sampleTaxonomy.expected.diff (sampleCatalog locale).combinations) locale =
      .ok (sampleCandidates locale) := by
  cases locale with
  | english => exact candidates_of_empty .english
  | chinese =>
    have none : sampleTaxonomy.expected.diff (sampleCatalog .chinese).combinations =
        SortedSet.empty := by decide +kernel
    rw [none]
    exact Synthesis.candidates_eq_ok_iff.2 ⟨Synthesis.fits_card, rfl⟩

/-- What a merge of the sample finds beside the catalogs: the new candidates in English, the stale
ones in Chinese. -/
def sampleBeside : Locale → Catalog
  | .english => sampleCards .english
  | .chinese => Document.awkward

/-- The sample after a synthesis, which has written the English candidates and nothing else. -/
def sampleFiles' : FileTree :=
  sampleFiles.put (sampleFiles.homeSlot "en.json")
    (.file (.text (Document.candidatesText (sampleCards .english)))) (by decide)

/-- Both candidates are on the files after the synthesis: the new ones in English, the stale ones in
Chinese. -/
theorem holds_sampleBeside (locale : Locale) :
    HoldsCatalog sampleFiles' (sampleLayout.paths locale).candidates (sampleBeside locale) := by
  cases locale with
  | english =>
    exact ⟨Document.candidatesText (sampleCards .english),
      (isPlain_sample (by decide)).read rfl,
      Document.readCatalog_cards (candidates_sampleCards _)⟩
  | chinese =>
    refine ⟨Document.candidatesText Document.awkward,
      (isPlain_sample (by decide)).read rfl, ?_⟩
    exact Document.readCatalog_candidatesText Document.storable_awkward Document.readable_awkward

/-- The merged catalogs of the sample can be written and read back. The Chinese one is as it was,
since the stale candidates are all rejected. -/
theorem readable_sampleMerged (locale : Locale) :
    (Document.value ((sampleCatalog locale).merge (sampleBeside locale))).Readable where
  depth_le := by cases locale <;> decide
  doubles x mem := by
    have none : (Document.value ((sampleCatalog locale).merge
        (sampleBeside locale))).1.doubles = [] := by cases locale <;> rfl
    rw [none] at mem
    contradiction

/-- What the sample's synthesis plans, for the locales in their own order. The Chinese candidates
are empty, so that they are not written. -/
def samplePlanned : List (Locale × Catalog) := Locale.all.map fun l => (l, sampleCandidates l)

/-- What the sample's merge plans, for the locales in their own order: the catalog and the
candidates of each. -/
def sampleLoads : List PlannedMerge := Locale.all.map fun l => ⟨l, sampleCatalog l, sampleBeside l⟩

/-- The synthesis of the sample writes one document, as nothing is missing in Chinese. -/
theorem writes_sample : FileTree.Writes (samplePlanned.flatMap (candidateDocuments sampleLayout))
    sampleFiles sampleFiles' :=
  FileTree.writes_singleton_iff.2 ((isPlain_sample (by decide)).write (by decide) _)

/-- What the sample's merge plans is what it loads after the synthesis, read back from the written
texts. -/
theorem isLoaded_sample : ∀ q ∈ sampleLoads, IsLoaded sampleLayout sampleFiles' q := by
  intro q mem
  obtain ⟨l, _, rfl⟩ := List.mem_map.1 mem
  exact ⟨catalog_of_synthesis apart_sample writes_sample (holds_sampleCatalog l),
    holds_sampleBeside l⟩

/-- The documents of the sample still lie apart after the synthesis, as it moves none of them. -/
theorem apart_sample' : sampleLayout.Apart sampleFiles' :=
  Layout.apart_of_writes apart_sample writes_sample

/-- The sample's merge succeeds after the synthesis: both merged catalogs can be written, one after
the other, since their places hold files already. -/
theorem exists_does_merge_sample : ∃ t,
    FileTree.Writes (sampleLoads.map (mergedDocument sampleLayout)) sampleFiles' t ∧
      Does (merge sampleLayout Locale.all) sampleFiles'
        (sampleLoads.map (mergeOf sampleLayout)) t := by
  have writes : FileTree.Writes (sampleLoads.map (mergedDocument sampleLayout)) sampleFiles' _ :=
    ⟨_, (isPlain_sample (by decide)).write (by decide) _, _,
      (isPlain_sample (by decide)).write (by decide) _, rfl⟩
  exact ⟨_, writes, does_merge_iff.2 ⟨sampleLoads, rfl, isLoaded_sample, writes, rfl⟩⟩

/-! ### Convergence -/

/-- Where the documents lie apart and what is written can be read, a synthesis and a merge keep the
old entries in front, add one entry for each missing combination where there are any, and leave
every locale complete, so that another synthesis has nothing to write. Both runs are taken to
succeed; what they leave for each other is read from the texts. -/
theorem pipeline_converges {m m₁ m₂ : Machine} {made : List LocaleSynthesis}
    {merged : List LocaleMerge} (apart : layout.Apart m.files) (distinct : locales.Nodup)
    (free : Synthesis.CarriesNoKnownKey make)
    (synthesized : (synthesize make layout locales).run.run m = (.ok made, m₁))
    (merges : (merge layout locales).run.run m₁ = (.ok merged, m₂))
    (readableCandidates : ∀ l ∈ locales, ∀ taxonomy p c,
      HoldsTaxonomy m.files layout.taxonomy taxonomy →
      HoldsCatalog m.files (layout.paths l).catalog p →
      Synthesis.candidates make (taxonomy.expected.diff p.combinations) l = .ok c →
        (Document.value c).Readable)
    (readableCatalogs : ∀ l ∈ locales, ∀ p c,
      HoldsCatalog m₁.files (layout.paths l).catalog p →
      HoldsCatalog m₁.files (layout.paths l).candidates c →
        (Document.value (p.merge c)).Readable) :
    ∃ taxonomy, HoldsTaxonomy m.files layout.taxonomy taxonomy ∧
      merged.map (·.locale) = locales ∧
      (∀ r ∈ merged, ∃ old new, HoldsCatalog m.files (layout.paths r.locale).catalog old ∧
        HoldsCatalog m₂.files (layout.paths r.locale).catalog new ∧
        (∀ event entries, old.entries? event = some entries →
          ∃ more, new.entries? event = some (entries ++ more)) ∧
        (taxonomy.expected.diff old.combinations ≠ SortedSet.empty →
          r.counts.rejected = 0 ∧
            r.counts.added = (taxonomy.expected.diff old.combinations).size)) ∧
      ∃ a m₃ m₄, (analyze layout locales).run.run m₂ = (.ok a, m₃) ∧
        a.locales.map (·.locale) = locales ∧ (∀ r ∈ a.locales, r.coverage.isComplete) ∧
        (synthesize make layout locales).run.run m₃ =
          (.ok (locales.map fun l => ⟨l, (layout.paths l).candidates, 0, false⟩), m₄) ∧
        m₄.files = m₂.files := by
  obtain ⟨taxonomy, planned, holds, keys, plans, writes, rfl⟩ :=
    does_synthesize_iff.1 (Does.of_run synthesized)
  obtain ⟨loads, keys', loaded, writes', rfl⟩ := does_merge_iff.1 (Does.of_run merges)
  subst keys
  have distinct' : (loads.map (·.locale)).Nodup := keys' ▸ distinct
  have apart' : layout.Apart m₁.files := Layout.apart_of_writes apart writes
  have readable : ∀ p ∈ planned, (Document.value p.2).Readable := by
    intro p mem
    obtain ⟨old, held, candidates⟩ := plans p mem
    exact readableCandidates p.1 (List.mem_map_of_mem mem) taxonomy old p.2 holds held candidates
  have readable' : ∀ q ∈ loads, (Document.value q.result).Readable := fun q mem =>
    readableCatalogs q.locale (keys' ▸ List.mem_map_of_mem mem) q.primary q.candidates
      (loaded q mem).1 (loaded q mem).2
  -- The first run leaves for the second one what fills the gaps, and the second one leaves the
  -- merged catalogs for the last two.
  have fills : ∀ q ∈ loads, HoldsCatalog m.files (layout.paths q.locale).catalog q.primary ∧
      q.Fills make taxonomy.expected := fun q mem =>
    fills_of_synthesis apart distinct free plans writes readable
      (keys' ▸ List.mem_map_of_mem mem) (loaded q mem)
  have result : ∀ q ∈ loads, HoldsCatalog m₂.files (layout.paths q.locale).catalog q.result :=
    fun q mem => holds_of_merge apart' distinct' loaded writes' readable' mem
  refine ⟨taxonomy, holds, List.map_map.trans keys', fun r mem => ?_, ?_⟩
  · obtain ⟨q, inLoads, rfl⟩ := List.mem_map.1 mem
    obtain ⟨old, fill⟩ := fills q inLoads
    refine ⟨q.primary, q.result, old, result q inLoads, fun event entries found => ?_, fill.counts⟩
    exact Catalog.exists_append_of_entries? found
  · -- What the merge left is complete, so that the last two runs change no file.
    have holds' := taxonomy_of_merge apart' writes' (taxonomy_of_synthesis apart writes holds)
    let held := loads.map fun q => (q.locale, q.result)
    have heldKeys : held.map (·.1) = planned.map (·.1) := List.map_map.trans keys'
    refine exists_runs_of_complete heldKeys holds' fun h mem => ?_
    obtain ⟨q, inLoads, rfl⟩ := List.mem_map.1 mem
    exact ⟨result q inLoads, (fills q inLoads).2.diff_result⟩

/-- The pipeline runs on the sample and makes both locales complete, the English one by a merge of
new candidates and the Chinese one in spite of stale ones. -/
theorem pipeline_converges_sample : ∃ made m₁ merged m₂ a m₃,
    (synthesize Card.entry sampleLayout Locale.all).run.run ⟨sampleFiles, none, []⟩ =
      (.ok made, m₁) ∧
    (merge sampleLayout Locale.all).run.run m₁ = (.ok merged, m₂) ∧
    (analyze sampleLayout Locale.all).run.run m₂ = (.ok a, m₃) ∧
    ∀ r ∈ a.locales, r.coverage.isComplete := by
  have synthesized : Does (synthesize Card.entry sampleLayout Locale.all) sampleFiles
      (samplePlanned.map (synthesisOf sampleLayout)) sampleFiles' := by
    refine does_synthesize_iff.2 ⟨sampleTaxonomy, samplePlanned, holds_sampleTaxonomy, rfl,
      fun p mem => ?_, writes_sample, rfl⟩
    obtain ⟨l, _, rfl⟩ := List.mem_map.1 mem
    exact ⟨sampleCatalog l, holds_sampleCatalog l, candidates_sample l⟩
  have catalogs : ∀ l, HoldsCatalog sampleFiles' (sampleLayout.paths l).catalog (sampleCatalog l) :=
    fun l => catalog_of_synthesis apart_sample writes_sample (holds_sampleCatalog l)
  obtain ⟨_, _, merged⟩ := exists_does_merge_sample
  obtain ⟨m₁, run, files⟩ := synthesized.exists_run (m := ⟨sampleFiles, none, []⟩) rfl
  obtain ⟨m₂, run', _⟩ := merged.exists_run files
  have readable : ∀ l ∈ Locale.all, ∀ taxonomy p c,
      HoldsTaxonomy sampleFiles sampleLayout.taxonomy taxonomy →
      HoldsCatalog sampleFiles (sampleLayout.paths l).catalog p →
      Synthesis.candidates Card.entry (taxonomy.expected.diff p.combinations) l = .ok c →
        (Document.value c).Readable := by
    intro l _ taxonomy p c holds held made
    obtain rfl := holds.unique holds_sampleTaxonomy
    obtain rfl := held.unique (holds_sampleCatalog l)
    rw [candidates_sample] at made
    cases made
    cases l with
    | english => exact readable_sampleCards .english
    | chinese => exact ⟨by decide, nofun⟩
  have readable' : ∀ l ∈ Locale.all, ∀ p c,
      HoldsCatalog m₁.files (sampleLayout.paths l).catalog p →
      HoldsCatalog m₁.files (sampleLayout.paths l).candidates c →
        (Document.value (p.merge c)).Readable := by
    intro l _ p c held beside
    rw [files] at held beside
    obtain rfl := held.unique (catalogs l)
    obtain rfl := beside.unique (holds_sampleBeside l)
    exact readable_sampleMerged l
  obtain ⟨_, _, _, _, a, m₃, _, analyzed, _, complete, _⟩ :=
    pipeline_converges apart_sample (by decide) Synthesis.carriesNoKnownKey_card run
      run' readable readable'
  exact ⟨_, m₁, _, m₂, a, m₃, run, run', analyzed, complete⟩

end TemplateCoverage.Run
