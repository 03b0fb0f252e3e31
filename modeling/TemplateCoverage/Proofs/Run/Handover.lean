import TemplateCoverage.Proofs.Document.Cards
import TemplateCoverage.Proofs.Run.Atomicity

/-!
# `TemplateCoverage.Proofs.Run.Handover`: a merge right after a synthesis

A synthesis writes candidates for the locales whose catalogs lack something and nothing for the
others, while a merge loads candidates for every locale. So a merge that follows a synthesis depends
on the candidates that lay there before only for the locales that were complete. The theorems:

* `holds_candidates`: the candidates of cards that a synthesis writes are loaded again;
* `read_candidates_eq`: what is read of the candidates of a complete locale stays the same;
* `exists_holds_candidates_iff`: for which locales there are candidates after a synthesis;
* `merge_follows_synthesis_iff`: when the merge succeeds, and which error it ends in otherwise;
* `merge_follows_synthesis_missing`: a synthesis that succeeds before a merge that does not.
-/

set_option autoImplicit false

namespace TemplateCoverage.Run

open FileTree (Writes)

variable {dir : String} {locales : List Locale} {t t₁ : FileTree} {taxonomy : Taxonomy}

/-- Nothing is missing in the catalog of a locale, as an analysis of the same files would find. It
is told of the files before the synthesis. -/
def IsComplete (layout : Layout) (t : FileTree) (l : Locale) : Prop :=
  ∃ taxonomy p, HoldsTaxonomy t layout.taxonomy taxonomy ∧
    HoldsCatalog t (layout.paths l).catalog p ∧
      taxonomy.expected.diff p.combinations = SortedSet.empty

/-! ### What a synthesis of cards leaves -/

section Synthesis

variable {planned : List (Locale × Catalog)} {p : Locale × Catalog}

/-- A locale is complete if and only if no candidates are made for it. So whether a synthesis writes
for a locale can be told from the files alone. -/
theorem IsPlanned.isEmpty_iff {make : Synthesizer} {layout : Layout}
    (holds : HoldsTaxonomy t layout.taxonomy taxonomy)
    (plan : IsPlanned make layout taxonomy t p) : p.2.isEmpty ↔ IsComplete layout t p.1 := by
  obtain ⟨old, held, made⟩ := plan
  rw [Synthesis.isEmpty_iff made]
  refine ⟨fun none => ⟨taxonomy, old, holds, held, none⟩, ?_⟩
  intro ⟨taxonomy', old', holds', held', nothing⟩
  obtain rfl := holds.unique holds'
  obtain rfl := held.unique held'
  exact nothing

variable (writes : Writes (planned.flatMap (candidateDocuments (Layout.inDirectory dir))) t t₁)
include writes

/-- Candidates of cards that are written are loaded again. Cards have no doubles and are not deep,
so that nothing has to be assumed about them. -/
theorem holds_candidates (distinct : (planned.map (·.1)).Nodup) (mem : p ∈ planned)
    (plan : IsPlanned Card.entry (Layout.inDirectory dir) taxonomy t p)
    (some : p.2.isEmpty = false) :
    HoldsCatalog t₁ ((Layout.inDirectory dir).paths p.1).candidates p.2 := by
  obtain ⟨_, _, made⟩ := plan
  have read := read_of_synthesis (Layout.apart_inDirectory dir t) distinct writes mem some
  exact ⟨_, read, Document.readCatalog_cards made⟩

/-- What is read of the candidates of a complete locale stays the same. This also holds where
nothing can be read there, as the directory is there and no write makes another one. -/
theorem read_candidates_eq (holds : HoldsTaxonomy t (Layout.inDirectory dir).taxonomy taxonomy)
    (plans : ∀ p ∈ planned, IsPlanned Card.entry (Layout.inDirectory dir) taxonomy t p)
    {l : Locale} (complete : IsComplete (Layout.inDirectory dir) t l) :
    t₁.read ((Layout.inDirectory dir).paths l).candidates =
      t.read ((Layout.inDirectory dir).paths l).candidates := by
  -- The directory is there, as the catalog of the locale is read from it.
  obtain ⟨_, _, _, ⟨_, read, _⟩, _⟩ := id complete
  rw [Layout.catalog_inDirectory] at read
  obtain ⟨place, leads⟩ := FileTree.leadsTo_of_read (Layout.isFileName_catalogFile l) read
  rw [Layout.candidates_inDirectory]
  refine leads.read_eq_of_writes (Layout.isFileName_candidatesFile l) writes fun w mem => ?_
  rw [flatMap_candidateDocuments] at mem
  obtain ⟨q, inFilter, rfl⟩ := List.mem_map.1 mem
  obtain ⟨inPlanned, any⟩ := List.mem_filter.1 inFilter
  refine ⟨_, Layout.isFileName_candidatesFile q.1, fun same => ?_,
    Layout.candidates_inDirectory dir q.1⟩
  -- Only locales that are not complete have candidates written.
  have none : q.2.isEmpty :=
    ((plans q inPlanned).isEmpty_iff holds).2 (Layout.candidatesFile_inj same ▸ complete)
  rw [none] at any
  contradiction

/-- After a synthesis there are candidates for a locale if there were some before, as far as the
locale was complete. For the others the synthesis has written them. -/
theorem exists_holds_candidates_iff (distinct : (planned.map (·.1)).Nodup)
    (holds : HoldsTaxonomy t (Layout.inDirectory dir).taxonomy taxonomy)
    (plans : ∀ p ∈ planned, IsPlanned Card.entry (Layout.inDirectory dir) taxonomy t p)
    (mem : p ∈ planned) :
    (∃ c, HoldsCatalog t₁ ((Layout.inDirectory dir).paths p.1).candidates c) ↔
      (IsComplete (Layout.inDirectory dir) t p.1 →
        ∃ c, HoldsCatalog t ((Layout.inDirectory dir).paths p.1).candidates c) := by
  by_cases complete : IsComplete (Layout.inDirectory dir) t p.1
  · -- Nothing has been written for a complete locale.
    rw [imp_iff_right complete]
    unfold HoldsCatalog Holds
    rw [read_candidates_eq writes holds plans complete]
  · have some : p.2.isEmpty = false :=
      Bool.eq_false_iff.2 (mt ((plans p mem).isEmpty_iff holds).1 complete)
    have written := holds_candidates writes distinct mem (plans p mem) some
    exact iff_of_true ⟨p.2, written⟩ fun all => absurd all complete

/-- Candidates that do not load after a synthesis are those of a complete locale, and they did not
load before it, with the same error. -/
theorem IsUnread.before_synthesis (distinct : (planned.map (·.1)).Nodup)
    (holds : HoldsTaxonomy t (Layout.inDirectory dir).taxonomy taxonomy)
    (plans : ∀ p ∈ planned, IsPlanned Card.entry (Layout.inDirectory dir) taxonomy t p)
    (mem : p ∈ planned) {e : RunError}
    (unread : IsUnreadCatalog t₁ ((Layout.inDirectory dir).paths p.1).candidates e) :
    IsComplete (Layout.inDirectory dir) t p.1 ∧
      IsUnreadCatalog t ((Layout.inDirectory dir).paths p.1).candidates e := by
  have complete : IsComplete (Layout.inDirectory dir) t p.1 := by
    by_contra lacks
    obtain ⟨c, loaded⟩ := (exists_holds_candidates_iff writes distinct holds plans mem).2
      fun all => absurd all lacks
    exact unread.not_holds loaded
  refine ⟨complete, ?_⟩
  unfold IsUnreadCatalog IsUnread at unread ⊢
  rwa [read_candidates_eq writes holds plans complete] at unread

end Synthesis

/-! ### The merge after it -/

/-- After a synthesis of cards into one directory, a merge of the same locales succeeds if and only
if the candidates of each locale that was complete load from the files before the synthesis. If it
fails, it does so with the error of the candidates of a complete locale and changes no file. -/
theorem merge_follows_synthesis_iff (dir : String) {locales : List Locale} {m m₁ : Machine}
    {made : List LocaleSynthesis} (distinct : locales.Nodup)
    (synthesized : (synthesize Card.entry (Layout.inDirectory dir) locales).run.run m =
      (.ok made, m₁)) :
    ((∃ merged m₂, (merge (Layout.inDirectory dir) locales).run.run m₁ = (.ok merged, m₂)) ↔
      ∀ l ∈ locales, IsComplete (Layout.inDirectory dir) m.files l →
        ∃ c, HoldsCatalog m.files ((Layout.inDirectory dir).paths l).candidates c) ∧
    ∀ e m₂, (merge (Layout.inDirectory dir) locales).run.run m₁ = (.error e, m₂) →
      m₂.files = m₁.files ∧ ∃ l ∈ locales, IsComplete (Layout.inDirectory dir) m.files l ∧
        IsUnreadCatalog m.files ((Layout.inDirectory dir).paths l).candidates e := by
  obtain ⟨taxonomy, planned, holds, rfl, plans, writes, _⟩ :=
    does_synthesize_iff.1 (Does.of_run synthesized)
  -- Every locale has been planned, so its catalog has been read, and no write has touched it.
  have catalogs : ∀ p ∈ planned,
      ∃ c, HoldsCatalog m₁.files ((Layout.inDirectory dir).paths p.1).catalog c := by
    intro p mem
    obtain ⟨old, held, _⟩ := plans p mem
    exact ⟨old, catalog_of_synthesis (Layout.apart_inDirectory dir m.files) writes held⟩
  refine ⟨?_, fun e m₂ run => ?_⟩
  · -- The catalogs load anyway, so that only the candidates decide.
    rw [exists_run_iff, exists_does_merge_iff, List.forall_mem_map,
      List.forall_mem_map]
    refine forall₂_congr fun p mem => ?_
    rw [and_iff_right (catalogs p mem)]
    exact exists_holds_candidates_iff writes distinct holds plans mem
  · obtain ⟨kept, l, mem, unread⟩ := unread_of_fails_merge (Fails.of_run run)
    obtain ⟨p, inPlanned, rfl⟩ := List.mem_map.1 mem
    obtain ⟨c, held⟩ := catalogs p inPlanned
    rcases unread with unread | ⟨_, unread⟩
    · exact (unread.not_holds held).elim
    · exact ⟨kept, p.1, mem, unread.before_synthesis writes distinct holds plans inPlanned⟩

/-! ### A complete locale with and without candidates -/

/-- Documents in the working directory: an English catalog that lacks everything and a Chinese one
that is complete, without candidates. -/
def workFiles : FileTree := .inRoot [
  ("events.yaml", .file (.text "events: {push: }")),
  ("templates.jsonc", .file (.text "{}")),
  ("templates.cn.jsonc", .file (.text (Document.candidatesText (sampleCards .chinese))))]

/-- The same with Chinese candidates, of whatever kind: a merge loads them although the locale is
complete. -/
def stockedFiles : FileTree :=
  workFiles.put (workFiles.homeSlot "generated_missing_templates_cn.json")
    (.file (.text (Document.candidatesText Document.awkward))) (by decide)

/-- The documents have plain names when the directory is the working directory itself. -/
theorem isPlain_work {name : String} (mem : name ∈ (Layout.inDirectory "").files) :
    FileTree.IsPlain name := by
  have all : ∀ name ∈ (Layout.inDirectory "").files, FileTree.IsPlain name := by decide +kernel
  exact all name mem

/-- The taxonomy is on both files, so that the two samples share what is planned for them. -/
theorem holds_workTaxonomy (work : t = workFiles ∨ t = stockedFiles) :
    HoldsTaxonomy t (Layout.inDirectory "").taxonomy sampleTaxonomy := by
  have plain : FileTree.IsPlain "events.yaml" := isPlain_work (by decide)
  rcases work with rfl | rfl <;>
    exact ⟨"events: {push: }", plain.read rfl, readTaxonomy_sample⟩

/-- Both catalogs are on both files, as only the Chinese candidates make a difference. -/
theorem holds_workCatalog (work : t = workFiles ∨ t = stockedFiles) (l : Locale) :
    HoldsCatalog t ((Layout.inDirectory "").paths l).catalog (sampleCatalog l) := by
  have plain : FileTree.IsPlain ((Layout.inDirectory "").paths l).catalog :=
    isPlain_work (by cases l <;> decide)
  cases l with
  | english =>
    rcases work with rfl | rfl <;> exact ⟨"{}", plain.read rfl, Document.readCatalog_braces⟩
  | chinese =>
    have back := Document.readCatalog_cards (candidates_sampleCards .chinese)
    rcases work with rfl | rfl <;> exact ⟨_, plain.read rfl, back⟩

/-- With Chinese candidates there, the merge that follows the synthesis succeeds, although the
synthesis has written only English ones. -/
theorem merge_follows_synthesis_stocked : ∃ made m₁ merged m₂,
    (synthesize Card.entry (Layout.inDirectory "") Locale.all).run.run ⟨stockedFiles, none, []⟩ =
      (.ok made, m₁) ∧
    (merge (Layout.inDirectory "") Locale.all).run.run m₁ = (.ok merged, m₂) := by
  have holds := holds_workTaxonomy (.inr rfl)
  have plans : ∀ l, IsPlanned Card.entry (Layout.inDirectory "") sampleTaxonomy stockedFiles
      (l, sampleCandidates l) := fun l =>
    ⟨sampleCatalog l, holds_workCatalog (.inr rfl) l, candidates_sample l⟩
  have english : FileTree.IsPlain "generated_missing_templates_en.json" :=
    isPlain_work (by decide)
  have chinese : FileTree.IsPlain "generated_missing_templates_cn.json" :=
    isPlain_work (by decide)
  have writes : Writes (samplePlanned.flatMap (candidateDocuments (Layout.inDirectory "")))
      stockedFiles _ :=
    FileTree.writes_singleton_iff.2 (english.write (by decide) _)
  have each : ∀ p ∈ samplePlanned,
      IsPlanned Card.entry (Layout.inDirectory "") sampleTaxonomy stockedFiles p := by
    intro p mem
    obtain ⟨l, _, rfl⟩ := List.mem_map.1 mem
    exact plans l
  have does := does_synthesize_iff.2 ⟨sampleTaxonomy, samplePlanned, holds, rfl, each, writes, rfl⟩
  obtain ⟨m₁, synthesized, _⟩ := does.exists_run (m := ⟨stockedFiles, none, []⟩) rfl
  -- The English locale lacks something, so that nothing has to be there for it.
  have beside : ∀ l ∈ Locale.all, IsComplete (Layout.inDirectory "") stockedFiles l →
      ∃ c, HoldsCatalog stockedFiles ((Layout.inDirectory "").paths l).candidates c := by
    intro l _ complete
    cases l with
    | english => exact absurd (((plans .english).isEmpty_iff holds).2 complete) (by decide)
    | chinese =>
      exact ⟨_, _, chinese.read rfl, Document.readCatalog_candidatesText
        Document.storable_awkward Document.readable_awkward⟩
  obtain ⟨merged, m₂, run⟩ :=
    (merge_follows_synthesis_iff "" (by decide) synthesized).1.2 beside
  exact ⟨_, m₁, merged, m₂, synthesized, run⟩

/-- Without them, a synthesis for the complete locale succeeds and the merge that follows fails, as
the candidates are missing that the synthesis has not written. -/
theorem merge_follows_synthesis_missing : ∃ made m₁ m₂,
    (synthesize Card.entry (Layout.inDirectory "") [.chinese]).run.run ⟨workFiles, none, []⟩ =
      (.ok made, m₁) ∧
    (merge (Layout.inDirectory "") [.chinese]).run.run m₁ =
      (.error (.document ⟨"generated_missing_templates_cn.json", .missing⟩), m₂) := by
  have held := holds_workCatalog (.inl rfl) .chinese
  have complete : sampleTaxonomy.expected.diff (sampleCards .chinese).combinations =
      SortedSet.empty := by decide +kernel
  have each : ∀ h ∈ [(Locale.chinese, sampleCards .chinese)],
      HoldsCatalog workFiles ((Layout.inDirectory "").paths h.1).catalog h.2 ∧
        sampleTaxonomy.expected.diff h.2.combinations = SortedSet.empty :=
    List.forall_mem_singleton.2 ⟨held, complete⟩
  have does : Does (synthesize Card.entry _ _) _ _ _ :=
    does_synthesize_of_complete (holds_workTaxonomy (.inl rfl)) each
  obtain ⟨m₁, synthesized, files⟩ := does.exists_run (m := ⟨workFiles, none, []⟩) rfl
  have plain : FileTree.IsPlain "generated_missing_templates_cn.json" := isPlain_work (by decide)
  have missing : workFiles.read "generated_missing_templates_cn.json" = .error .notFound :=
    plain.read_error rfl
  have unread : IsUnreadCatalog workFiles ((Layout.inDirectory "").paths .chinese).candidates
      (.document ⟨"generated_missing_templates_cn.json", .missing⟩) :=
    ⟨_, congrArg (decoded _ _) missing, rfl⟩
  have fails : Fails (merge (Layout.inDirectory "") [.chinese]) workFiles
      (.document ⟨"generated_missing_templates_cn.json", .missing⟩) workFiles := by
    refine fails_logged_iff.2 (fails_bind_iff.2 (.inl (fails_mapM_iff.2 ?_)))
    exact ⟨[], .chinese, [], [], workFiles, rfl, does_pure_iff.2 ⟨rfl, rfl⟩,
      fails_planMerge_iff.2 ⟨.inr ⟨⟨_, held⟩, unread⟩, rfl⟩⟩
  obtain ⟨m₂, run, _⟩ := fails.exists_run files
  exact ⟨_, m₁, m₂, synthesized, run⟩

end TemplateCoverage.Run
