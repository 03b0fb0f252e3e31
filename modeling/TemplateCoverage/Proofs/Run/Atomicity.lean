import TemplateCoverage.Proofs.Run.Convergence
import TemplateCoverage.Proofs.Run.Failure

/-!
# `TemplateCoverage.Proofs.Run.Atomicity`: what a run that fails leaves behind

A synthesis and a merge load everything before they write. So a run that fails at a load leaves the
files alone. A merge writes only documents that it has read, which can be written again, so that it
fails at no other point. A synthesis may write where no document can be, and then the candidates of
the locales before that one stay written. The theorems:

* `exists_writes_of_loaded`: what a merge has loaded it can write;
* `merge_all_or_nothing`: a merge succeeds if and only if everything loads, and changes nothing if
  it fails;
* `synthesize_failure`: a synthesis that fails changes nothing, or it fails at one locale's
  candidates and has written those of the locales before it;
* `exists_candidates_of_failure`: the second case occurs.
-/

set_option autoImplicit false

namespace TemplateCoverage.Run

open FileTree (Writes SameFiles)

variable {make : Synthesizer} {layout : Layout} {locales : List Locale} {t t' : FileTree}
  {e : RunError}

/-! ### Merging -/

/-- Merged catalogs can be written once everything has been loaded: each of them goes where the
catalog has been read that it is made from. Nothing has to be known about the layout for this. -/
theorem exists_writes_of_loaded {planned : List PlannedMerge}
    (loaded : ∀ p ∈ planned, IsLoaded layout t p) :
    ∃ t', Writes (planned.map (mergedDocument layout)) t t' := by
  refine FileTree.exists_writes_of_reads fun w mem => ?_
  obtain ⟨p, inPlanned, rfl⟩ := List.mem_map.1 mem
  obtain ⟨text, read, _⟩ := (loaded p inPlanned).1
  exact ⟨text, read⟩

/-- A merge that fails has not loaded everything, and changes no file. Its error is that of a
document that is not to be had; which one comes first if there are several is a matter of the order
of steps. -/
theorem unread_of_fails_merge (fails : Fails (merge layout locales) t e t') :
    t' = t ∧ ∃ l ∈ locales, IsUnreadCatalog t (layout.paths l).catalog e ∨
      (∃ p, HoldsCatalog t (layout.paths l).catalog p) ∧
        IsUnreadCatalog t (layout.paths l).candidates e := by
  unfold merge at fails
  rcases fails_bind_iff.1 (fails_logged_iff.1 fails) with planning | ⟨planned, t₁, plans, saving⟩
  · obtain ⟨rfl, l, mem, failed⟩ := fails_mapM_of_reads reads_planMerge
      (fun _ _ _ _ failed => (fails_planMerge_iff.1 failed).2) planning
    exact ⟨rfl, l, mem, (fails_planMerge_iff.1 failed).1⟩
  · -- What has been loaded can be written, so that saving does not fail.
    obtain ⟨rfl, _, loaded⟩ := does_mapM_planMerge_iff.1 plans
    obtain ⟨t', writes⟩ := exists_writes_of_loaded loaded
    exact (saving.not_does (does_mapM_keepMerge_iff.2 ⟨writes, rfl⟩)).elim

/-- A merge succeeds if and only if all documents load. One direction reads them off the success; in
the other one, no failure is left that could occur. -/
theorem exists_does_merge_iff :
    (∃ merged t', Does (merge layout locales) t merged t') ↔
      ∀ l ∈ locales, (∃ p, HoldsCatalog t (layout.paths l).catalog p) ∧
        ∃ c, HoldsCatalog t (layout.paths l).candidates c := by
  constructor
  · rintro ⟨merged, t', does⟩ l mem
    obtain ⟨planned, keys, loaded, _⟩ := does_merge_iff.1 does
    subst keys
    obtain ⟨p, inPlanned, rfl⟩ := List.mem_map.1 mem
    exact ⟨⟨_, (loaded p inPlanned).1⟩, _, (loaded p inPlanned).2⟩
  · intro loads
    -- There is no direct way to the success, as the merged texts and the places for them would have
    -- to be named.
    rcases does_or_fails (merge layout locales) t with does | ⟨e, t', fails⟩
    · exact does
    · obtain ⟨_, l, mem, unread⟩ := unread_of_fails_merge fails
      obtain ⟨⟨p, primary⟩, c, candidates⟩ := loads l mem
      rcases unread with unread | ⟨_, unread⟩
      · exact (unread.not_holds primary).elim
      · exact (unread.not_holds candidates).elim

/-- A merge succeeds if and only if the catalogs and candidates of all its locales load. If it
fails, it does so with the error of one of these documents, and the files are as they were. The
paths of the layout may lead to one place: each document that is written has been read from there
before. -/
theorem merge_all_or_nothing {m : Machine} :
    ((∃ merged m', (merge layout locales).run.run m = (.ok merged, m')) ↔
      ∀ l ∈ locales, (∃ p, HoldsCatalog m.files (layout.paths l).catalog p) ∧
        ∃ c, HoldsCatalog m.files (layout.paths l).candidates c) ∧
    ∀ e m', (merge layout locales).run.run m = (.error e, m') →
      m'.files = m.files ∧ ∃ l ∈ locales, IsUnreadCatalog m.files (layout.paths l).catalog e ∨
        (∃ p, HoldsCatalog m.files (layout.paths l).catalog p) ∧
          IsUnreadCatalog m.files (layout.paths l).candidates e := by
  refine ⟨?_, fun e m' run => unread_of_fails_merge (Fails.of_run run)⟩
  rw [← exists_does_merge_iff]
  constructor
  · rintro ⟨merged, m', run⟩
    exact ⟨merged, m'.files, Does.of_run run⟩
  · rintro ⟨merged, t', does⟩
    obtain ⟨m', run, _⟩ := does.exists_run rfl
    exact ⟨merged, m', run⟩

/-- The sample after a synthesis, with Chinese candidates that break off. The English ones come
before them and are fine. -/
def tornFiles : FileTree :=
  sampleFiles'.put (sampleFiles'.homeSlot "cn.json") (.file (.text "\x7b")) (by decide)

/-- All documents of the torn sample but the last one load, so that its merge gets as far as the
Chinese candidates. -/
theorem holds_torn : HoldsCatalog tornFiles "en.jsonc" Catalog.empty ∧
    HoldsCatalog tornFiles "en.json" (sampleCards .english) ∧
      HoldsCatalog tornFiles "cn.jsonc" (sampleCards .chinese) :=
  ⟨⟨"{}", (isPlain_sample (by decide)).read rfl, Document.readCatalog_braces⟩,
    ⟨_, (isPlain_sample (by decide)).read rfl,
      Document.readCatalog_cards (candidates_sampleCards _)⟩,
    ⟨_, (isPlain_sample (by decide)).read rfl,
      Document.readCatalog_cards (candidates_sampleCards _)⟩⟩

/-- The candidates that break off are not read beyond their only line. Their text is an opening
brace, in which a reader of JSON expects more to come. -/
theorem isUnread_torn_iff : IsUnreadCatalog tornFiles "cn.json" e ↔
    e = .document ⟨"cn.json", .notJson 1⟩ := by
  have lexemes : Json.lexemes 1 ['\x7b'] = [(1, .beginObject)] :=
    (Json.lexemes_scan rfl rfl).trans (congrArg _ (Json.lexemes_nil 1))
  have bare : Comment.strip "\x7b".toList = ['\x7b'] := by decide +kernel
  -- The reader is computed on its lexemes, as the text of the file is too long a way to unfold.
  have stops : Json.read (Comment.strip "\x7b".toList) = .error 1 := by
    rw [bare, Json.read, lexemes]
    rfl
  have read : tornFiles.read "cn.json" = .ok "\x7b" := (isPlain_sample (by decide)).read rfl
  have unread : decoded "cn.json" Document.readCatalog (tornFiles.read "cn.json") =
      .error ⟨"cn.json", .notJson 1⟩ := by
    rw [read, decoded, Document.readCatalog, stops]
  unfold IsUnreadCatalog IsUnread
  rw [unread]
  constructor
  · rintro ⟨d, failed, rfl⟩
    rw [← Except.error.inj failed]
  · exact fun eq => ⟨_, rfl, eq⟩

/-- The Chinese candidates break off after both English documents and the Chinese catalog have been
loaded. The merge fails with their error and leaves the English catalog as it was. -/
theorem merge_all_or_nothing_sample : ∃ m',
    (merge sampleLayout Locale.all).run.run ⟨tornFiles, none, []⟩ =
      (.error (.document ⟨"cn.json", .notJson 1⟩), m') ∧ m'.files = tornFiles := by
  obtain ⟨english, beside, chinese⟩ := holds_torn
  obtain ⟨succeeds, fails⟩ :=
    @merge_all_or_nothing sampleLayout Locale.all ⟨tornFiles, none, []⟩
  cases run : (merge sampleLayout Locale.all).run.run ⟨tornFiles, none, []⟩ with
  | mk result m' =>
    cases result with
    | ok merged =>
      -- The last document would have to load.
      obtain ⟨_, c, holds⟩ := succeeds.1 ⟨merged, m', run⟩ .chinese (by decide)
      exact ((isUnread_torn_iff.2 rfl).not_holds holds).elim
    | error e =>
      obtain ⟨same, l, _, unread⟩ := fails e m' run
      cases l with
      | english =>
        rcases unread with unread | ⟨_, unread⟩
        · exact (unread.not_holds english).elim
        · exact (unread.not_holds beside).elim
      | chinese =>
        rcases unread with unread | ⟨_, unread⟩
        · exact (unread.not_holds chinese).elim
        · exact ⟨m', by rw [isUnread_torn_iff.1 unread], same⟩

/-! ### Synthesis -/

/-- All candidates are planned from the files as they are, for all locales and from one taxonomy. It
is the state of a synthesis right before its first write. -/
def ArePlanned (make : Synthesizer) (layout : Layout) (locales : List Locale) (t : FileTree)
    (planned : List (Locale × Catalog)) : Prop :=
  ∃ taxonomy, HoldsTaxonomy t layout.taxonomy taxonomy ∧ planned.map (·.1) = locales ∧
    ∀ p ∈ planned, IsPlanned make layout taxonomy t p

/-- A synthesis fails before it writes, or it fails to write the candidates of one locale after it
has written those of the locales before it. These are the three steps of a synthesis, each with the
ones before it done. -/
theorem fails_synthesize_iff : Fails (synthesize make layout locales) t e t' ↔
    Fails (document (loadTaxonomy layout.taxonomy)) t e t' ∨
    (∃ taxonomy, HoldsTaxonomy t layout.taxonomy taxonomy ∧
      Fails (locales.mapM (plan make layout taxonomy.expected)) t e t') ∨
    ∃ before p after t₁, ArePlanned make layout locales t (before ++ p :: after) ∧
      Writes (before.flatMap (candidateDocuments layout)) t t₁ ∧ Fails (keep layout p) t₁ e t' := by
  unfold synthesize
  rw [fails_logged_iff, fails_bind_iff]
  refine or_congr_right ?_
  constructor
  · rintro ⟨taxonomy, t₁, loaded, rest⟩
    obtain ⟨holds, rfl⟩ := does_loadTaxonomy_iff.1 loaded
    rcases fails_bind_iff.1 rest with planning | ⟨planned, t₂, plans, saving⟩
    · exact .inl ⟨taxonomy, holds, planning⟩
    · obtain ⟨rfl, keys, each⟩ := does_mapM_plan_iff.1 plans
      obtain ⟨before, p, after, t₃, rfl, written, failed⟩ := fails_mapM_keep_iff.1 saving
      exact .inr ⟨before, p, after, t₃, ⟨taxonomy, holds, keys, each⟩, written, failed⟩
  · rintro (⟨taxonomy, holds, planning⟩ | ⟨before, p, after, t₁, planned, written, failed⟩)
    · exact ⟨taxonomy, t, does_loadTaxonomy_iff.2 ⟨holds, rfl⟩, fails_bind_iff.2 (.inl planning)⟩
    · obtain ⟨taxonomy, holds, keys, each⟩ := planned
      refine ⟨taxonomy, t, does_loadTaxonomy_iff.2 ⟨holds, rfl⟩, fails_bind_iff.2 (.inr ?_)⟩
      exact ⟨_, t, does_mapM_plan_iff.2 ⟨rfl, keys, each⟩,
        fails_mapM_keep_iff.2 ⟨before, p, after, t₁, rfl, written, failed⟩⟩

/-- A synthesis that fails has not been able to plan everything and changes no file, or it has
planned everything and does not write the candidates of one locale; those of the locales before it
are written then, and nothing else is. Directories that were made on the way may be left as well. -/
theorem synthesize_failure {m m' : Machine}
    (failed : (synthesize make layout locales).run.run m = (.error e, m')) :
    (m'.files = m.files ∧ ∀ planned, ¬ArePlanned make layout locales m.files planned) ∨
    ∃ before p after t₁ fault, ArePlanned make layout locales m.files (before ++ p :: after) ∧
      Writes (before.flatMap (candidateDocuments layout)) m.files t₁ ∧
      t₁.write (layout.paths p.1).candidates (Document.candidatesText p.2) =
        (.error fault, m'.files) ∧
      SameFiles t₁ m'.files ∧
      e = .document ⟨(layout.paths p.1).candidates, .inaccessible fault⟩ := by
  rcases fails_synthesize_iff.1 (Fails.of_run failed) with
    loading | ⟨taxonomy, holds, planning⟩ | ⟨before, p, after, t₁, planned, written, saving⟩
  · obtain ⟨unread, same⟩ := fails_loadTaxonomy_iff.1 loading
    refine .inl ⟨same, ?_⟩
    rintro planned ⟨taxonomy, holds, _⟩
    exact unread.not_holds holds
  · obtain ⟨same, _⟩ := fails_mapM_of_reads reads_plan
      (fun _ _ _ _ failed => files_eq_of_fails_plan failed) planning
    refine .inl ⟨same, ?_⟩
    rintro planned ⟨taxonomy', holds', keys, each⟩
    obtain rfl := holds.unique holds'
    exact planning.not_does (does_mapM_plan_iff.2 ⟨rfl, keys, each⟩)
  · obtain ⟨_, fault, unwritten, error⟩ := fails_keep_iff.1 saving
    exact .inr ⟨before, p, after, t₁, fault, planned, written, unwritten,
      FileTree.sameFiles_of_write_error unwritten, error⟩

/-- Files with two catalogs that lack everything and a directory where the Chinese candidates go.
Everything loads, so that a synthesis gets to its writes. -/
def blockedFiles : FileTree := .inRoot [
  ("events.yaml", .file (.text "events: {push: }")),
  ("en.jsonc", .file (.text "{}")),
  ("cn.jsonc", .file (.text "{}")),
  ("cn.json", .directory)]

/-- The same files with the English candidates, which are written first and stay when the Chinese
ones fail. -/
def blockedFiles' : FileTree :=
  blockedFiles.put (blockedFiles.homeSlot "en.json")
    (.file (.text (Document.candidatesText (sampleCards .english)))) (by decide)

/-- Cards are planned for both locales, as both catalogs lack everything that the taxonomy expects.
-/
theorem arePlanned_blocked : ArePlanned Card.entry sampleLayout Locale.all blockedFiles
    (Locale.all.map fun l => (l, sampleCards l)) := by
  refine ⟨sampleTaxonomy, ⟨_, (isPlain_sample (by decide)).read rfl, readTaxonomy_sample⟩, rfl,
    fun p mem => ?_⟩
  obtain ⟨l, _, rfl⟩ := List.mem_map.1 mem
  refine ⟨Catalog.empty, ?_, candidates_of_empty l⟩
  cases l <;> exact ⟨"{}", (isPlain_sample (by decide)).read rfl, Document.readCatalog_braces⟩

/-- The English candidates are written, and then the Chinese ones find a directory in their place.
-/
theorem fails_synthesize_blocked : Fails (synthesize Card.entry sampleLayout Locale.all)
    blockedFiles (.document ⟨"cn.json", .inaccessible .isADirectory⟩) blockedFiles' := by
  have english : Writes ([(Locale.english, sampleCards .english)].flatMap
      (candidateDocuments sampleLayout)) blockedFiles blockedFiles' :=
    FileTree.writes_singleton_iff.2 ((isPlain_sample (by decide)).write (by decide) _)
  have chinese : Fails (keep sampleLayout (.chinese, sampleCards .chinese)) blockedFiles'
      (.document ⟨"cn.json", .inaccessible .isADirectory⟩) blockedFiles' :=
    fails_keep_iff.2 ⟨rfl, _, ((isPlain_sample (by decide)).endsIn _).write_directory rfl _, rfl⟩
  exact fails_synthesize_iff.2 (.inr (.inr ⟨_, _, [], _, arePlanned_blocked, english, chinese⟩))

/-- A synthesis of these files fails at the Chinese candidates, which is the second case of the
theorem: the first one is ruled out, as everything was planned. -/
theorem synthesize_failure_blocked : ∃ e m',
    (synthesize Card.entry sampleLayout Locale.all).run.run ⟨blockedFiles, none, []⟩ =
      (.error e, m') ∧
    ∃ before p after t₁, ArePlanned Card.entry sampleLayout Locale.all blockedFiles
        (before ++ p :: after) ∧
      Writes (before.flatMap (candidateDocuments sampleLayout)) blockedFiles t₁ ∧
      SameFiles t₁ m'.files := by
  obtain ⟨m', run, _⟩ :=
    fails_synthesize_blocked.exists_run (m := ⟨blockedFiles, none, []⟩) rfl
  refine ⟨_, m', run, ?_⟩
  rcases synthesize_failure run with
    ⟨_, unplanned⟩ | ⟨before, p, after, t₁, _, planned, written, _, same, _⟩
  · exact (unplanned _ arePlanned_blocked).elim
  · exact ⟨before, p, after, t₁, planned, written, same⟩

/-- A synthesis may fail after it has written a document that was not there before. So it is not all
or nothing, unlike a merge. -/
theorem exists_candidates_of_failure : ∃ e m',
    (synthesize Card.entry sampleLayout Locale.all).run.run ⟨blockedFiles, none, []⟩ =
      (.error e, m') ∧
    blockedFiles.node? ["en.json"] = none ∧
    m'.files.node? ["en.json"] =
      some (.file (.text (Document.candidatesText (sampleCards .english)))) := by
  obtain ⟨m', run, files⟩ :=
    fails_synthesize_blocked.exists_run (m := ⟨blockedFiles, none, []⟩) rfl
  refine ⟨_, m', run, by decide +kernel, ?_⟩
  rw [files]
  rfl

end TemplateCoverage.Run
