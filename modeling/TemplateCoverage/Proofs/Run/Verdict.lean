import TemplateCoverage.CommandLine
import TemplateCoverage.Proofs.Catalog.Answered
import TemplateCoverage.Proofs.Locale
import TemplateCoverage.Proofs.Run.Convergence
import TemplateCoverage.Proofs.Run.Failure
import TemplateCoverage.Proofs.Taxonomy.Declared

/-!
# `TemplateCoverage.Proofs.Run.Verdict`: what the exit code of an analysis says

The exit code of an analysis is a verdict on documents: on what the taxonomy document declares and
what the catalog documents answer, both read off their nodes and values. Nothing else in the
documents matters. The theorems:

* `resolve_eq_ok`: which locales names select;
* `forall_expected_iff`: a catalog covers what is expected if and only if its document answers what
  the taxonomy document declares;
* `exists_does_of_loads`, `code_of_does`: an analysis succeeds if everything loads, and only then;
* `analyze_exit_code_iff`: the code is 0 if everything is answered, 1 if something is not, and 2 if
  something does not load.
-/

set_option autoImplicit false

namespace TemplateCoverage

open Run (Does Fails HoldsTaxonomy HoldsCatalog)

/-! ### Locales by name -/

/-- Names select a locale: they are none at all, or one of them names it. An analysis without names
is one of all locales. -/
def Locale.IsSelected (names : List String) (l : Locale) : Prop :=
  names = [] ∨ ∃ name ∈ names, parse? name = some l

namespace Locale

/-- Names that are resolved are names of locales, and give the locales that they select. The order
and how often a name comes do not matter for the exit code. -/
theorem resolve_eq_ok {ls : List Locale} {names : List String} (h : resolve names = .ok ls) :
    (∀ name ∈ names, (parse? name).isSome) ∧ ∀ l, l ∈ ls ↔ IsSelected names l := by
  refine ⟨fun name mem => ?_, fun l => ?_⟩
  · obtain ⟨l, named⟩ := exists_resolve_iff.1 ⟨ls, h⟩ name mem
    exact Option.isSome_iff_exists.2 ⟨l, parse?_eq_some_iff.2 named⟩
  · cases resolve_eq_ok_iff.1 h with
    | all => exact iff_of_true (by cases l <;> decide) (.inl rfl)
    | named some each firsts =>
      simp only [firsts.mem_iff, mem_named_iff each, IsSelected, some, false_or,
        parse?_eq_some_iff]

/-- Names of locales are resolved, however often they come and in whatever spelling. -/
theorem exists_resolve {names : List String} (valid : ∀ name ∈ names, (parse? name).isSome) :
    ∃ ls, resolve names = .ok ls := by
  refine exists_resolve_iff.2 fun name mem => ?_
  obtain ⟨l, named⟩ := Option.isSome_iff_exists.1 (valid name mem)
  exact ⟨l, parse?_eq_some_iff.1 named⟩

end Locale

/-! ### Documents -/

/-- What an analysis is about: files, the places of the documents in them, and names of locales.
Everything below is told of it without a run. -/
structure Scope where
  files : FileTree
  layout : Layout
  names : List String

namespace Scope

/-- Everything that an analysis needs is there: the names are names of locales, and the taxonomy and
the catalogs of the selected locales load. Other catalogs need not be there. -/
structure Loads (s : Scope) : Prop where
  names : ∀ name ∈ s.names, (Locale.parse? name).isSome
  taxonomy : ∃ t, HoldsTaxonomy s.files s.layout.taxonomy t
  catalogs : ∀ l, Locale.IsSelected s.names l →
    ∃ c, HoldsCatalog s.files (s.layout.paths l).catalog c

/-- The taxonomy document declares a tag for an event. It is read off the nodes of the document, not
off the taxonomy that the program makes of it. -/
def Asks (s : Scope) (event tag : String) : Prop :=
  ∃ text d, s.files.read s.layout.taxonomy = .ok text ∧
    Yaml.Document.ofText text.toList = .ok d ∧ Taxonomy.Declares d event tag

/-- The catalog document of a locale answers a tag of an event. It is read off the JSON value of the
document, not off the catalog that the program makes of it. -/
def Answers (s : Scope) (l : Locale) (event tag : String) : Prop :=
  ∃ text v, s.files.read (s.layout.paths l).catalog = .ok text ∧
    Json.read (Comment.strip text.toList) = .ok v ∧ Catalog.Answers v event tag

/-- Every tag that the taxonomy document declares is answered in every selected locale. -/
def IsAnswered (s : Scope) : Prop :=
  ∀ l, Locale.IsSelected s.names l → ∀ event tag, s.Asks event tag → s.Answers l event tag

variable {s : Scope} {t : Taxonomy} {l : Locale} {c : Catalog}

/-- The taxonomy expects what its document declares, with tags in their normal form. -/
theorem mem_expected_iff (holds : HoldsTaxonomy s.files s.layout.taxonomy t) {x : Combination} :
    x ∈ t.expected ↔ ∃ tag, s.Asks x.event tag ∧ Tag.normalize tag = x.tag := by
  obtain ⟨text, read, decoded⟩ := holds
  unfold Document.readTaxonomy at decoded
  split at decoded
  · contradiction
  · rename_i taxonomy
    cases decoded
    obtain ⟨d, document, expected⟩ := Taxonomy.exists_document_of_ofText taxonomy
    have asks : ∀ tag, s.Asks x.event tag ↔ Taxonomy.Declares d x.event tag := by
      intro tag
      refine ⟨?_, fun declared => ⟨text, d, read, document, declared⟩⟩
      intro ⟨text', d', read', document', declared⟩
      -- There is one text in the file, and one document in the text.
      cases read.symm.trans read'
      cases document.symm.trans document'
      exact declared
    simp only [expected, asks]

/-- A catalog covers what its document answers. The other way round there is only one value that the
text can be read as. -/
theorem mem_combinations_iff (holds : HoldsCatalog s.files (s.layout.paths l).catalog c)
    {event tag : String} : Combination.of event tag ∈ c.combinations ↔ s.Answers l event tag := by
  obtain ⟨text, read, decoded⟩ := holds
  obtain ⟨v, value, ofValue⟩ := Document.readCatalog_eq_ok_iff.1 decoded
  rw [Catalog.mem_combinations_of_ofValue ofValue]
  refine ⟨fun answered => ⟨text, v, read, value, answered⟩, ?_⟩
  intro ⟨text', v', read', value', answered⟩
  cases read.symm.trans read'
  cases value.symm.trans value'
  exact answered

/-- A catalog covers what is expected if and only if its document answers what the taxonomy document
declares. It turns the comparison of two sets into one of two documents. -/
theorem forall_expected_iff (taxonomy : HoldsTaxonomy s.files s.layout.taxonomy t)
    (catalog : HoldsCatalog s.files (s.layout.paths l).catalog c) :
    (∀ x ∈ t.expected, x ∈ c.combinations) ↔
      ∀ event tag, s.Asks event tag → s.Answers l event tag := by
  refine ⟨?_, ?_⟩
  · intro covered event tag asked
    have expected : Combination.of event tag ∈ t.expected :=
      (mem_expected_iff taxonomy).2 ⟨tag, asked, rfl⟩
    exact (mem_combinations_iff catalog).1 (covered _ expected)
  · intro answered x expected
    obtain ⟨tag, asked, same⟩ := (mem_expected_iff taxonomy).1 expected
    have covered := (mem_combinations_iff catalog).2 (answered x.event tag asked)
    rwa [show Combination.of x.event tag = x from Combination.ext rfl same] at covered

end Scope

/-! ### The analysis of a scope -/

namespace CommandLine

variable {s : Scope} {after : Settings} {exit : Exit} {files : FileTree}

/-- Resolving locales succeeds where the names can be resolved, and looks at no file. -/
theorem does_locales_iff {names : List String} {ls : List Locale} {t t' : FileTree} :
    Does (Run.locales names) t ls t' ↔ Locale.resolve names = .ok ls ∧ t' = t := by
  unfold Run.locales
  split
  · rename_i found
    rw [Run.does_pure_iff, found, Except.ok.injEq]
    exact and_congr_left fun _ => eq_comm
  · rename_i failed
    rw [Run.does_throw_iff, failed]
    exact iff_of_false id (fun both => nomatch both.1)

/-- An analysis resolves its locales, measures them and tells by its exit what it has found. -/
theorem does_perform_analyze_iff :
    Does (perform s.layout .analyze after) s.files exit files ↔
      ∃ ls a, Locale.resolve (after.all .locale) = .ok ls ∧
        Does (Run.analyze s.layout ls) s.files a files ∧ exit = afterAnalysis a := by
  unfold perform
  dsimp only
  rw [Run.does_bind_iff]
  refine ⟨?_, ?_⟩
  · intro ⟨ls, t₁, found, rest⟩
    obtain ⟨resolved, rfl⟩ := does_locales_iff.1 found
    obtain ⟨a, t₂, analyzed, last⟩ := Run.does_bind_iff.1 rest
    obtain ⟨rfl, rfl⟩ := Run.does_pure_iff.1 last
    exact ⟨ls, a, resolved, analyzed, rfl⟩
  · rintro ⟨ls, a, resolved, analyzed, rfl⟩
    exact ⟨ls, s.files, does_locales_iff.2 ⟨resolved, rfl⟩,
      Run.does_bind_iff.2 ⟨a, files, analyzed, Run.does_pure_iff.2 ⟨rfl, rfl⟩⟩⟩

/-- If everything loads, the analysis succeeds. So it does not end with 2 for any other reason. -/
theorem exists_does_of_loads (names : s.names = after.all .locale) (loads : s.Loads) :
    ∃ exit files, Does (perform s.layout .analyze after) s.files exit files := by
  obtain ⟨ls, resolved⟩ := Locale.exists_resolve loads.names
  obtain ⟨t, taxonomy⟩ := loads.taxonomy
  have catalogs : ∀ l ∈ ls, ∃ c, HoldsCatalog s.files (s.layout.paths l).catalog c :=
    fun l mem => loads.catalogs l (((Locale.resolve_eq_ok resolved).2 l).1 mem)
  -- What the measured locales hold is chosen first, since the analysis lists all of them at once.
  have : Nonempty Catalog := ⟨.empty⟩
  choose! catalog holds using catalogs
  let measured (l : Locale) : LocaleCoverage :=
    ⟨l, (s.layout.paths l).catalog, Coverage.measure t.expected (catalog l).combinations⟩
  have analyzed : Does (Run.analyze s.layout ls) s.files
      ⟨t.eventCount, t.expected.size, ls.map measured⟩ s.files := by
    refine Run.does_analyze_iff.2 ⟨t, ls.map measured, taxonomy, ?_, ?_, rfl, rfl⟩
    · rw [List.map_map]
      exact List.map_id ls
    · intro r mem
      obtain ⟨l, inLocales, rfl⟩ := List.mem_map.1 mem
      exact ⟨catalog l, holds l inLocales, rfl⟩
  exact ⟨_, s.files, does_perform_analyze_iff.2 ⟨ls, _, names ▸ resolved, analyzed, rfl⟩⟩

/-- An analysis that succeeds has loaded everything, and its code tells whether everything is
answered: nothing else can come out of it. -/
theorem code_of_does (names : s.names = after.all .locale)
    (does : Does (perform s.layout .analyze after) s.files exit files) :
    s.Loads ∧ (s.IsAnswered ∧ exit.code = 0 ∨ ¬s.IsAnswered ∧ exit.code = 1) := by
  obtain ⟨ls, a, resolved, analyzed, rfl⟩ := does_perform_analyze_iff.1 does
  obtain ⟨t, coverages, taxonomy, locales, measured, rfl, rfl⟩ := Run.does_analyze_iff.1 analyzed
  obtain ⟨valid, selected⟩ := Locale.resolve_eq_ok resolved
  rw [← names] at valid selected
  have catalogs : ∀ l, Locale.IsSelected s.names l → ∃ r ∈ coverages, r.locale = l := by
    intro l isSelected
    have mem := (selected l).2 isSelected
    rw [← locales] at mem
    exact List.mem_map.1 mem
  -- A locale is complete if its catalog document answers what is asked, and every selected locale
  -- is among those measured.
  have answered : ∀ r ∈ coverages, r.coverage.isComplete ↔
      ∀ event tag, s.Asks event tag → s.Answers r.locale event tag := by
    intro r mem
    obtain ⟨c, holds, eq⟩ := measured r mem
    rw [eq, Coverage.isComplete_iff]
    exact Scope.forall_expected_iff taxonomy holds
  have complete : Analysis.isComplete ⟨t.eventCount, t.expected.size, coverages⟩ ↔
      s.IsAnswered := by
    rw [Analysis.isComplete, List.all_eq_true]
    refine ⟨?_, ?_⟩
    · intro all l isSelected
      obtain ⟨r, mem, rfl⟩ := catalogs l isSelected
      exact (answered r mem).1 (all r mem)
    · intro all r mem
      have inLocales : r.locale ∈ ls := locales ▸ List.mem_map_of_mem mem
      exact (answered r mem).2 (all r.locale ((selected r.locale).1 inLocales))
  refine ⟨⟨valid, ⟨t, taxonomy⟩, fun l isSelected => ?_⟩, ?_⟩
  · obtain ⟨r, mem, rfl⟩ := catalogs l isSelected
    obtain ⟨c, holds, -⟩ := measured r mem
    exact ⟨c, holds⟩
  · rw [← complete, afterAnalysis, reported]
    cases Analysis.isComplete ⟨t.eventCount, t.expected.size, coverages⟩ <;> simp

/-- What the program does once its arguments are read and its log is started: the exit code is that
of the run on the files that starting the log has left. -/
theorem code_of_startLog {args : List String} {before : Settings} {name : RunName} {m m₁ : Machine}
    (reads : Arguments.read args = .run before name after)
    (logging : (startLog ((before.either after .logLevel).getD Level.standard.name)
      (before.either after .logDir)).run m = (.ok (), m₁)) :
    ((program args).run m).1 =
      exitOf ((perform (before.layout after) name after).run.effect m₁.files).1 := by
  unfold program
  rw [reads, Script.effect_files]
  dsimp only
  unfold runWith
  -- The program is a script in two steps, the start of the log and the run.
  show ((Script.bind _ _).run m).1 = _
  rw [Script.run_bind, logging]
  show ((Script.bind _ _).run m₁).1 = _
  rw [Script.run_bind]
  rfl

/-- The exit code of an analysis: it is 0 if and only if everything loads and every tag that the
taxonomy document declares is answered in every selected locale, 1 if and only if everything loads
and some tag is not answered, and 2 if and only if something does not load. -/
theorem analyze_exit_code_iff {args : List String} {before : Settings} {m m₁ : Machine}
    (reads : Arguments.read args = .run before .analyze after)
    (logging : (startLog ((before.either after .logLevel).getD Level.standard.name)
      (before.either after .logDir)).run m = (.ok (), m₁))
    (scope : s = ⟨m₁.files, before.layout after, after.all .locale⟩) :
    (((program args).run m).1.code = 0 ↔ s.Loads ∧ s.IsAnswered) ∧
    (((program args).run m).1.code = 1 ↔ s.Loads ∧ ∃ l event tag,
      Locale.IsSelected s.names l ∧ s.Asks event tag ∧ ¬s.Answers l event tag) ∧
    (((program args).run m).1.code = 2 ↔ ¬s.Loads) := by
  have names : s.names = after.all .locale := scope ▸ rfl
  have exit_eq : ((program args).run m).1 =
      exitOf ((perform s.layout .analyze after).run.effect s.files).1 := by
    rw [scope]
    exact code_of_startLog reads logging
  have missing_iff : (∃ l event tag,
      Locale.IsSelected s.names l ∧ s.Asks event tag ∧ ¬s.Answers l event tag) ↔
        ¬s.IsAnswered := by
    refine ⟨fun ⟨l, event, tag, selected, asked, missing⟩ answered =>
      missing (answered l selected event tag asked), fun unanswered => ?_⟩
    by_contra none
    refine unanswered fun l selected event tag asked => ?_
    by_contra missing
    exact none ⟨l, event, tag, selected, asked, missing⟩
  rw [exit_eq, missing_iff]
  -- Either way the code is known: a run that succeeds ends with 0 or 1, and one that fails ends
  -- with 2.
  rcases Run.does_or_fails (perform s.layout .analyze after) s.files with
    ⟨exit, files, does⟩ | ⟨e, files, fails⟩
  · obtain ⟨loads, verdict⟩ := code_of_does names does
    rw [does]
    show (exit.code = 0 ↔ _) ∧ (exit.code = 1 ↔ _) ∧ (exit.code = 2 ↔ _)
    rcases verdict with ⟨answered, code⟩ | ⟨unanswered, code⟩
    · simp [code, loads, answered]
    · simp [code, loads, unanswered]
  · have unloaded : ¬s.Loads := by
      intro loads
      obtain ⟨exit, files', does⟩ := exists_does_of_loads names loads
      exact fails.not_does does
    rw [fails]
    show (2 = 0 ↔ _) ∧ (2 = 1 ↔ _) ∧ (2 = 2 ↔ _)
    simp [unloaded]

/-! ### A sample -/

/-- What the sample asks of an analysis: its documents, in the locales of some names. -/
def sampleSettings (names : List String) : Settings :=
  [(.taxonomy, "events.yaml"), (.catalog .english, "en.jsonc"), (.catalog .chinese, "cn.jsonc")] ++
    names.map fun name => (.locale, name)

/-- The same as arguments on the command line, as they are parsed before any file is read. -/
def sampleArguments (names : List String) : List String :=
  ["analyze", "--taxonomy", "events.yaml", "--en-catalog", "en.jsonc", "--cn-catalog",
    "cn.jsonc"] ++ names.flatMap fun name => ["--locale", name]

/-- What such an analysis is about: the files of the pipeline's sample, before anything has been
made. -/
def sampleScope (names : List String) : Scope :=
  ⟨Run.sampleFiles, Settings.layout [] (sampleSettings []), names⟩

/-- The taxonomy of the sample is where the settings say, and it declares one event. -/
theorem taxonomy_sampleScope (names : List String) :
    HoldsTaxonomy (sampleScope names).files (sampleScope names).layout.taxonomy
      Run.sampleTaxonomy := Run.holds_sampleTaxonomy

/-- So are its catalogs: the English one lacks everything, the Chinese one nothing. -/
theorem catalog_sampleScope (names : List String) (l : Locale) :
    HoldsCatalog (sampleScope names).files ((sampleScope names).layout.paths l).catalog
      (Run.sampleCatalog l) := by
  cases l with
  | english => exact Run.holds_sampleCatalog .english
  | chinese => exact Run.holds_sampleCatalog .chinese

/-- Everything loads in the sample if the names are names of locales, so that the analysis has a
verdict. -/
theorem loads_sampleScope {names : List String}
    (valid : ∀ name ∈ names, (Locale.parse? name).isSome) : (sampleScope names).Loads :=
  ⟨valid, ⟨_, taxonomy_sampleScope names⟩, fun l _ => ⟨_, catalog_sampleScope names l⟩⟩

/-- In English nothing is answered, since the catalog has no entries while something is declared. -/
theorem not_answers_sampleScope (names : List String) :
    ∃ tag, (sampleScope names).Asks "push" tag ∧
      ¬(sampleScope names).Answers .english "push" tag := by
  have expected : Combination.of "push" "" ∈ Run.sampleTaxonomy.expected :=
    SortedSet.contains_iff.1 (by decide +kernel)
  obtain ⟨tag, asked, -⟩ := (Scope.mem_expected_iff (taxonomy_sampleScope names)).1 expected
  refine ⟨tag, asked, fun answered => ?_⟩
  have covered := (Scope.mem_combinations_iff (catalog_sampleScope names .english)).2 answered
  have none : (Run.sampleCatalog .english).combinations.toList = [] := rfl
  rw [SortedSet.mem_def, none] at covered
  contradiction

/-- In Chinese everything is answered, since the catalog has a card for all that is expected. -/
theorem isAnswered_sampleScope : (sampleScope ["zh"]).IsAnswered := by
  intro l selected
  obtain ⟨name, mem, named⟩ := selected.resolve_left nofun
  rw [List.mem_singleton.1 mem] at named
  -- The name is the only one, so that no other locale is selected.
  have chinese : Locale.parse? "zh" = some .chinese := by decide
  cases chinese.symm.trans named
  have covered : ∀ x ∈ Run.sampleTaxonomy.expected, x ∈ (Run.sampleCatalog .chinese).combinations :=
    Coverage.isComplete_iff.1 (by decide +kernel)
  exact (Scope.forall_expected_iff (taxonomy_sampleScope _) (catalog_sampleScope _ _)).1 covered

/-- The sample ends with 1 in all locales, with 0 in Chinese and with 2 for a name that is not of a
locale. -/
theorem analyze_exit_code_iff_sample :
    ((program (sampleArguments [])).run ⟨Run.sampleFiles, none, []⟩).1.code = 1 ∧
    ((program (sampleArguments ["zh"])).run ⟨Run.sampleFiles, none, []⟩).1.code = 0 ∧
    ((program (sampleArguments ["fr"])).run ⟨Run.sampleFiles, none, []⟩).1.code = 2 := by
  refine ⟨?_, ?_, ?_⟩
  · have reads : Arguments.read (sampleArguments []) = .run [] .analyze (sampleSettings []) := rfl
    have verdict := analyze_exit_code_iff (s := sampleScope []) (m := ⟨Run.sampleFiles, none, []⟩)
      reads rfl rfl
    obtain ⟨tag, asked, missing⟩ := not_answers_sampleScope []
    exact verdict.2.1.2 ⟨loads_sampleScope nofun, .english, "push", tag, .inl rfl, asked, missing⟩
  · have reads : Arguments.read (sampleArguments ["zh"]) =
        .run [] .analyze (sampleSettings ["zh"]) := rfl
    have verdict := analyze_exit_code_iff (s := sampleScope ["zh"])
      (m := ⟨Run.sampleFiles, none, []⟩) reads rfl rfl
    exact verdict.1.2 ⟨loads_sampleScope (by decide), isAnswered_sampleScope⟩
  · have reads : Arguments.read (sampleArguments ["fr"]) =
        .run [] .analyze (sampleSettings ["fr"]) := rfl
    have verdict := analyze_exit_code_iff (s := sampleScope ["fr"])
      (m := ⟨Run.sampleFiles, none, []⟩) reads rfl rfl
    refine verdict.2.2.2 fun loads => ?_
    have named := loads.names "fr" (List.mem_singleton_self _)
    revert named
    decide

end CommandLine

end TemplateCoverage
