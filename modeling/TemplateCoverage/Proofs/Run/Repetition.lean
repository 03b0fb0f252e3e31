import TemplateCoverage.Proofs.Document.Rewriting
import TemplateCoverage.Proofs.Run.Atomicity

/-!
# `TemplateCoverage.Proofs.Run.Repetition`: merging the same candidates again

A merge that is run again reads the catalogs that it wrote and the candidates that it read. It
rejects all of them, so that it writes the texts that are there. The theorems:

* `PlannedMerge.result_again`: merged again, candidates change nothing;
* `exists_does_merge_again`: a second merge succeeds if the merged catalogs are read back;
* `eq_again_of_loaded`: what a second merge loads is what the first one made and the candidates;
* `merge_twice`: a second merge leaves the files as they are and adds nothing.
-/

set_option autoImplicit false

namespace TemplateCoverage.Run

open FileTree (Writes)

variable {layout : Layout} {locales : List Locale} {t t₁ : FileTree} {planned : List PlannedMerge}

/-- What is to be merged for a locale once it has been merged: the merged catalog is the primary one
now, and the candidates are the same. -/
def PlannedMerge.again (q : PlannedMerge) : PlannedMerge := ⟨q.locale, q.result, q.candidates⟩

/-- Merged again, candidates change nothing, since a merged catalog covers whatever they could add.
-/
theorem PlannedMerge.result_again (q : PlannedMerge) : q.again.result = q.result :=
  (Catalog.rejects_merge q.primary q.candidates).merge_eq

/-- Merged again, candidates are all rejected, and the entries that there are after the first merge
are kept. -/
theorem PlannedMerge.mergeCounts_again (q : PlannedMerge) :
    q.again.primary.mergeCounts q.again.candidates =
      ⟨(q.primary.mergeCounts q.candidates).total, 0, q.candidates.entryCount⟩ := by
  rw [← Catalog.entryCount_merge]
  exact (Catalog.rejects_merge q.primary q.candidates).mergeCounts_eq

/-- A merge leaves the candidates as they were, also those of locales that it merges. -/
theorem candidates_of_merge (apart : layout.Apart t)
    (writes : Writes (planned.map (mergedDocument layout)) t t₁) {l : Locale} {c : Catalog}
    (holds : HoldsCatalog t (layout.paths l).candidates c) :
    HoldsCatalog t₁ (layout.paths l).candidates c := by
  refine holds.of_read_imp fun text read => writes.read_of_ne (fun w mem => ?_) read
  obtain ⟨p, _, rfl⟩ := List.mem_map.1 mem
  exact (apart.catalog_ne_candidates p.locale l).symm

/-- What the first merge made and the candidates can be loaded, if the merged catalogs are read back
from their texts. That they can be, not that they always are, is why it is an assumption here. -/
theorem isLoaded_again (apart : layout.Apart t) (distinct : (planned.map (·.locale)).Nodup)
    (loaded : ∀ q ∈ planned, IsLoaded layout t q)
    (writes : Writes (planned.map (mergedDocument layout)) t t₁)
    (readable : ∀ q ∈ planned, (Document.value q.result).Readable) :
    ∀ r ∈ planned.map PlannedMerge.again, IsLoaded layout t₁ r := by
  intro r mem
  obtain ⟨q, inPlanned, rfl⟩ := List.mem_map.1 mem
  exact ⟨holds_of_merge apart distinct loaded writes readable inPlanned,
    candidates_of_merge apart writes (loaded q inPlanned).2⟩

/-- A merge can be run again if the merged catalogs are read back: everything loads, and what has
been loaded can be written. -/
theorem exists_does_merge_again (apart : layout.Apart t)
    (distinct : locales.Nodup) (keys : planned.map (·.locale) = locales)
    (loaded : ∀ q ∈ planned, IsLoaded layout t q)
    (writes : Writes (planned.map (mergedDocument layout)) t t₁)
    (readable : ∀ q ∈ planned, (Document.value q.result).Readable) :
    ∃ again t₂, Does (merge layout locales) t₁ again t₂ := by
  have keys' : (planned.map PlannedMerge.again).map (·.locale) = locales :=
    List.map_map.trans keys
  have reloaded := isLoaded_again apart (keys ▸ distinct) loaded writes readable
  obtain ⟨t₂, rewrites⟩ := exists_writes_of_loaded reloaded
  exact ⟨_, t₂, does_merge_iff.2 ⟨_, keys', reloaded, rewrites, rfl⟩⟩

/-- What a second merge loads for a locale is what the first one made and the same candidates. Only
the doubles are assumed to be read back here: that the text can be read at all follows from the
load. -/
theorem eq_again_of_loaded (apart : layout.Apart t) (distinct : (planned.map (·.locale)).Nodup)
    (loaded : ∀ q ∈ planned, IsLoaded layout t q)
    (writes : Writes (planned.map (mergedDocument layout)) t t₁)
    (doubles : ∀ q ∈ planned, ∀ x ∈ (Document.value q.result).1.doubles, x.ReadsBack)
    {q r : PlannedMerge} (mem : q ∈ planned) (reloaded : IsLoaded layout t₁ r)
    (same : r.locale = q.locale) : r = q.again := by
  obtain ⟨locale, primary, candidates⟩ := r
  obtain rfl : locale = q.locale := same
  obtain ⟨⟨text, read, decoded⟩, beside⟩ := reloaded
  obtain ⟨⟨_, _, old⟩, held⟩ := loaded q mem
  obtain ⟨_, _, new⟩ := held
  have storable : q.result.Storable :=
    (Catalog.storable_of_readCatalog old).merge (Catalog.storable_of_readCatalog new)
  -- The catalog is read from the text that was written, and from that only itself is read.
  obtain rfl : text = Document.catalogText q.result q.locale := by
    rw [read_of_merge apart distinct writes mem] at read
    exact (Except.ok.inj read).symm
  obtain ⟨rfl, _⟩ :=
    (Document.readCatalog_catalogText_eq_ok_iff storable (doubles q mem) q.locale).1 decoded
  obtain rfl := beside.unique (candidates_of_merge apart writes (loaded q mem).2)
  rfl

/-- Lists with the same keys correspond item by item if items with the same key do. The locales are
the keys of what the two merges load. -/
theorem eq_map_of_map_eq_map {α β κ : Type} {key : α → κ} {key' : β → κ} {f : β → α} {as : List α}
    {bs : List β} (keys : as.map key = bs.map key')
    (same : ∀ a ∈ as, ∀ b ∈ bs, key a = key' b → a = f b) : as = bs.map f := by
  induction bs generalizing as with
  | nil => exact List.map_eq_nil_iff.1 keys
  | cons b bs ih =>
    obtain ⟨a, rest, rfl, first, others⟩ := List.map_eq_cons_iff.1 keys
    rw [List.map_cons, same a List.mem_cons_self b List.mem_cons_self first, ih others]
    exact fun a' mem b' mem' =>
      same a' (List.mem_cons_of_mem a mem) b' (List.mem_cons_of_mem b mem')

/-- A merge that succeeds twice leaves the files the second time as it did the first time. For each
locale it adds nothing then, keeps the entries of the first merge's result and rejects all entries
of the candidates. -/
theorem merge_twice {m m₁ m₂ : Machine} {merged again : List LocaleMerge}
    (apart : layout.Apart m.files) (distinct : locales.Nodup)
    (doubles : ∀ l ∈ locales, ∀ p c, HoldsCatalog m.files (layout.paths l).catalog p →
      HoldsCatalog m.files (layout.paths l).candidates c →
        ∀ x ∈ (Document.value (p.merge c)).1.doubles, x.ReadsBack)
    (first : (merge layout locales).run.run m = (.ok merged, m₁))
    (second : (merge layout locales).run.run m₁ = (.ok again, m₂)) :
    m₂.files = m₁.files ∧ merged.map (·.locale) = locales ∧ again.map (·.locale) = locales ∧
      ∀ r ∈ merged, ∀ r' ∈ again, r'.locale = r.locale →
        r'.counts.added = 0 ∧ r'.counts.retained = r.counts.total ∧
          ∃ c, HoldsCatalog m.files (layout.paths r.locale).candidates c ∧
            r'.counts.rejected = c.entryCount := by
  obtain ⟨planned, rfl, loaded, writes, rfl⟩ := does_merge_iff.1 (Does.of_run first)
  obtain ⟨planned', keys, reloaded, rewrites, rfl⟩ := does_merge_iff.1 (Does.of_run second)
  have doubles' : ∀ q ∈ planned, ∀ x ∈ (Document.value q.result).1.doubles, x.ReadsBack :=
    fun q mem => doubles q.locale (List.mem_map_of_mem mem) q.primary q.candidates
      (loaded q mem).1 (loaded q mem).2
  -- From here on the second merge is known: it has loaded what the first one made.
  obtain rfl : planned' = planned.map PlannedMerge.again :=
    eq_map_of_map_eq_map keys fun r mem q mem' same =>
      eq_again_of_loaded apart distinct loaded writes doubles' mem' (reloaded r mem) same
  refine ⟨?_, List.map_map, List.map_map.trans List.map_map, ?_⟩
  · -- The texts that are written are those of the first merge, which are there.
    refine rewrites.eq_self fun w mem => ?_
    obtain ⟨_, inAgain, rfl⟩ := List.mem_map.1 mem
    obtain ⟨q, inPlanned, rfl⟩ := List.mem_map.1 inAgain
    show m₁.files.read (layout.paths q.locale).catalog =
      .ok (Document.catalogText q.again.result q.locale)
    rw [q.result_again]
    exact read_of_merge apart distinct writes inPlanned
  · intro r mem r' mem' same
    obtain ⟨q, inPlanned, rfl⟩ := List.mem_map.1 mem
    obtain ⟨q', inPlanned', rfl⟩ := List.mem_map.1 mem'
    obtain rfl : q' = q.again := eq_again_of_loaded apart distinct loaded writes doubles'
      inPlanned (reloaded q' inPlanned') same
    have counts : (mergeOf layout q.again).counts =
        ⟨(mergeOf layout q).counts.total, 0, q.candidates.entryCount⟩ := q.mergeCounts_again
    rw [counts]
    exact ⟨rfl, rfl, q.candidates, (loaded q inPlanned).2, rfl⟩

/-- The sample can be merged twice, and then nothing is added. The first merge adds the English card
and rejects the stale Chinese candidates; the second one rejects both. -/
theorem merge_twice_sample : ∃ merged m₁ again m₂,
    (merge sampleLayout Locale.all).run.run ⟨sampleFiles', none, []⟩ = (.ok merged, m₁) ∧
    (merge sampleLayout Locale.all).run.run m₁ = (.ok again, m₂) ∧
    m₂.files = m₁.files ∧ ∀ r ∈ again, r.counts.added = 0 := by
  have distinct : Locale.all.Nodup := by decide
  obtain ⟨_, writes, merged⟩ := exists_does_merge_sample
  have readable : ∀ q ∈ sampleLoads, (Document.value q.result).Readable := by
    intro q mem
    obtain ⟨l, _, rfl⟩ := List.mem_map.1 mem
    exact readable_sampleMerged l
  obtain ⟨again, t', repeated⟩ :=
    exists_does_merge_again apart_sample' distinct rfl isLoaded_sample writes readable
  obtain ⟨m₁, first, files⟩ := merged.exists_run (m := ⟨sampleFiles', none, []⟩) rfl
  obtain ⟨m₂, second, _⟩ := repeated.exists_run files
  -- The documents of the sample are the only ones that its files hold, so that nothing else has to
  -- be read back.
  have doubles : ∀ l ∈ Locale.all, ∀ p c,
      HoldsCatalog sampleFiles' (sampleLayout.paths l).catalog p →
      HoldsCatalog sampleFiles' (sampleLayout.paths l).candidates c →
        ∀ x ∈ (Document.value (p.merge c)).1.doubles, x.ReadsBack := by
    intro l mem p c held beside
    have loaded : IsLoaded sampleLayout sampleFiles' ⟨l, sampleCatalog l, sampleBeside l⟩ :=
      isLoaded_sample _ (List.mem_map_of_mem mem)
    have primary : p = sampleCatalog l := held.unique loaded.1
    have candidates : c = sampleBeside l := beside.unique loaded.2
    rw [primary, candidates]
    exact (readable_sampleMerged l).doubles
  obtain ⟨same, keys, keys', each⟩ :=
    merge_twice (m := ⟨sampleFiles', none, []⟩) apart_sample' distinct doubles first second
  refine ⟨_, m₁, again, m₂, first, second, same, fun r mem => ?_⟩
  have listed : r.locale ∈ (sampleLoads.map (mergeOf sampleLayout)).map (·.locale) := by
    rw [keys, ← keys']
    exact List.mem_map_of_mem mem
  obtain ⟨r', mem', eq⟩ := List.mem_map.1 listed
  exact (each r' mem' r mem eq.symm).1

end TemplateCoverage.Run
