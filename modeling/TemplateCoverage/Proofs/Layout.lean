import TemplateCoverage.Layout
import TemplateCoverage.Proofs.Files.Directory

/-!
# `TemplateCoverage.Proofs.Layout`: layouts whose documents lie apart

No document of a layout takes another one's place if its paths name different places. The theorems:

* `Apart.taxonomy_ne`, `Apart.catalog_ne_candidates`: documents of different kinds lie apart;
* `Apart.catalog_inj`, `Apart.candidates_inj`: so do documents of different locales;
* `apart_of_writes`: writing documents does not move them;
* `apart_inDirectory`: documents under their fixed names in one directory lie apart.
-/

set_option autoImplicit false

namespace TemplateCoverage.Layout

/-- The paths of all documents that a run may read or write, those of each locale side by side. -/
def files (layout : Layout) : List String :=
  [layout.taxonomy, layout.english.catalog, layout.english.candidates, layout.chinese.catalog,
    layout.chinese.candidates]

/-- The documents of a layout lie at different places. Paths may differ and still lead to one place,
so the places that they name are compared, not the paths. -/
def Apart (layout : Layout) (t : FileTree) : Prop := (layout.files.map t.target).Nodup

variable {layout : Layout} {t t' : FileTree}

/-- The taxonomy lies apart from the catalogs and candidates of both locales, so that no run
overwrites it. -/
theorem Apart.taxonomy_ne (apart : layout.Apart t) (l : Locale) :
    t.target layout.taxonomy ≠ t.target (layout.paths l).catalog ∧
      t.target layout.taxonomy ≠ t.target (layout.paths l).candidates := by
  simp only [Apart, files, List.map_cons, List.nodup_cons, List.mem_cons, not_or] at apart
  cases l with
  | english => exact ⟨apart.1.1, apart.1.2.1⟩
  | chinese => exact ⟨apart.1.2.2.1, apart.1.2.2.2.1⟩

/-- No catalog lies where candidates do, whatever the two locales. A synthesis thus leaves all
catalogs as they are, and a merge all candidates. -/
theorem Apart.catalog_ne_candidates (apart : layout.Apart t) (l l' : Locale) :
    t.target (layout.paths l).catalog ≠ t.target (layout.paths l').candidates := by
  simp only [Apart, files, List.map_cons, List.nodup_cons, List.mem_cons, not_or] at apart
  obtain ⟨_, english, englishCandidates, chinese, _⟩ := apart
  -- The four pairs of locales are the four inequalities that the list of places has for them.
  cases l <;> cases l'
  · exact english.1
  · exact english.2.2.1
  · exact fun same => englishCandidates.1 same.symm
  · exact chinese.1

/-- Only one locale has its catalog at a place, so that writing it touches no other locale's. -/
theorem Apart.catalog_inj (apart : layout.Apart t) {l l' : Locale}
    (same : t.target (layout.paths l).catalog = t.target (layout.paths l').catalog) : l = l' := by
  simp only [Apart, files, List.map_cons, List.nodup_cons, List.mem_cons, not_or] at apart
  cases l <;> cases l'
  · rfl
  · exact absurd same apart.2.1.2.1
  · exact absurd same.symm apart.2.1.2.1
  · rfl

/-- Only one locale has its candidates at a place, so that no other locale loads them. -/
theorem Apart.candidates_inj (apart : layout.Apart t) {l l' : Locale}
    (same : t.target (layout.paths l).candidates = t.target (layout.paths l').candidates) :
    l = l' := by
  simp only [Apart, files, List.map_cons, List.nodup_cons, List.mem_cons, not_or] at apart
  cases l <;> cases l'
  · rfl
  · exact absurd same apart.2.2.1.2.1
  · exact absurd same.symm apart.2.2.1.2.1
  · rfl

/-- Documents lie apart after writes if they did before: a path names its place by the working
directory alone, which no write changes. -/
theorem apart_of_writes {ws : List (String × String)} (apart : layout.Apart t)
    (writes : FileTree.Writes ws t t') : layout.Apart t' := by
  have targets : layout.files.map t'.target = layout.files.map t.target :=
    List.map_congr_left fun path _ => writes.target_eq path
  unfold Apart
  rw [targets]
  exact apart

/-! ### Documents in one directory -/

open FileTree (IsFileName)

/-- The fixed names of catalogs are names that a file can have, so that each lies in the directory
itself. -/
theorem isFileName_catalogFile (l : Locale) : IsFileName (catalogFile l) := by
  cases l <;> exact ⟨by decide, by decide, by decide, by decide, by decide⟩

/-- The fixed names of candidates are names that a file can have, and so these lie beside the
catalogs. -/
theorem isFileName_candidatesFile (l : Locale) : IsFileName (candidatesFile l) := by
  cases l <;> exact ⟨by decide, by decide, by decide, by decide, by decide⟩

/-- The fixed name of the taxonomy is a name that a file can have. -/
theorem isFileName_taxonomy : IsFileName "events.yaml" :=
  ⟨by decide, by decide, by decide, by decide, by decide⟩

/-- The fixed names of candidates tell the locales apart, since each has its locale's code in it. -/
theorem candidatesFile_inj {l l' : Locale} (same : candidatesFile l = candidatesFile l') :
    l = l' := by
  revert same
  cases l <;> cases l' <;> decide

/-- In a layout of one directory a catalog's path is the directory's with the fixed name behind it.
-/
theorem catalog_inDirectory (dir : String) (l : Locale) :
    ((inDirectory dir).paths l).catalog = Path.join dir (catalogFile l) := by
  cases l <;> rfl

/-- In a layout of one directory the path of candidates is the directory's with the fixed name
behind it. -/
theorem candidates_inDirectory (dir : String) (l : Locale) :
    ((inDirectory dir).paths l).candidates = Path.join dir (candidatesFile l) := by
  cases l <;> rfl

/-- Documents under their fixed names in one directory lie apart, whatever the directory and however
it is spelled: each lies one name below the same place, and the five names differ. -/
theorem apart_inDirectory (dir : String) (t : FileTree) : (inDirectory dir).Apart t := by
  -- Only the five names are compared, as the directory is the same for all of them.
  have names : (["events.yaml", catalogFile .english, candidatesFile .english, catalogFile .chinese,
      candidatesFile .chinese]).Nodup := by decide
  have places : (inDirectory dir).files.map t.target = (["events.yaml", catalogFile .english,
      candidatesFile .english, catalogFile .chinese, candidatesFile .chinese]).map
        fun file => t.target dir ++ [file] := by
    simp only [files, inDirectory, pathsIn, List.map_cons, List.map_nil,
      FileTree.target_join isFileName_taxonomy, FileTree.target_join (isFileName_catalogFile _),
      FileTree.target_join (isFileName_candidatesFile _)]
  unfold Apart
  rw [places]
  refine List.pairwise_map.2 (names.imp fun ne same => ne ?_)
  exact List.singleton_inj.1 (List.append_cancel_left same)

end TemplateCoverage.Layout
