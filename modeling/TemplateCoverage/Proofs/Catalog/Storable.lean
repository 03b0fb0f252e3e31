import TemplateCoverage.Proofs.Catalog.Written
import TemplateCoverage.Proofs.Synthesis

/-!
# `TemplateCoverage.Proofs.Catalog.Storable`: where storable catalogs come from

The catalogs that the runs write are storable: they are merged from catalogs that were read, or made
of entries that cover one tag each. The theorems:

* `storable_of_readCatalog`: a catalog that was read is storable;
* `Storable.merge`: so is a catalog merged from two;
* `storable_candidates`: so are candidates if no entry made carries a known key along.
-/

set_option autoImplicit false

namespace TemplateCoverage

namespace Synthesis

/-- A synthesizer carries no known key along if no entry that it makes does. Such a key would take
the place of the entry's own tags or payload when it is written. -/
def CarriesNoKnownKey (make : Synthesizer) : Prop :=
  ∀ event tag locale, (make event tag locale).extra.get? "tags" = none ∧
    (make event tag locale).extra.get? "payload" = none

/-- Cards carry nothing along at all, so that none of their keys can be taken for a known one. -/
theorem carriesNoKnownKey_card : CarriesNoKnownKey Card.entry := fun _ _ _ => ⟨rfl, rfl⟩

end Synthesis

namespace Catalog

/-- A catalog that was read is storable: whatever a text holds, it has the form of a document. -/
theorem storable_of_readCatalog {text : String} {c : Catalog}
    (h : Document.readCatalog text = .ok c) : c.Storable := by
  obtain ⟨_, _, decoded⟩ := Document.readCatalog_eq_ok_iff.1 h
  exact storable_of_ofValue decoded

/-- A catalog merged from storable ones is storable: every entry and every field comes from one of
them. Fields are taken over only where entries are, so that no event has fields alone. -/
theorem Storable.merge {p c : Catalog} (first : p.Storable) (second : c.Storable) :
    (p.merge c).Storable where
  entries event entries listed e mem := by
    have all : e ∈ (p.entries? event).getD [] ++ p.additions c event := by
      rw [← getD_entries?_merge, listed]
      exact mem
    -- An entry of the merged catalog is an old one or an addition.
    rcases List.mem_append.1 all with old | added
    · cases found : p.entries? event with
      | none => simp [found] at old
      | some olds => exact first.entries event olds found e (by simpa [found] using old)
    · obtain ⟨news, found, mem, _⟩ := mem_additions.1 added
      exact second.entries event news found e mem
  no_payloads event fields found := by
    rw [fields?_merge] at found
    split at found
    · rcases Option.or_eq_some_iff.1 found with new | ⟨_, old⟩
      · exact second.no_payloads event fields new
      · exact first.no_payloads event fields old
    · exact first.no_payloads event fields found
  filed event fields found := by
    rw [contains_iff, entries?_merge]
    rw [fields?_merge] at found
    split
    · exact ⟨_, rfl⟩
    · rename_i none
      rw [if_neg fun new => none new.2] at found
      exact contains_iff.1 (first.filed event fields found)

/-- Candidates are storable if no entry made carries a known key along. Nothing has to be asked of
their tags, since each entry covers one combination. -/
theorem storable_candidates {make : Synthesizer} {missing : SortedSet Combination}
    {locale : Locale} {c : Catalog} (made : Synthesis.candidates make missing locale = .ok c)
    (free : Synthesis.CarriesNoKnownKey make) : c.Storable := by
  obtain ⟨fits, rfl⟩ := Synthesis.candidates_eq_ok_iff.1 made
  have fieldless : ∀ event, (Synthesis.filing make missing locale).fields? event = none :=
    fun _ => fields?_ofPairs
  constructor
  · intro event entries listed e mem
    have filed : e ∈ ((Synthesis.filing make missing locale).entries? event).getD [] := by
      rw [listed]
      exact mem
    rw [Synthesis.getD_entries?_filing] at filed
    obtain ⟨x, inFilter, rfl⟩ := List.mem_map.1 filed
    -- An entry that fits has one tag, which repeats no other one.
    obtain ⟨tag, only, _⟩ := List.map_eq_singleton_iff.1 (fits x (List.mem_filter.1 inFilter).1)
    refine ⟨?_, (free _ _ _).1, (free _ _ _).2⟩
    rw [Entry.normalizedTags, only]
    exact List.pairwise_singleton _ _
  · intro event fields found
    rw [fieldless] at found
    contradiction
  · intro event fields found
    rw [fieldless] at found
    contradiction

end Catalog

end TemplateCoverage
