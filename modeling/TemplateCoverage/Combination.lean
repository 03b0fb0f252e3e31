import TemplateCoverage.Sorted.Set

/-!
# `TemplateCoverage.Combination`: tags, and events with a tag

A template answers an event, or one variant of it that a tag names. The default variant has two
spellings in documents, `default` and the empty text; inside the library it is the empty text. Main
statements:

* `Tag.normalize_normalize`: normalising twice is normalising once;
* `Tag.normalize_spell`: the spelling for documents keeps the variant.
-/

set_option autoImplicit false

namespace TemplateCoverage

namespace Tag

/-- The spelling of the default tag in documents. -/
def sentinel : String := "default"

/-- The tag inside the library: the default tag is the empty text. -/
def normalize (tag : String) : String := if tag = sentinel then "" else tag

/-- The spelling of a tag in documents: the default tag is written out. -/
def spell (tag : String) : String := if tag = "" then sentinel else tag

/-- The tag as reports show it. -/
def shown (tag : String) : String := if tag = "" then "(default)" else tag

theorem normalize_ne_sentinel (tag : String) : normalize tag ≠ sentinel := by
  unfold normalize
  split
  · decide
  · assumption

/-- Normalising twice is normalising once. -/
@[simp] theorem normalize_normalize (tag : String) :
    normalize (normalize tag) = normalize tag := by
  rw [normalize, if_neg (normalize_ne_sentinel tag)]

/-- The spelling for documents keeps the variant. -/
@[simp] theorem normalize_spell (tag : String) : normalize (spell tag) = normalize tag := by
  unfold spell
  split
  · rename_i empty
    subst empty
    decide
  · rfl

end Tag

/-- An event with one normalised tag. -/
structure Combination where
  event : String
  tag : String
  normal : Tag.normalize tag = tag
  deriving DecidableEq

namespace Combination

/-- An event with a tag in any spelling. -/
def of (event tag : String) : Combination := ⟨event, Tag.normalize tag, Tag.normalize_normalize tag⟩

/-- An event in its default variant. -/
def default (event : String) : Combination := of event ""

@[simp] theorem event_default (event : String) : (default event).event = event := rfl

@[simp] theorem tag_default (event : String) : (default event).tag = "" := by
  change Tag.normalize "" = ""
  decide

/-- Whether the tag is the default tag. -/
def isDefault (c : Combination) : Bool := c.tag == ""

/-- The combination as reports show it. -/
def shown (c : Combination) : String := c.event ++ ":" ++ Tag.shown c.tag

/-- Combinations are ordered by event and then by tag. -/
instance : LT Combination := ⟨fun a b => a.event < b.event ∨ (a.event = b.event ∧ a.tag < b.tag)⟩

theorem lt_iff {a b : Combination} :
    a < b ↔ a.event < b.event ∨ (a.event = b.event ∧ a.tag < b.tag) := Iff.rfl

instance : DecidableLT Combination := fun a b =>
  inferInstanceAs (Decidable (a.event < b.event ∨ (a.event = b.event ∧ a.tag < b.tag)))

@[ext] theorem ext {a b : Combination} (event : a.event = b.event) (tag : a.tag = b.tag) :
    a = b := by
  cases a; cases b; simp_all

instance : StrictOrder Combination where
  irrefl a h := by
    rcases h with h | h
    · exact StrictOrder.irrefl _ h
    · exact StrictOrder.irrefl _ h.2
  trans {a b c} h h' := by
    rcases h with h | ⟨eq, h⟩ <;> rcases h' with h' | ⟨eq', h'⟩
    · exact .inl (StrictOrder.trans h h')
    · exact .inl (eq' ▸ h)
    · exact .inl (eq ▸ h')
    · exact .inr ⟨eq.trans eq', StrictOrder.trans h h'⟩
  total a b := by
    rcases StrictOrder.total a.event b.event with lt | eq | gt
    · exact .inl (.inl lt)
    · rcases StrictOrder.total a.tag b.tag with lt | eq' | gt
      · exact .inl (.inr ⟨eq, lt⟩)
      · exact .inr (.inl (ext eq eq'))
      · exact .inr (.inr (.inr ⟨eq.symm, gt⟩))
    · exact .inr (.inr (.inl gt))

theorem of_eq_of_iff {event event' tag tag' : String} :
    of event tag = of event' tag' ↔ event = event' ∧ Tag.normalize tag = Tag.normalize tag' := by
  simp [of]

/-- A combination is its event with its tag. -/
theorem of_event_tag (c : Combination) : of c.event c.tag = c := ext rfl c.normal

end Combination

end TemplateCoverage
