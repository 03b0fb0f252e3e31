import Mathlib.Data.List.Forall2
import TemplateCoverage.Proofs.Except
import TemplateCoverage.Proofs.Text.Blank
import TemplateCoverage.Run

/-!
# `TemplateCoverage.Proofs.Locale`: locales by name

Names are looked up from left to right, and the locale of each one is added to those before it
unless it is among them. So the locales that names select are those named, each one once and in the
order in which they are named first, and the first name of no locale is the one that is refused. The
theorems:

* `parse?_eq_some_iff`: a name is read as the locale that it names;
* `resolve_eq`: names are resolved by looking each one up and adding what is found;
* `AreFirsts.add`, `areFirsts_foldl_add`: adding locales lists them as they come first;
* `exists_resolve_iff`, `resolve_eq_ok_iff`, `resolve_eq_error_iff`: which names are resolved, what
  to, and which name is refused;
* `Run.locales_each_once`: so runs never have a locale twice, and never none.
-/

set_option autoImplicit false

namespace TemplateCoverage

namespace Locale

/-- The names of a locale: its code and other words for it. This is the table that the messages and
the documents give, against which the lookup is proved. -/
def names : Locale → List String
  | .english => ["en", "english"]
  | .chinese => ["cn", "zh", "chinese"]

/-- A text names a locale: it spells one of its names, in any case and with blanks around it. -/
def IsNamed (l : Locale) (text : String) : Prop := ∃ name ∈ l.names, Text.Spells text name

variable {l l' : Locale} {text name : String} {given found ls ls' named : List Locale}
  {names : List String}

/-! ### Single names -/

/-- A text names a locale if and only if it is cleaned to one of its names, as no name has a blank
in it and all of them are in lower case. -/
theorem isNamed_iff_cleaned : l.IsNamed text ↔ Text.cleaned text ∈ l.names := by
  -- No name has a blank, so that cleaning takes away nothing of it.
  have solid : l.names.all fun name => name.toList.all fun c => !Text.isBlank c := by
    cases l <;> rfl
  simp only [List.all_eq_true, Bool.not_eq_true'] at solid
  constructor
  · rintro ⟨name, mem, spells⟩
    rwa [(Text.cleaned_eq_iff (solid name mem)).2 spells]
  · intro mem
    exact ⟨_, mem, (Text.cleaned_eq_iff (solid _ mem)).1 rfl⟩

/-- A name is read as the locale that it names. The reader compares the cleaned name with the words
for each locale in turn. -/
theorem parse?_eq_some_iff : parse? text = some l ↔ l.IsNamed text := by
  rw [isNamed_iff_cleaned]
  unfold parse?
  generalize Text.cleaned text = word
  constructor
  · intro read
    split at read
    · rename_i english
      cases read
      simpa [Locale.names] using english
    · split at read
      · rename_i chinese
        cases read
        simpa [Locale.names] using chinese
      · contradiction
  · intro mem
    cases l with
    | english =>
      simp only [Locale.names, List.mem_cons, List.not_mem_nil, or_false] at mem
      rw [if_pos mem]
    | chinese =>
      simp only [Locale.names, List.mem_cons, List.not_mem_nil, or_false] at mem
      rcases mem with rfl | rfl | rfl <;> decide

/-- A name is not read if and only if it names no locale at all. -/
theorem parse?_eq_none_iff : parse? text = none ↔ ∀ l : Locale, ¬l.IsNamed text := by
  simp only [Option.eq_none_iff_forall_ne_some, ne_eq, parse?_eq_some_iff]

/-- A text names one locale at most, since it is read in one way. -/
theorem IsNamed.unique (first : l.IsNamed text) (second : l'.IsNamed text) : l = l' :=
  Option.some.inj ((parse?_eq_some_iff.2 first).symm.trans (parse?_eq_some_iff.2 second))

/-- The code of a locale names it, so that what is written as a code is read again. -/
theorem isNamed_code (l : Locale) : l.IsNamed l.code := parse?_eq_some_iff.1 (parse?_code l)

/-! ### Adding locales -/

/-- A locale behind others, unless it is among them: the step by which names are resolved. -/
def add (ls : List Locale) (l : Locale) : List Locale := if l ∈ ls then ls else ls ++ [l]

/-- The locales of a list, each one once and in the order in which they come first. That order is
said by first places, without saying how it is found. -/
structure AreFirsts (given ls : List Locale) : Prop where
  mem_iff : ∀ l, l ∈ ls ↔ l ∈ given
  ordered : ls.Pairwise fun a b => given.idxOf a < given.idxOf b

/-- None of these locales comes twice, as first places ascend along them. -/
theorem AreFirsts.nodup (firsts : AreFirsts given ls) : ls.Nodup :=
  firsts.ordered.imp fun {_ _} lt same => Nat.ne_of_lt lt (congrArg given.idxOf same)

/-- A list has its locales in the order of first occurrence in one way only: the same members in an
ascending order are the same list. -/
theorem AreFirsts.unique (firsts : AreFirsts given ls) (firsts' : AreFirsts given ls') :
    ls = ls' := by
  -- Both lists have the locales that are given, so one is a rearrangement of the other.
  have perm : ls.Perm ls' := (List.perm_ext_iff_of_nodup firsts.nodup firsts'.nodup).2 fun l =>
    (firsts.mem_iff l).trans (firsts'.mem_iff l).symm
  exact perm.eq_of_pairwise (fun _ _ _ _ lt gt => absurd gt (Nat.lt_asymm lt)) firsts.ordered
    firsts'.ordered

/-- Locales without repetition come first where they stand, so that they are selected as they are.
-/
theorem areFirsts_self (distinct : ls.Nodup) : AreFirsts ls ls where
  mem_iff := fun _ => Iff.rfl
  ordered := by
    rw [List.pairwise_iff_getElem]
    intro i j hi hj lt
    rwa [distinct.idxOf_getElem i hi, distinct.idxOf_getElem j hj]

/-- One more locale is added behind those that came before it, or has come before. This is the step
for the induction on the names. -/
theorem AreFirsts.add (firsts : AreFirsts given found) (l : Locale) :
    AreFirsts (given ++ [l]) (Locale.add found l) := by
  -- The places of what was given before are the same in the longer list.
  have before : found.Pairwise fun a b => (given ++ [l]).idxOf a < (given ++ [l]).idxOf b := by
    refine firsts.ordered.imp_of_mem fun {a b} memA memB lt => ?_
    rwa [List.idxOf_append_of_mem ((firsts.mem_iff a).1 memA),
      List.idxOf_append_of_mem ((firsts.mem_iff b).1 memB)]
  unfold Locale.add
  split
  · rename_i old
    refine ⟨fun a => ?_, before⟩
    rw [firsts.mem_iff, List.mem_append, List.mem_singleton]
    exact ⟨.inl, fun either => either.elim id fun eq => eq ▸ (firsts.mem_iff l).1 old⟩
  · -- A locale that has not been found was not given before, and so it comes last.
    rename_i new
    have absent : l ∉ given := fun mem => new ((firsts.mem_iff l).2 mem)
    refine ⟨fun a => by rw [List.mem_append, List.mem_append, firsts.mem_iff], ?_⟩
    refine List.pairwise_append.2 ⟨before, List.pairwise_singleton _ _, fun a memA b memB => ?_⟩
    have inGiven : a ∈ given := (firsts.mem_iff a).1 memA
    rw [List.mem_singleton.1 memB, List.idxOf_append_of_mem inGiven,
      List.idxOf_append_of_notMem absent]
    exact Nat.lt_add_right _ (List.idxOf_lt_length_of_mem inGiven)

/-- Adding any number of locales one by one lists them as they come first. The induction is on the
locales, and those given before stand in front. -/
theorem areFirsts_foldl_add (firsts : AreFirsts given found) (named : List Locale) :
    AreFirsts (given ++ named) (named.foldl Locale.add found) := by
  induction named generalizing given found with
  | nil => rwa [List.append_nil]
  | cons l named ih =>
    rw [List.foldl_cons, List.append_cons]
    exact ih (firsts.add l)

/-! ### Lists of names -/

/-- The locale that a name is looked up as, or the name. An error carries the name as it was given,
not as it was cleaned. -/
def find (name : String) : Except String Locale :=
  match parse? name with
  | some l => .ok l
  | none => .error name

/-- A name is found as a locale if and only if it names it. -/
theorem find_eq_ok_iff : find name = .ok l ↔ l.IsNamed name := by
  rw [← parse?_eq_some_iff]
  unfold find
  cases parse? name <;> simp

/-- A name is not found if and only if it names no locale, and the error is that name. -/
theorem find_eq_error_iff {other : String} :
    find name = .error other ↔ name = other ∧ ∀ l : Locale, ¬l.IsNamed name := by
  rw [← parse?_eq_none_iff]
  unfold find
  cases parse? name <;> simp

/-- Names are all found if and only if each of them names the locale at its place. -/
theorem mapM_find_eq_ok_iff :
    names.mapM find = .ok named ↔ List.Forall₂ (fun name l => IsNamed l name) names named := by
  rw [mapM_eq_ok_iff, ← List.forall₂_eq_eq_eq, List.forall₂_map_left_iff,
    List.forall₂_map_right_iff]
  simp only [find_eq_ok_iff]

/-- The locales that are found are those that some name names, and there is no other way to be
selected. -/
theorem mem_named_iff (each : List.Forall₂ (fun name l => IsNamed l name) names named) :
    l ∈ named ↔ ∃ name ∈ names, l.IsNamed name := by
  have found : names.mapM find = .ok named := mapM_find_eq_ok_iff.2 each
  constructor
  · intro mem
    obtain ⟨name, inNames, looked⟩ := exists_of_mapM_eq_ok found mem
    exact ⟨name, inNames, find_eq_ok_iff.1 looked⟩
  · intro ⟨name, inNames, isNamed⟩
    obtain ⟨l', mem, looked⟩ := exists_result_of_mapM_eq_ok found inNames
    rwa [isNamed.unique (find_eq_ok_iff.1 looked)]

/-- Names behind those that have been resolved are found one by one and added. The induction is on
the names, with the locales found before arbitrary. -/
theorem resolveAfter_eq (found : List Locale) (names : List String) :
    resolveAfter found names = (names.mapM find).map (·.foldl add found) := by
  induction names generalizing found with
  | nil => rfl
  | cons name names ih =>
    unfold resolveAfter
    rw [List.mapM_cons]
    cases read : parse? name with
    -- The first name of no locale ends the lookup, whatever has been found before.
    | none =>
      have looked : find name = .error name := find_eq_error_iff.2 ⟨rfl, parse?_eq_none_iff.1 read⟩
      rw [looked]
      rfl
    | some l =>
      have looked : find name = .ok l := find_eq_ok_iff.2 (parse?_eq_some_iff.1 read)
      rw [looked]
      show resolveAfter (add found l) names = _
      rw [ih]
      cases names.mapM find <;> rfl

/-- Names are resolved by looking each one up and adding what is found; without names all locales
are meant. -/
theorem resolve_eq (names : List String) : resolve names =
    (names.mapM find).map fun named => if names = [] then all else named.foldl add [] := by
  cases names with
  | nil => rfl
  | cons name names =>
    simp only [resolve, List.isEmpty_cons, Bool.false_eq_true, List.cons_ne_nil, if_false]
    exact resolveAfter_eq [] (name :: names)

/-- The locales that names select: all of them if there is no name, else those named, each one once
and in the order in which they are named first. -/
inductive Selects : List String → List Locale → Prop where
  | all : Selects [] Locale.all
  | named {names : List String} {named ls : List Locale} (some : names ≠ [])
    (each : List.Forall₂ (fun name l => IsNamed l name) names named)
    (firsts : AreFirsts named ls) : Selects names ls

/-- No locale is selected twice, be it all of them or those that are named. -/
theorem Selects.nodup (selects : Selects names ls) : ls.Nodup := by
  cases selects with
  | all => decide
  | named some each firsts => exact firsts.nodup

/-- Locales without repetition are selected by their codes. There has to be one at least, since no
code at all would select all of them. -/
theorem selects_codes (some : ls ≠ []) (distinct : ls.Nodup) : Selects (ls.map code) ls := by
  have each : List.Forall₂ (fun name l => IsNamed l name) (ls.map code) ls :=
    List.forall₂_map_left_iff.2 (List.forall₂_same.2 fun l _ => isNamed_code l)
  exact .named (fun none => some (List.map_eq_nil_iff.1 none)) each (areFirsts_self distinct)

/-- A name is the first one that names no locale: whatever stands before it names one. What stands
behind it is arbitrary. -/
def IsFirstUnnamed (names : List String) (name : String) : Prop :=
  ∃ before after, names = before ++ name :: after ∧ (∀ other ∈ before, ∃ l, IsNamed l other) ∧
    ∀ l, ¬IsNamed l name

/-- Names are resolved if and only if each of them names a locale. This is trivially so without
names, where all locales are meant. -/
theorem exists_resolve_iff :
    (∃ ls, resolve names = .ok ls) ↔ ∀ name ∈ names, ∃ l, IsNamed l name := by
  have each : (∃ named, names.mapM find = .ok named ∧ ∀ l ∈ named, True) ↔
      ∀ name ∈ names, ∃ l, find name = .ok l ∧ True := exists_mapM_eq_ok_iff
  simp only [find_eq_ok_iff, and_true, implies_true] at each
  rw [← each, resolve_eq]
  cases names.mapM find <;> simp [Except.map]

/-- They are resolved to the locales that they select, which are independent of the lookup's order
of steps. -/
theorem resolve_eq_ok_iff : resolve names = .ok ls ↔ Selects names ls := by
  constructor
  · intro resolved
    cases names with
    | nil =>
      cases resolved
      exact .all
    | cons name names =>
      rw [resolve_eq] at resolved
      cases found : (name :: names).mapM find with
      | error other =>
        rw [found] at resolved
        contradiction
      | ok named =>
        rw [found] at resolved
        cases resolved
        have none : AreFirsts [] [] := areFirsts_self List.nodup_nil
        exact .named (List.cons_ne_nil _ _) (mapM_find_eq_ok_iff.1 found)
          (areFirsts_foldl_add none named)
  · intro selects
    cases selects with
    | all => rfl
    | named some each firsts =>
      have none : AreFirsts [] [] := areFirsts_self List.nodup_nil
      rw [resolve_eq, mapM_find_eq_ok_iff.2 each, firsts.unique (areFirsts_foldl_add none _)]
      simp [Except.map, some]

example : resolve ["\u3000ZH ", "English", "cn"] = .ok [.chinese, .english] := rfl

/-- They are refused for the first name of no locale, and this is the name that the message shows.
-/
theorem resolve_eq_error_iff : resolve names = .error name ↔ IsFirstUnnamed names name := by
  have refused : resolve names = .error name ↔ names.mapM find = .error name := by
    rw [resolve_eq]
    cases names.mapM find <;> simp [Except.map]
  rw [refused, mapM_eq_error_iff]
  simp only [find_eq_ok_iff, find_eq_error_iff]
  constructor
  · rintro ⟨before, _, after, split, named, rfl, unnamed⟩
    exact ⟨before, after, split, named, unnamed⟩
  · rintro ⟨before, after, split, named, unnamed⟩
    exact ⟨before, name, after, split, named, rfl, unnamed⟩

/-- A single name is resolved to the locale that it names, and to no other one besides. -/
theorem resolve_singleton (isNamed : l.IsNamed name) : resolve [name] = .ok [l] := by
  have distinct : [l].Nodup := List.pairwise_singleton _ l
  exact resolve_eq_ok_iff.2
    (.named (List.cons_ne_nil _ _) (.cons isNamed .nil) (areFirsts_self distinct))

end Locale

/-! ### Runs over named locales -/

namespace Run

variable {names : List String} {ls : List Locale}

/-- A run goes over the locales that its names are resolved to: nothing else is done on the way. -/
theorem locales_eq_pure_iff : locales names = pure ls ↔ Locale.resolve names = .ok ls := by
  unfold locales
  cases Locale.resolve names with
  | ok found => exact ⟨fun same => by cases same; rfl, fun same => by cases same; rfl⟩
  | error name => exact ⟨nofun, nofun⟩

/-- A run fails over its names if and only if these are not resolved, with the error about the name
that is refused. -/
theorem locales_eq_throw_iff {e : RunError} : locales names = throw e ↔
    ∃ name, Locale.resolve names = .error name ∧ e = .noLocale name := by
  unfold locales
  cases Locale.resolve names with
  | ok found => exact ⟨nofun, nofun⟩
  | error name =>
    constructor
    · intro same
      cases same
      exact ⟨name, rfl, rfl⟩
    · rintro ⟨_, same, rfl⟩
      cases same
      rfl

/-- A single name gives the locale that is all it selects. Synthesis for one locale and a coverage
report read a name in this way. -/
theorem locale_eq_pure {name : String} {l : Locale} (h : Locale.resolve [name] = .ok [l]) :
    locale name = pure l := by
  unfold locale
  split
  · rename_i selected
    cases h.symm.trans selected
    rfl
  · rename_i refused
    cases h.symm.trans refused

/-- A single name that is refused fails the run with the error about itself. -/
theorem locale_eq_throw {name other : String} (h : Locale.resolve [name] = .error other) :
    locale name = throw (.noLocale other) := by
  unfold locale
  split
  · rename_i selected
    cases h.symm.trans selected
  · rename_i refused
    cases h.symm.trans refused
    rfl

/-- Names are resolved if and only if each of them names a locale, and to the locales that they
select. These are never none and none of them twice, and their codes are resolved to them again.
Otherwise the message is the one about the first name of no locale, whatever stands before and
behind it. So a single name gives the locale that it names and is all it selects, or is refused
itself. -/
theorem locales_each_once :
    (∀ names : List String,
      ((∃ ls, locales names = pure ls) ↔ ∀ name ∈ names, ∃ l, Locale.IsNamed l name) ∧
      (∀ ls, locales names = pure ls ↔ Locale.Selects names ls) ∧
      (∀ ls, locales names = pure ls →
        ls ≠ [] ∧ ls.Nodup ∧ locales (ls.map Locale.code) = pure ls) ∧
      ∀ e, locales names = throw e ↔ ∃ name, Locale.IsFirstUnnamed names name ∧
        e = .noLocale name ∧
        e.message = "unsupported locale `" ++ Text.cleaned name ++ "`; expected en|cn") ∧
    ∀ name,
      (∃ l, Locale.IsNamed l name ∧ locales [name] = pure [l] ∧ locale name = pure l) ∨
      (∀ l, ¬Locale.IsNamed l name) ∧ locale name = throw (.noLocale name) := by
  refine ⟨fun names => ⟨?_, fun ls => ?_, fun ls resolved => ?_, fun e => ?_⟩, fun name => ?_⟩
  · simp only [locales_eq_pure_iff, Locale.exists_resolve_iff]
  · rw [locales_eq_pure_iff, Locale.resolve_eq_ok_iff]
  · rw [locales_eq_pure_iff] at resolved
    -- The codes of no locales at all would be resolved to all of them.
    have some : ls ≠ [] := Locale.resolve_ne_nil resolved
    have distinct : ls.Nodup := (Locale.resolve_eq_ok_iff.1 resolved).nodup
    refine ⟨some, distinct, ?_⟩
    rw [locales_eq_pure_iff, Locale.resolve_eq_ok_iff]
    exact Locale.selects_codes some distinct
  · -- The message is told by the error, so that it adds nothing to be shown.
    simp only [locales_eq_throw_iff, Locale.resolve_eq_error_iff]
    constructor
    · rintro ⟨name, first, rfl⟩
      exact ⟨name, first, rfl, rfl⟩
    · rintro ⟨name, first, rfl, -⟩
      exact ⟨name, first, rfl⟩
  · by_cases named : ∃ l, Locale.IsNamed l name
    · obtain ⟨l, named⟩ := named
      have resolved : Locale.resolve [name] = .ok [l] := Locale.resolve_singleton named
      exact .inl ⟨l, named, locales_eq_pure_iff.2 resolved, locale_eq_pure resolved⟩
    · have unnamed : ∀ l, ¬Locale.IsNamed l name := not_exists.1 named
      have refused : Locale.resolve [name] = .error name :=
        Locale.resolve_eq_error_iff.2 ⟨[], [], rfl, List.forall_mem_nil _, unnamed⟩
      exact .inr ⟨unnamed, locale_eq_throw refused⟩

end Run

end TemplateCoverage
