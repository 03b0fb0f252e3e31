import TemplateCoverage.Text.Blank

/-!
# `TemplateCoverage.Locale`: the languages of catalogs

There is one catalog for each locale. A locale is named by its code or an alias, in any case and
with blanks around it. Main statements:

* `parse?_code`: a locale is named by its own code;
* `resolve_ne_nil`: names never select no locale at all.
-/

set_option autoImplicit false

namespace TemplateCoverage

/-- The language of a catalog. -/
inductive Locale where
  | english
  | chinese
  deriving DecidableEq

namespace Locale

/-- Every locale, in the order of reports. -/
def all : List Locale := [.english, .chinese]

/-- The code of a locale, also used in file names. -/
def code : Locale → String
  | .english => "en"
  | .chinese => "cn"

/-- The comment lines above a catalog document. -/
def header : Locale → List String
  | .english => ["Template configuration file",
      "This file defines all Feishu message card templates for GitHub events (English version)"]
  | .chinese => ["中文模板配置文件", "此文件定义了所有 GitHub 事件的飞书消息卡片模板（中文版）"]

/-- The locale of a name. -/
def parse? (name : String) : Option Locale :=
  if Text.cleaned name = "en" ∨ Text.cleaned name = "english" then some .english
  else if Text.cleaned name = "cn" ∨ Text.cleaned name = "zh" ∨ Text.cleaned name = "chinese" then
    some .chinese
  else none

/-- The message about a name that names no locale. -/
def unsupported (name : String) : String :=
  s!"unsupported locale `{Text.cleaned name}`; expected en|cn"

/-- The locales of names from left to right, each one once, after those already found. A failure is
the first name that names no locale. -/
def resolveAfter (found : List Locale) : List String → Except String (List Locale)
  | [] => .ok found
  | name :: names =>
    match parse? name with
    | some l => resolveAfter (if l ∈ found then found else found ++ [l]) names
    | none => .error name

/-- The locales that names select, each one once; no name selects all. A failure is the first name
that names no locale. -/
def resolve (names : List String) : Except String (List Locale) :=
  if names.isEmpty then .ok all else resolveAfter [] names

/-- A locale is named by its own code. -/
theorem parse?_code (l : Locale) : parse? l.code = some l := by
  cases l <;> decide

theorem resolveAfter_ne_nil {found ls : List Locale} {names : List String}
    (h : resolveAfter found names = .ok ls) (some : found ≠ [] ∨ names ≠ []) : ls ≠ [] := by
  induction names generalizing found with
  | nil =>
    cases h
    exact some.resolve_right fun none => none rfl
  | cons name names ih =>
    unfold resolveAfter at h
    cases named : parse? name with
    | none =>
      rw [named] at h
      contradiction
    | some l =>
      rw [named] at h
      refine ih h (.inl ?_)
      split
      · rename_i old
        exact List.ne_nil_of_mem old
      · exact List.append_ne_nil_of_right_ne_nil _ (List.cons_ne_nil l [])

/-- Names never select no locale at all. -/
theorem resolve_ne_nil {ls : List Locale} {names : List String} (h : resolve names = .ok ls) :
    ls ≠ [] := by
  unfold resolve at h
  split at h
  · cases h
    exact List.cons_ne_nil _ _
  · rename_i some
    exact resolveAfter_ne_nil h (.inr fun none => some (List.isEmpty_iff.2 none))

end Locale

end TemplateCoverage
