import TemplateCoverage.Layout

/-!
# `TemplateCoverage.CommandLine.Arguments`: the arguments of the program

Arguments are options with values and the name of one run. Options may stand before the name and
after it, each once on either side; the later side counts. The locales of a run may be given several
times. Main statements:

* `get?_set`: what an option has after it is set.
-/

set_option autoImplicit false

namespace TemplateCoverage

/-- The options with a value. -/
inductive Setting where
  | configDir
  | taxonomy
  | catalog (locale : Locale)
  | candidates (locale : Locale)
  | logLevel
  | logDir
  | locale
  | primary
  | secondary
  deriving DecidableEq

/-- The runs that arguments may name. -/
inductive RunName where
  | analyze
  | synthesize
  | merge
  | compare
  deriving DecidableEq

namespace RunName

/-- The run of a name. -/
def parse? (name : String) : Option RunName :=
  [("analyze", analyze), ("synthesize", synthesize), ("merge", merge), ("compare", compare)].lookup
    name

/-- The options that only some runs take. -/
def settings : RunName → List (String × Setting)
  | .compare => [("primary", .primary), ("secondary", .secondary)]
  | _ => [("locale", .locale)]

end RunName

namespace Setting

/-- The options that every run takes, before its name or after it. -/
def shared : List (String × Setting) := [
  ("config-dir", .configDir), ("taxonomy", .taxonomy), ("en-catalog", .catalog .english),
  ("en-candidates", .candidates .english), ("cn-catalog", .catalog .chinese),
  ("cn-candidates", .candidates .chinese), ("log-level", .logLevel), ("log-dir", .logDir)]

/-- Whether the value of an option is a path, which may not be empty. -/
def isPath : Setting → Bool
  | .configDir => true
  | .taxonomy => true
  | .catalog _ => true
  | .candidates _ => true
  | _ => false

/-- Whether an option may be given several times on one side. -/
def isList : Setting → Bool
  | .locale => true
  | _ => false

end Setting

/-- The options given on one side of the name of the run, in order. -/
abbrev Settings := List (Setting × String)

namespace Settings

/-- The value of an option. -/
def get? (s : Settings) (setting : Setting) : Option String := s.lookup setting

/-- The values of an option that may be given several times. -/
def all (s : Settings) (setting : Setting) : List String :=
  (s.filter (·.1 = setting)).map (·.2)

/-- Adds an option unless it is there already or its value is not allowed. -/
def set? (s : Settings) (setting : Setting) (value : String) : Option Settings :=
  if (setting.isPath && value.isEmpty) || (!setting.isList && (s.get? setting).isSome) then none
  else some (s ++ [(setting, value)])

/-- An option that is set has its value, and the other options have theirs. -/
theorem get?_set {s s' : Settings} {setting other : Setting} {value : String}
    (h : s.set? setting value = some s') (single : setting.isList = false) :
    s'.get? other = if other = setting then some value else s.get? other := by
  unfold set? at h
  split at h
  · simp at h
  · rename_i allowed
    simp only [Option.some.injEq] at h
    subst h
    -- An option that may be set once is not there yet, so the pair at the end is the first.
    have fresh : s.lookup setting = none := by
      cases found : s.lookup setting with
      | none => rfl
      | some v => simp [single, get?, found] at allowed
    unfold get?
    rw [List.lookup_append]
    by_cases eq : other = setting
    · subst eq
      simp [fresh]
    · have ne : (other == setting) = false := beq_false_of_ne eq
      simp [eq, ne, List.lookup_cons]

end Settings

/-! ### Single arguments -/

/-- An argument by its form. -/
inductive Argument where
  /-- An option in full, perhaps with its value behind a sign of equality. -/
  | option (name : String) (value : Option String)
  /-- Letters behind a hyphen. -/
  | letters (first : Char)
  /-- Two hyphens, behind which no options stand. -/
  | endOfOptions
  | word (text : String)
  deriving DecidableEq

namespace Argument

/-- The form of an argument. -/
def ofText (s : String) : Argument :=
  match s.toList with
  | ['-', '-'] => .endOfOptions
  | '-' :: '-' :: rest =>
    let name := String.ofList (rest.takeWhile (· ≠ '='))
    match rest.dropWhile (· ≠ '=') with
    | [] => .option name none
    | _ :: value => .option name (some (String.ofList value))
  | '-' :: c :: _ => .letters c
  | _ => .word s

/-- Whether an argument can be the value of the option before it. -/
def isValue (s : String) : Bool :=
  match ofText s with
  | .word _ => true
  | _ => false

end Argument

/-! ### All arguments -/

/-- What arguments ask for. -/
inductive Arguments where
  | run (before : Settings) (name : RunName) (after : Settings)
  | version
  | help
  | refused

namespace Arguments

/-- Reads the options behind the name of a run. -/
def readAfter (before : Settings) (name : RunName) (after : Settings) : List String → Arguments
  | [] => .run before name after
  | a :: rest =>
    match Argument.ofText a with
    | .option option value =>
      match (name.settings ++ Setting.shared).lookup option, value, rest with
      | some setting, some v, rest =>
        match after.set? setting v with
        | some after => readAfter before name after rest
        | none => .refused
      | some setting, none, v :: rest =>
        if !Argument.isValue v then .refused
        else
          match after.set? setting v with
          | some after => readAfter before name after rest
          | none => .refused
      | some _, none, [] => .refused
      | none, value, _ => if option = "help" ∧ value = none then .help else .refused
    | .letters c => if c = 'h' then .help else .refused
    -- Nothing may stand behind the end of options, since no run takes plain words.
    | .endOfOptions => if rest.isEmpty then .run before name after else .refused
    | .word _ => .refused

/-- Reads the options before the name of a run, the name, and what stands behind it. -/
def readFrom (before : Settings) : List String → Arguments
  | [] => .refused
  | a :: rest =>
    match Argument.ofText a with
    | .option option value =>
      match Setting.shared.lookup option, value, rest with
      | some setting, some v, rest =>
        match before.set? setting v with
        | some before => readFrom before rest
        | none => .refused
      | some setting, none, v :: rest =>
        if !Argument.isValue v then .refused
        else
          match before.set? setting v with
          | some before => readFrom before rest
          | none => .refused
      | some _, none, [] => .refused
      | none, value, _ =>
        if option = "help" ∧ value = none then .help
        else if option = "version" ∧ value = none then .version
        else .refused
    | .letters c => if c = 'h' then .help else if c = 'V' then .version else .refused
    -- Behind the end of options no name of a run is recognised any more.
    | .endOfOptions => .refused
    | .word w =>
      match RunName.parse? w with
      | some name => readAfter before name [] rest
      | none => if w = "help" then .help else .refused

/-- Reads the arguments of the program. -/
def read (args : List String) : Arguments := readFrom [] args

end Arguments

/-! ### What the options mean -/

namespace Settings

/-- The value of an option on the later side that has it. -/
def either (before after : Settings) (setting : Setting) : Option String :=
  match after.get? setting with
  | some v => some v
  | none => before.get? setting

/-- The paths of a locale's documents. -/
def pathsFor (before after : Settings) (layout : Layout) (locale : Locale) : LocalePaths where
  catalog := (either before after (.catalog locale)).getD (layout.paths locale).catalog
  candidates := (either before after (.candidates locale)).getD (layout.paths locale).candidates

/-- The layout that options give. -/
def layout (before after : Settings) : Layout :=
  let fixed := Layout.inDirectory ((either before after .configDir).getD "configs")
  { taxonomy := (either before after .taxonomy).getD fixed.taxonomy
    english := pathsFor before after fixed .english
    chinese := pathsFor before after fixed .chinese }

end Settings

end TemplateCoverage
