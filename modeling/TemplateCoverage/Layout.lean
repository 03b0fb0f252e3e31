import TemplateCoverage.Files.Path
import TemplateCoverage.Locale

/-!
# `TemplateCoverage.Layout`: where the documents lie

The paths of the taxonomy and of each locale's catalog and candidates. They lie in one directory
under fixed names unless other paths are given. Main statements:

* `paths_withPaths`: setting the paths of one locale leaves the other locale alone.
-/

set_option autoImplicit false

namespace TemplateCoverage

/-- The paths of one locale's documents. -/
structure LocalePaths where
  catalog : String
  candidates : String
  deriving DecidableEq

/-- The paths of all documents. -/
structure Layout where
  taxonomy : String
  english : LocalePaths
  chinese : LocalePaths
  deriving DecidableEq

namespace Layout

/-- The paths of one locale's documents. -/
def paths (layout : Layout) : Locale → LocalePaths
  | .english => layout.english
  | .chinese => layout.chinese

/-- Sets the paths of one locale's documents. -/
def withPaths (layout : Layout) (locale : Locale) (paths : LocalePaths) : Layout :=
  match locale with
  | .english => { layout with english := paths }
  | .chinese => { layout with chinese := paths }

/-- The file name of a locale's catalog. -/
def catalogFile : Locale → String
  | .english => "templates.jsonc"
  | locale => s!"templates.{locale.code}.jsonc"

/-- The file name of a locale's candidates. -/
def candidatesFile (locale : Locale) : String :=
  s!"generated_missing_templates_{locale.code}.json"

/-- The paths of a locale's documents in a directory. -/
def pathsIn (dir : String) (locale : Locale) : LocalePaths where
  catalog := Path.join dir (catalogFile locale)
  candidates := Path.join dir (candidatesFile locale)

/-- The documents under their fixed names in a directory. -/
def inDirectory (dir : String) : Layout where
  taxonomy := Path.join dir "events.yaml"
  english := pathsIn dir .english
  chinese := pathsIn dir .chinese

/-- Setting the paths of one locale leaves the other locale alone. -/
theorem paths_withPaths {layout : Layout} {locale l : Locale} {paths : LocalePaths} :
    (layout.withPaths locale paths).paths l = if l = locale then paths else layout.paths l := by
  cases locale <;> cases l <;> rfl

end Layout

end TemplateCoverage
