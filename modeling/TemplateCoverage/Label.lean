import TemplateCoverage.Label.Table
import TemplateCoverage.Text.Case
import TemplateCoverage.Text.Split

/-!
# `TemplateCoverage.Label`: labels of events and tags

How cards name events and tags: in English by the words of the identifier, in Chinese by a table.
Main statements:

* `titled_of_word`: an identifier that is one word is that word with a capital.
-/

set_option autoImplicit false

namespace TemplateCoverage.Label

/-- A word with its first letter in upper case and the others in lower case. -/
def capitalised (word : String) : List Char :=
  match word.toList with
  | [] => []
  | c :: cs => Text.upper c ++ cs.flatMap Text.lower

/-- The words of an identifier, each with a capital, between single blanks. -/
def titled (identifier : String) : String :=
  String.ofList ([' '].intercalate ((Text.words '_' identifier).map capitalised))

/-- The Chinese label of an event: its name if the table has none. -/
def chineseEvent (event : String) : String := (chineseEvents.lookup event).getD event

/-- The Chinese label of a tag: the tag itself if the table has none. -/
def chineseAction (tag : String) : String := (chineseActions.lookup tag).getD tag

/-- An identifier that is one word is that word with a capital. -/
theorem titled_of_word {identifier : String} (word : Text.words '_' identifier = [identifier]) :
    titled identifier = String.ofList (capitalised identifier) := by
  simp [titled, word, List.intercalate]

end TemplateCoverage.Label
