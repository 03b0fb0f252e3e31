import TemplateCoverage.Colour
import TemplateCoverage.Entry
import TemplateCoverage.Label
import TemplateCoverage.Locale

/-!
# `TemplateCoverage.Card`: the card of a combination

A card is a message with a coloured head that names the event and the tag, a body that names the
repository, the action and the sender by placeholders, and a button that leads to the repository.
Main statements:

* `entry_tags`: the entry of a card covers the tag that it was made for.
-/

set_option autoImplicit false

namespace TemplateCoverage.Card

/-- The fixed words of a card. -/
structure Words where
  repository : String
  action : String
  user : String
  button : String

/-- The fixed words of a card in a locale. -/
def words : Locale → Words
  | .english => ⟨"Repository:", "Action:", "User:", "View Details"⟩
  | .chinese => ⟨"仓库：", "操作：", "用户：", "查看详情"⟩

/-- The title of a card for an event with a tag. -/
def title (event tag : String) : Locale → String
  | .english => Label.titled event ++ " " ++ if tag = "" then "Event" else Label.titled tag
  | .chinese =>
    Label.chineseEvent event ++ if tag = "" then "" else " " ++ Label.chineseAction tag

/-- The placeholder of a name. -/
def placeholder (name : String) : String := "\x7b\x7b" ++ name ++ "\x7d\x7d"

/-- A line of the body: a word in bold before a placeholder. -/
def bodyLine (word name : String) : String := "**" ++ word ++ "** " ++ placeholder name

/-- The body of a card. -/
def body (w : Words) : String :=
  bodyLine w.repository "repository_link_md" ++ "\n" ++ bodyLine w.action "action" ++ "\n" ++
    bodyLine w.user "sender_link_md"

open Json (Value)

/-- The object with the members given. -/
def object (members : List (String × Value)) : Value := Value.object (Json.Object.ofList members)

/-- A text element of a kind. -/
def text (kind content : String) : Value :=
  object [("tag", Value.string kind), ("content", Value.string content)]

/-- The head of a card. -/
def header (cardTitle : String) (colour : Colour) : Value :=
  object [("title", text "plain_text" ("🔔 " ++ cardTitle)), ("template", Value.string colour.name)]

/-- The button of a card. -/
def button (w : Words) : Value :=
  object [("tag", Value.string "button"), ("text", text "plain_text" w.button),
    ("url", Value.string (placeholder "repository.html_url")), ("type", Value.string "default")]

/-- The elements below the head. -/
def elements (w : Words) : List Value :=
  [object [("tag", Value.string "div"), ("text", text "lark_md" (body w))],
    object [("tag", Value.string "hr")],
    object [("tag", Value.string "action"), ("actions", Value.array [button w])]]

/-- The message that holds a card. -/
def message (cardTitle : String) (colour : Colour) (w : Words) : Value :=
  object [("msg_type", Value.string "interactive"),
    ("card", object [("config", object [("wide_screen_mode", Value.bool true)]),
      ("header", header cardTitle colour), ("elements", Value.array (elements w))])]

/-- The entry whose payload is the card for an event with a tag. -/
def entry (event tag : String) (locale : Locale) : Entry :=
  Entry.forTag tag (message (title event tag locale) (Colour.ofTag tag) (words locale))

/-- The entry of a card covers the tag that it was made for. -/
theorem entry_tags (event tag : String) (locale : Locale) :
    (entry event tag locale).normalizedTags = [Tag.normalize tag] := by
  simp [entry, Entry.forTag, Entry.normalizedTags]

end TemplateCoverage.Card
