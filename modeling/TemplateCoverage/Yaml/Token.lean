import TemplateCoverage.Yaml.Spot

/-!
# `TemplateCoverage.Yaml.Token`: tokens, and those that are words

The tokens of a text, and the readers of tags, anchors and directives. Main statements:

* `word_append`: a word and the rest behind it are the whole text.
-/

set_option autoImplicit false

namespace TemplateCoverage.Yaml

/-- The octets of a tag in UTF-8. -/
abbrev Octets := List UInt8

/-- A token. The tokens of a block are put around its content where its indentation changes. -/
inductive Token where
  | version (major minor : Nat)
  | tagPrefix (handle : String) (start : Octets)
  | documentStart
  | documentEnd
  | blockSequence
  | blockMapping
  | blockEnd
  | blockEntry
  | flowSequence
  | flowSequenceEnd
  | flowMapping
  | flowMappingEnd
  | flowEntry
  | key
  | value
  | alias (name : String)
  | anchor (name : String)
  | tag (handle : String) (rest : Octets)
  | scalar (text : String) (plain : Bool)
  deriving DecidableEq

namespace Token

/-- The text of spots. -/
def textOf (spots : List Spot) : String := String.ofList (spots.map Spot.char)

/-- The longest word that a text starts with. -/
def word (spots : List Spot) : List Spot := spots.takeWhile Spot.isWord

/-- The rest of a text behind the word that it starts with. -/
def afterWord (spots : List Spot) : List Spot := spots.dropWhile Spot.isWord

/-- A word and the rest behind it are the whole text. -/
theorem word_append (spots : List Spot) : word spots ++ afterWord spots = spots :=
  List.takeWhile_append_dropWhile

/-! ### Anchors and aliases -/

/-- Whether a name may end before the rest of a text. -/
def endsName (spots : List Spot) : Bool :=
  Spot.isBlankEnd spots ||
    (spots.head?.any fun s => ['?', ':', ',', ']', '\x7d', '%', '@', '\x60'].contains s.char)

/-- The name of an anchor or alias. -/
def name (spots : List Spot) : Except Problem (String × List Spot) :=
  if (word spots).isEmpty || !endsName (afterWord spots) then .error .anchor
  else .ok (textOf (word spots), afterWord spots)

/-! ### Tags -/

/-- The octet of a character of ASCII. -/
def octet (c : Char) : UInt8 := c.toNat.toUInt8

/-- Whether a character may stand in a tag as it is. -/
def isTagChar (enclosed : Bool) (s : Spot) : Bool :=
  s.isWord ||
    [';', '/', '?', ':', '@', '&', '=', '+', '$', '.', '!', '~', '*', '\x27', '(', ')'].contains
      s.char ||
    (enclosed && [',', '[', ']'].contains s.char)

/-- How many octets follow the first octet of a character, if it can be one. -/
def following? (octet : Nat) : Option Nat :=
  if octet < 0x80 then some 0
  else if octet / 0x20 = 6 then some 1
  else if octet / 0x10 = 14 then some 2
  else if octet / 0x08 = 30 then some 3
  else none

/-- The longest part of a tag that a text starts with, its escapes decoded, while a number of octets
have to follow for the present character. -/
def octets (enclosed : Bool) (owed : Nat) : List Spot → Except Problem (Octets × List Spot)
  | p :: a :: b :: rest =>
    if p.char = '%' then
      match a.hexValue?, b.hexValue? with
      | some high, some low => do
        let n := high * 16 + low
        let owed ←
          if 0 < owed then if n / 0x40 = 2 then .ok (owed - 1) else .error .tag
          else
            match following? n with
            | some k => .ok k
            | none => .error .tag
        let (more, rest) ← octets enclosed owed rest
        return (n.toUInt8 :: more, rest)
      | _, _ => .error .tag
    else if 0 < owed then .error .tag
    else if isTagChar enclosed p then do
      let (more, rest) ← octets enclosed 0 (a :: b :: rest)
      return (octet p.char :: more, rest)
    else .ok ([], p :: a :: b :: rest)
  | s :: rest =>
    if s.char = '%' ∨ 0 < owed then .error .tag
    else if isTagChar enclosed s then do
      let (more, rest) ← octets enclosed 0 rest
      return (octet s.char :: more, rest)
    else .ok ([], s :: rest)
  | [] => if 0 < owed then .error .tag else .ok ([], [])

/-- The handle after its first character, and whether a second mark closes it. -/
def handle (spots : List Spot) : String × Bool × List Spot :=
  match afterWord spots with
  | s :: rest =>
    if s.char = '!' then ("!" ++ textOf (word spots) ++ "!", true, rest)
    else ("!" ++ textOf (word spots), false, s :: rest)
  | [] => ("!" ++ textOf (word spots), false, [])

/-- Refuses a tag that has no part behind its handle. -/
def requireSome (part : Octets × List Spot) : Except Problem (Octets × List Spot) :=
  if part.1.isEmpty then .error .tag else .ok part

/-- What is kept of a part of a tag. A null octet, which only an escape can spell, ends it; that the
part is not empty is asked of the part as it is written. -/
def kept (part : Octets) : Octets := part.takeWhile (· ≠ 0)

/-- Reads a tag after its first character: a handle closed by a second mark and a part behind it, or
a part alone, or nothing at all. -/
def shorthand (spots : List Spot) : Except Problem (Token × List Spot) :=
  match handle spots with
  | (closed, true, rest) => do
    let (part, rest) ← octets false 0 rest >>= requireSome
    return (.tag closed (kept part), rest)
  | (_, false, rest) => do
    let (part, rest) ← octets false 0 rest
    -- What looked like a handle is the start of the tag itself.
    let part := kept ((word spots).map (octet ·.char) ++ part)
    return (if part.isEmpty then .tag "" [octet '!'] else .tag "!" part, rest)

/-- Reads a tag between angle brackets, after the opening one. -/
def verbatim (spots : List Spot) : Except Problem (Token × List Spot) := do
  match ← octets true 0 spots >>= requireSome with
  | (part, s :: rest) => if s.char = '>' then return (.tag "" (kept part), rest) else .error .tag
  | (_, []) => .error .tag

/-- Reads a tag after its first character. -/
def readTag (inFlow : Bool) (spots : List Spot) : Except Problem (Token × List Spot) := do
  let (token, rest) ←
    match spots with
    | s :: rest => if s.char = '<' then verbatim rest else shorthand spots
    | [] => shorthand []
  -- In a flow collection a tag may stand for a whole item.
  if Spot.isBlankEnd rest || (inFlow && rest.head?.any (·.char == ',')) then return (token, rest)
  else .error .tag

/-! ### Directives -/

/-- A number of a version, of at most nine digits. -/
def versionNumber (spots : List Spot) : Except Problem (Nat × List Spot) :=
  let digits := spots.takeWhile fun s => '0' ≤ s.char && s.char ≤ '9'
  if digits.isEmpty || 9 < digits.length then .error .directive
  else
    .ok (digits.foldl (fun n s => n * 10 + (s.char.toNat - '0'.toNat)) 0,
      spots.drop digits.length)

/-- Reads the rest of a version directive. -/
def versionDirective (spots : List Spot) : Except Problem (Token × List Spot) := do
  let (major, rest) ← versionNumber (Spot.skipBlanks spots)
  match rest with
  | s :: rest =>
    if s.char = '.' then
      let (minor, rest) ← versionNumber rest
      return (.version major minor, rest)
    else .error .directive
  | [] => .error .directive

/-- Reads the rest of a directive that declares a handle. -/
def tagDirective (spots : List Spot) : Except Problem (Token × List Spot) := do
  match Spot.skipBlanks spots with
  | s :: rest =>
    if s.char ≠ '!' then .error .directive
    else
      let (name, closed, rest) := handle rest
      if (!closed && name != "!") || !(rest.head?.any Spot.isBlank) then .error .directive
      else
        let (start, rest) ← octets true 0 (Spot.skipBlanks rest) >>= requireSome
        if Spot.isBlankEnd rest then return (.tagPrefix name (kept start), rest)
        else .error .directive
  | [] => .error .directive

/-- Reads a directive after its first character, with its line. -/
def directive (spots : List Spot) : Except Problem (Token × List Spot) := do
  let rest := afterWord spots
  if !Spot.isBlankEnd rest then .error .directive
  else
    let (token, rest) ←
      if textOf (word spots) = "YAML" then versionDirective rest
      else if textOf (word spots) = "TAG" then tagDirective rest
      else .error .directive
    match Spot.lineRest? rest with
    | some rest => return (token, rest)
    | none => .error .directive

end Token

end TemplateCoverage.Yaml
