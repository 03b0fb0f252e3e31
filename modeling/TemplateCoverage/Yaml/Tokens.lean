import TemplateCoverage.Yaml.Block
import TemplateCoverage.Yaml.Scalar
import TemplateCoverage.Yaml.Token

/-!
# `TemplateCoverage.Yaml.Tokens`: the tokens of a text

Tokens are read from left to right. A key is known by the colon behind it: the place where one may
start is kept until a colon follows on the same line and within 1024 characters, and the token for
the key is put in there. Indentation opens and closes blocks. Main statements:

* `tokens_emit`, `insertBefore_zero`: where new tokens go.
-/

set_option autoImplicit false

namespace TemplateCoverage.Yaml

/-- A place where a key may start. -/
structure KeyStart where
  spot : Spot
  /-- How many tokens come before it. -/
  position : Nat
  /-- Whether a key has to stand there. -/
  required : Bool

/-- What has been read and what it means for the rest. -/
structure Reading where
  /-- The tokens read, the last one first. -/
  tokens : List Token
  /-- The columns of the open blocks, the innermost first. -/
  indents : List Nat
  /-- The last place for a key at this level. -/
  keyStart : Option KeyStart
  /-- The same for the levels around the open flow collections. -/
  outer : List (Option KeyStart)
  /-- Whether a key may start at the next token. -/
  keyAllowed : Bool

namespace Reading

/-- Nothing is read yet. -/
def start : Reading := ⟨[], [], none, [], true⟩

/-- Whether a flow collection is open. -/
def inFlow (r : Reading) : Bool := !r.outer.isEmpty

/-- Adds a token. -/
def emit (r : Reading) (token : Token) : Reading := { r with tokens := token :: r.tokens }

/-- Sets whether a key may start at the next token. -/
def allowKey (r : Reading) (allowed : Bool) : Reading := { r with keyAllowed := allowed }

/-- Puts a token before the last tokens of a number. -/
def insertBefore (token : Token) (last : Nat) (tokens : List Token) : List Token :=
  tokens.take last ++ token :: tokens.drop last

/-- Whether a place for a key is too far back when the reader is at a spot. -/
def isStale (k : KeyStart) (s : Spot) : Bool :=
  decide (k.spot.line < s.line) || decide (k.spot.index + 1024 < s.index)

/-- Gives up places for keys that are too far back; none of them may be required. -/
def dropStale (r : Reading) (s : Spot) : Except Problem Reading :=
  let fresh (k : Option KeyStart) : Except Problem (Option KeyStart) :=
    match k with
    | some k => if !isStale k s then .ok k else if k.required then .error .key else .ok none
    | none => .ok none
  do return { r with keyStart := ← fresh r.keyStart, outer := ← r.outer.mapM fresh }

/-- Gives up the last place for a key, which must not be required. -/
def dropKey (r : Reading) : Except Problem Reading :=
  if r.keyStart.any (·.required) then .error .key else .ok { r with keyStart := none }

/-- Keeps a spot as a place for a key if one may start there. -/
def saveKey (r : Reading) (s : Spot) : Except Problem Reading :=
  if !r.keyAllowed then .ok r
  else do
    -- At the column of an open block nothing but the next key of that block can start.
    let required := !r.inFlow && r.indents.head? == some s.column
    return { ← r.dropKey with keyStart := some ⟨s, r.tokens.length, required⟩ }

/-- Closes the blocks that are indented further than a column. -/
def closeBlocks (column : Nat) (tokens : List Token) : List Nat → List Token × List Nat
  | [] => (tokens, [])
  | i :: indents =>
    if column < i then closeBlocks column (.blockEnd :: tokens) indents
    else (tokens, i :: indents)

/-- Closes the blocks that are indented further than a column. -/
def unindent (r : Reading) (column : Nat) : Reading :=
  if r.inFlow then r
  else
    let (tokens, indents) := closeBlocks column r.tokens r.indents
    { r with tokens := tokens, indents := indents }

/-- Closes all blocks. -/
def closeAll (r : Reading) : Reading :=
  if r.inFlow then r
  else
    { r with tokens := List.replicate r.indents.length .blockEnd ++ r.tokens, indents := [] }

/-- Opens a block at a column before the last tokens of a number, if the column lies further in. -/
def indent (r : Reading) (column last : Nat) (token : Token) : Reading :=
  if r.inFlow || !(r.indents.head?.all (· < column)) then r
  else
    { r with
      tokens := insertBefore token last r.tokens
      indents := column :: r.indents }

/-! ### Indicators -/

/-- Reads the mark of the start or the end of a document, or prepares for a directive. -/
def atLineStart (r : Reading) : Except Problem Reading := do
  return (← r.closeAll.dropKey).allowKey false

/-- Opens a flow collection. -/
def openFlow (r : Reading) (s : Spot) (token : Token) : Except Problem Reading := do
  let r ← r.saveKey s
  return { r with outer := r.keyStart :: r.outer, keyStart := none, keyAllowed := true }.emit token

/-- Closes a flow collection. -/
def closeFlow (r : Reading) (token : Token) : Except Problem Reading := do
  let r ← r.dropKey
  let r :=
    match r.outer with
    | k :: outer => { r with outer := outer, keyStart := k }
    | [] => r
  return (r.allowKey false).emit token

/-- Reads a comma of a flow collection. -/
def comma (r : Reading) : Except Problem Reading := do
  return ((← r.dropKey).allowKey true).emit .flowEntry

/-- Reads the indicator of an item of a block. -/
def item (r : Reading) (s : Spot) : Except Problem Reading := do
  if !r.inFlow && !r.keyAllowed then .error .context
  else return ((← (r.indent s.column 0 .blockSequence).dropKey).allowKey true).emit .blockEntry

/-- Reads the indicator of a key. -/
def explicitKey (r : Reading) (s : Spot) : Except Problem Reading := do
  if !r.inFlow && !r.keyAllowed then .error .context
  else return ((← (r.indent s.column 0 .blockMapping).dropKey).allowKey (!r.inFlow)).emit .key

/-- Reads the colon before a value. -/
def colon (r : Reading) (s : Spot) : Except Problem Reading :=
  match r.keyStart with
  | some k =>
    -- The key is known only now: its token, and the block it may open, go before its content.
    let last := r.tokens.length - k.position
    let r := { r with tokens := insertBefore .key last r.tokens }
    let r := r.indent k.spot.column (last + 1) .blockMapping
    .ok ({ r with keyStart := none, keyAllowed := false }.emit .value)
  | none =>
    -- The key is missing, or it is the one after the indicator of a key.
    if !r.inFlow && !r.keyAllowed then .error .context
    else .ok (((r.indent s.column 0 .blockMapping).allowKey (!r.inFlow)).emit .value)

/-! ### Reading -/

/-- The next token's spots: blanks, comments and line ends are passed over. A line end outside flow
collections allows a key; a tab is passed over only where no key may start. -/
def gap (r : Reading) (inComment : Bool) : List Spot → Reading × List Spot
  | [] => (r, [])
  | s :: rest =>
    if s.isBreak then gap { r with keyAllowed := r.keyAllowed || !r.inFlow } false rest
    else if inComment then gap r true rest
    else if s.char = '#' then gap r true rest
    else if s.char = ' ' ∨ (s.char = '\t' ∧ (r.inFlow ∨ r.keyAllowed = false)) ∨
        (s.char = '\ufeff' ∧ s.column = 0) then gap r false rest
    else (r, s :: rest)

/-- Adds the token of a reader. -/
def emitRead (r : Reading) (read : Except Problem (Token × List Spot)) :
    Except Problem (Reading × List Spot) := do
  let (token, rest) ← read
  return (r.emit token, rest)

/-- Reads a quoted scalar. -/
def quoted (r : Reading) (s : Spot) (read : Except Problem (List Char × List Spot)) :
    Except Problem (Reading × List Spot) := do
  let r ← r.saveKey s
  let (text, rest) ← read
  return ((r.allowKey false).emit (.scalar (String.ofList text) false), rest)

/-- Reads a block scalar. -/
def block (r : Reading) (folded : Bool) (spots : List Spot) :
    Except Problem (Reading × List Spot) := do
  let r ← r.dropKey
  let (text, rest) ← Block.read folded r.indents.head? spots
  return ((r.allowKey true).emit (.scalar (String.ofList text) false), rest)

/-- Reads a plain scalar. -/
def plain (r : Reading) (s : Spot) (spots : List Spot) : Except Problem (Reading × List Spot) := do
  let r ← r.saveKey s
  -- The lines of the scalar have to be indented further than the block around it.
  let indent := (r.indents.head?.map (· + 1)).getD 0
  let (text, broken, rest) ← Scalar.plain r.inFlow indent [] Gap.empty spots
  return ((r.allowKey broken).emit (.scalar (String.ofList text) true), rest)

/-- Reads an anchor or alias. -/
def named (r : Reading) (s : Spot) (token : String → Token) (spots : List Spot) :
    Except Problem (Reading × List Spot) := do
  let r ← r.saveKey s
  let (name, rest) ← Token.name spots
  return ((r.allowKey false).emit (token name), rest)

/-- Whether a plain scalar may start with a character. -/
def startsPlain (inFlow : Bool) (s : Spot) (rest : List Spot) : Bool :=
  if s.char == '-' then !(rest.head?.any Spot.isBlank)
  else if s.char == '?' || s.char == ':' then !inFlow && !Spot.isBlankEnd rest
  else
    !s.isBlank && !s.isBreak &&
      !([',', '[', ']', '\x7b', '\x7d', '#', '&', '*', '!', '|', '>', '\x27', '"', '%', '@',
        '\x60'].contains s.char)

/-- Reads the token of an indicator, or a scalar. -/
def token (r : Reading) (s : Spot) (rest : List Spot) : Except Problem (Reading × List Spot) := do
  let alone := r.inFlow || Spot.isBlankEnd rest
  if s.char = '[' then return (← r.openFlow s .flowSequence, rest)
  else if s.char = '\x7b' then return (← r.openFlow s .flowMapping, rest)
  else if s.char = ']' then return (← r.closeFlow .flowSequenceEnd, rest)
  else if s.char = '\x7d' then return (← r.closeFlow .flowMappingEnd, rest)
  else if s.char = ',' then return (← r.comma, rest)
  else if s.char = '-' ∧ Spot.isBlankEnd rest then return (← r.item s, rest)
  else if s.char = '?' ∧ alone then return (← r.explicitKey s, rest)
  else if s.char = ':' ∧ alone then return (← r.colon s, rest)
  else if s.char = '*' then r.named s .alias rest
  else if s.char = '&' then r.named s .anchor rest
  else if s.char = '!' then emitRead ((← r.saveKey s).allowKey false) (Token.readTag r.inFlow rest)
  else if s.char = '|' ∧ !r.inFlow then r.block false rest
  else if s.char = '>' ∧ !r.inFlow then r.block true rest
  else if s.char = '\x27' then r.quoted s (Scalar.single [] Gap.empty rest)
  else if s.char = '"' then r.quoted s (Scalar.double [] Gap.empty .outside rest)
  else if startsPlain r.inFlow s rest then r.plain s (s :: rest)
  else .error .indicator

/-- Reads the next token, with the tokens of the blocks that it opens or closes. -/
def next (r : Reading) (s : Spot) (rest : List Spot) : Except Problem (Reading × List Spot) := do
  -- A place for a key that is too far back is given up before the new column closes any block.
  let r := (← r.dropStale s).unindent s.column
  if s.column = 0 ∧ s.char = '%' then emitRead (← r.atLineStart) (Token.directive rest)
  else if Spot.startsMark '-' (s :: rest) then
    return ((← r.atLineStart).emit .documentStart, rest.drop 2)
  else if Spot.startsMark '.' (s :: rest) then
    return ((← r.atLineStart).emit .documentEnd, rest.drop 2)
  else r.token s rest

/-- Reads at most a number of tokens; the text may hold no more. -/
def run (r : Reading) : Nat → List Spot → Except Problem (List Token)
  | 0, _ => .error .indicator
  | steps + 1, spots =>
    match r.gap false spots with
    | (r, []) => do return (← r.closeAll.dropKey).tokens.reverse
    | (r, s :: rest) => do
      let (r, rest) ← r.next s rest
      r.run steps rest

theorem tokens_emit (r : Reading) (token : Token) : (r.emit token).tokens = token :: r.tokens := rfl

theorem insertBefore_zero (token : Token) (tokens : List Token) :
    insertBefore token 0 tokens = token :: tokens := by
  simp [insertBefore]

end Reading

/-- The tokens of a text. Every token has a character of its own, so there are no more tokens to
read than characters. -/
def tokens (text : List Char) : Except Problem (List Token) := do
  let spots ← Spot.ofText text
  Reading.start.run (spots.length + 1) spots

end TemplateCoverage.Yaml
