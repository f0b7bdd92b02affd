import GatewayFlow.Yaml.BlockText
import GatewayFlow.Yaml.PlainText
import GatewayFlow.Yaml.QuotedText
import GatewayFlow.Yaml.Token

/-!
# Layout

From the characters of a YAML text to its tokens. Blocks are opened by the column of their first
part and closed by the first part that stands further left. A key without a mark of its own is
recognised at the colon behind it: it has to be on the same line and within 1024 characters.
-/
namespace GatewayFlow.Yaml

/-- A place in a text. -/
structure Spot where
  rest : List Char
  index : Nat
  line : Nat
  column : Nat
deriving DecidableEq, Repr

namespace Spot

/-- The place behind a character that `rest` follows. -/
def after (s : Spot) (c : Char) (rest : List Char) : Spot :=
  if isBreak c || (c == '\r' && rest.head? != some '\n') then ⟨rest, s.index + 1, s.line + 1, 0⟩
  else ⟨rest, s.index + 1, s.line, if c == '\ufeff' then s.column else s.column + 1⟩

def skip (s : Spot) : Nat → Spot
  | 0 => s
  | n + 1 =>
    match s.rest with
    | [] => s
    | c :: rest => (s.after c rest).skip n

/-- The place from which `rest` is left. -/
def skipTo (s : Spot) (rest : List Char) : Spot :=
  s.skip (s.rest.length - rest.length)

end Spot

/-- A place where a key may have started. -/
structure KeyPlace where
  /-- The number of tokens before it. -/
  tokens : Nat
  /-- Whether nothing but a key can stand there. -/
  required : Bool
  index : Nat
  line : Nat
  column : Nat
deriving DecidableEq, Repr

/-- What is known while tokens are read. -/
structure Layout where
  spot : Spot
  /-- The tokens so far, the last one first. -/
  tokens : List Token
  count : Nat
  /-- The columns of the open blocks, the innermost first. -/
  indents : List Nat
  /-- Where a key may have started, outside brackets and for each level of brackets, the innermost
  first. -/
  keys : List (Option KeyPlace)
  /-- Whether a key may start here. -/
  keyAllowed : Bool

namespace Layout

/-- The start of a text, behind a mark of the byte order. -/
def start (cs : List Char) : Layout where
  spot := ⟨if cs.head? = some '\ufeff' then cs.drop 1 else cs, 0, 0, 0⟩
  tokens := []
  count := 0
  indents := []
  keys := [none]
  keyAllowed := true

def inFlow (l : Layout) : Bool :=
  l.keys.length != 1

def emit (l : Layout) (t : Token) : Layout :=
  { l with tokens := t :: l.tokens, count := l.count + 1 }

def advance (l : Layout) (n : Nat) : Layout :=
  { l with spot := l.spot.skip n }

def advanceTo (l : Layout) (rest : List Char) : Layout :=
  { l with spot := l.spot.skipTo rest }

def allowKey (l : Layout) (allowed : Bool) : Layout :=
  { l with keyAllowed := allowed }

/-- The columns of the blocks that stay open at a column, and how many are closed. -/
def closing (column : Nat) : List Nat → List Nat × Nat
  | [] => ([], 0)
  | indent :: rest =>
    if column < indent then ((closing column rest).1, (closing column rest).2 + 1)
    else (indent :: rest, 0)

/-- Closes blocks, with a token for each. -/
def closeBlocks (l : Layout) (left : List Nat × Nat) : Layout :=
  { l with
    tokens := List.replicate left.2 .blockEnd ++ l.tokens
    count := l.count + left.2
    indents := left.1 }

/-- Closes the blocks that stand further right than the place reached. -/
def unwind (l : Layout) : Layout :=
  if l.inFlow then l else l.closeBlocks (closing l.spot.column l.indents)

def unwindAll (l : Layout) : Layout :=
  if l.inFlow then l else l.closeBlocks ([], l.indents.length)

/-- Whether a block at a column would be inside the innermost open one. -/
def isDeeper (l : Layout) (column : Nat) : Bool :=
  match l.indents with
  | [] => true
  | indent :: _ => indent < column

/-- Opens a block at the place reached unless one is open there. -/
def openBlock (l : Layout) (t : Token) : Layout :=
  if !l.inFlow && l.isDeeper l.spot.column then
    ({ l with indents := l.spot.column :: l.indents } : Layout).emit t
  else l

/-- Gives up the key that may have started on this level of brackets. -/
def dropKey (l : Layout) : Option Layout :=
  match l.keys with
  | some place :: rest => if place.required then none else some { l with keys := none :: rest }
  | _ => some l

def saveKey (l : Layout) : Option Layout :=
  if l.keyAllowed then do
    let required := !l.inFlow && l.indents.head? == some l.spot.column
    let l ← l.dropKey
    let place := ⟨l.count, required, l.spot.index, l.spot.line, l.spot.column⟩
    some { l with keys := some place :: l.keys.drop 1 }
  else some l

/-- The greatest number of characters in a key without a mark. -/
def keyLimit : Nat := 1024

/-- Gives up the keys that started on a line before or too far back. -/
def dropStaleKeys (l : Layout) : Option Layout := do
  let isStale (place : KeyPlace) : Bool :=
    place.line != l.spot.line || keyLimit < l.spot.index - place.index
  let stale := (l.keys.filterMap id).filter isStale
  if stale.any KeyPlace.required then none
  else some { l with keys := l.keys.map fun place? => place?.filter fun place => !isStale place }

/-- Inserts tokens before all but the first `place.tokens` ones. -/
def insert (l : Layout) (place : KeyPlace) (ts : List Token) : Layout :=
  let newer := l.count - place.tokens
  { l with
    tokens := l.tokens.take newer ++ ts.reverse ++ l.tokens.drop newer
    count := l.count + ts.length }

/-- Skips spaces, comments and line ends; tells whether there was a line end. -/
def skipGaps (inComment : Bool) : List Char → Bool × List Char
  | [] => (false, [])
  | c :: cs =>
    if isLineEnd c then (true, (skipGaps false cs).2)
    else if inComment || c == '#' then skipGaps true cs
    else if c == ' ' then skipGaps false cs
    else (false, c :: cs)

/-- Goes on to the next token; a new line allows a key outside brackets. -/
def toNext (l : Layout) : Layout :=
  let (newLine, rest) := skipGaps false l.spot.rest
  { l.advanceTo rest with keyAllowed := l.keyAllowed || (newLine && !l.inFlow) }

/-- A scalar, an alias, an anchor or a tag: a key may start with it. -/
def readMark (l : Layout) (read : Option (Token × List Char)) : Option Layout := do
  let l ← l.saveKey
  let (token, rest) ← read
  some (((l.allowKey false).advanceTo rest).emit token)

def openFlow (l : Layout) (t : Token) : Option Layout := do
  let l ← l.saveKey
  some ((({ l with keys := none :: l.keys } : Layout).allowKey true).advance 1 |>.emit t)

/-- A bracket that closes; there has to be an open one. -/
def closeFlow (l : Layout) (t : Token) : Option Layout := do
  let l ← l.dropKey
  if l.inFlow then
    some ((({ l with keys := l.keys.drop 1 } : Layout).allowKey false).advance 1 |>.emit t)
  else none

def readFlowEntry (l : Layout) : Option Layout := do
  let l ← l.dropKey
  some (((l.allowKey true).advance 1).emit .flowEntry)

/-- The mark of an item or of a key, which outside brackets has to be where a key may start. -/
def readEntry (l : Layout) (block entry : Token) (keyAfter : Bool) : Option Layout := do
  if !l.inFlow && !l.keyAllowed then none
  let l ← (l.openBlock block).dropKey
  some (((l.allowKey keyAfter).advance 1).emit entry)

/-- The colon behind a key, with or without a mark before the key. -/
def readValue (l : Layout) : Option Layout :=
  match l.keys with
  | some place :: keys =>
    let l := { l with keys := none :: keys }
    let opens := !l.inFlow && l.isDeeper place.column
    let l := if opens then
        ({ l with indents := place.column :: l.indents } : Layout).insert place
          [.blockMappingStart, .key]
      else l.insert place [.key]
    some (((l.allowKey false).advance 1).emit .value)
  | _ => l.readEntry .blockMappingStart .value (!l.inFlow)

/-- A marker of the start or the end of a document. -/
def readMarker (l : Layout) (t : Token) : Option Layout := do
  let l ← l.unwindAll.dropKey
  some (((l.allowKey false).advance 3).emit t)

def readDirective (l : Layout) (cs : List Char) : Option Layout := do
  let l ← l.unwindAll.dropKey
  let (directive, rest) ← readDirective? cs
  some (((l.allowKey false).advanceTo rest).emit (.directive directive))

def readBlockScalar (l : Layout) (folded : Bool) (cs : List Char) : Option Layout := do
  let l ← l.dropKey
  let least := match l.indents with
    | [] => 1
    | indent :: _ => indent + 1
  let (text, rest) ← readBlockText? folded least cs
  some (((l.allowKey true).advanceTo rest).emit (.scalar false (String.ofList text)))

def quotedToken? (double : Bool) (cs : List Char) : Option (Token × List Char) :=
  (readQuoted double .nothing cs).map fun (text, rest) =>
    (.scalar false (String.ofList text), rest)

def plainToken (l : Layout) : Token × List Char :=
  let least := match l.indents with
    | [] => 0
    | indent :: _ => indent + 1
  let (text, rest) := readPlainText l.inFlow least .nothing l.spot.rest l.spot.rest
  (.scalar true (String.ofList text), rest)

/-- The next token, of which `c` is the first character and `cs` what follows it. -/
def readToken (l : Layout) (c : Char) (cs : List Char) : Option Layout :=
  let atStart := l.spot.column == 0
  let bareGap := startsWithGap cs
  -- What stands at the start of a line comes first: elsewhere a marker is a plain scalar.
  if c == '%' && atStart then l.readDirective cs
  else if atStart && startsMarker (c :: cs) then
    l.readMarker (if c == '-' then .documentStart else .documentEnd)
  else if c == '[' then l.openFlow .flowSequenceStart
  else if c == '\x7b' then l.openFlow .flowMappingStart
  else if c == ']' then l.closeFlow .flowSequenceEnd
  else if c == '\x7d' then l.closeFlow .flowMappingEnd
  else if c == ',' then l.readFlowEntry
  else if c == '-' && bareGap then l.readEntry .blockSequenceStart .blockEntry true
  else if c == '?' && (l.inFlow || bareGap) then l.readEntry .blockMappingStart .key (!l.inFlow)
  else if c == ':' && (l.inFlow || bareGap) then l.readValue
  else if c == '*' then
    l.readMark ((readAnchor? cs).map fun (name, rest) => (.alias name, rest))
  else if c == '&' then
    l.readMark ((readAnchor? cs).map fun (name, rest) => (.anchor name, rest))
  else if c == '!' then l.readMark ((readTag? (c :: cs)).map fun (tag, rest) => (.tag tag, rest))
  else if (c == '|' || c == '>') && !l.inFlow then l.readBlockScalar (c == '>') cs
  else if c == '\'' then l.readMark (quotedToken? false cs)
  else if c == '"' then l.readMark (quotedToken? true cs)
  else if startsPlain l.inFlow c cs then l.readMark (some l.plainToken)
  else none

/-- The tokens from the place reached on; `fuel` bounds their number. -/
def run : Nat → Layout → Option (List Token)
  | 0, _ => none
  | fuel + 1, l => do
    let l ← l.toNext.dropStaleKeys
    let l := l.unwind
    match l.spot.rest with
    | [] =>
      let l ← l.unwindAll.dropKey
      some l.tokens.reverse
    | c :: cs => run fuel (← l.readToken c cs)

end Layout

/-- The characters that may stand in a YAML text. -/
def isReadable (c : Char) : Bool :=
  let n := c.toNat
  n == 0x9 || n == 0xA || n == 0xD || (0x20 ≤ n && n ≤ 0x7E) || n == 0x85 ||
    (0xA0 ≤ n && n ≤ 0xD7FF) || (0xE000 ≤ n && n ≤ 0xFFFD) || 0x10000 ≤ n

/-- The tokens of a text, when it has a layout. -/
def tokens? (cs : List Char) : Option (List Token) :=
  if cs.all isReadable then Layout.run (cs.length + 2) (.start cs) else none

end GatewayFlow.Yaml
