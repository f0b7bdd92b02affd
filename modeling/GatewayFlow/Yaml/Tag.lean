import GatewayFlow.Number.Reading
import GatewayFlow.Text.Utf8
import GatewayFlow.Yaml.Spacing

/-!
# Tags, anchors and directives

The marks that name a node or its type, and the lines before a document that say how tags are
written. A tag is written in full, or as a handle that a directive explains and a suffix.
-/
namespace GatewayFlow.Yaml

/-- A tag as it is written. -/
inductive TagName
  | full (name : String)
  | short (handle suffix : String)
deriving DecidableEq, Repr

/-- A line before a document. -/
inductive Directive
  | version (major : Nat)
  | handle (name meaning : String)
  | unknown
deriving DecidableEq, Repr

/-- The characters of anchors, handles and the names of directives. -/
def isNameChar (c : Char) : Bool :=
  c.isAlphanum || c == '-' || c == '_'

/-- The tag that leaves the type of a node to its form. -/
def openTag : String := "!"

/-- What the handle `!!` stands for. -/
def coreStart : String := "tag:yaml.org,2002:"

/-- A name, and what follows it. -/
def readName? (cs : List Char) : Option (String × List Char) :=
  let name := cs.takeWhile isNameChar
  if name.isEmpty then none else some (String.ofList name, cs.dropWhile isNameChar)

/-- The name of an anchor or an alias behind its indicator. -/
def readAnchor? (cs : List Char) : Option (String × List Char) := do
  let (name, rest) ← readName? cs
  let closed := match rest with
    | [] => true
    | c :: _ => isGap c || "?:,]\x7d%@\x60".toList.contains c
  if closed then some (name, rest) else none

/-- The characters of a tag that stand for themselves. -/
def isTagChar (c : Char) : Bool :=
  c.isAlphanum || "-;/?:@&=+$,_.!~*'()[]".toList.contains c

def fromBytes? (bytes : List Nat) : Option (List Char) :=
  (Text.Utf8.decode bytes).toOption

/-- The characters of a tag, with the bytes of the escapes just before them, and what follows. -/
def readTagChars? (bytes : List Nat) : List Char → Option (List Char × List Char)
  | '%' :: a :: b :: cs =>
    if isHexDigit a && isHexDigit b then
      readTagChars? (bytes ++ [natOfDigits 16 [a, b]]) cs
    else none
  | c :: cs => do
    let front ← fromBytes? bytes
    if c == '%' then none
    else if isTagChar c then
      (readTagChars? [] cs).map fun out => (front ++ c :: out.1, out.2)
    else some (front, c :: cs)
  | [] => (fromBytes? bytes).map fun front => (front, [])

/-- A part of a tag that has at least one character, and what follows it. -/
def readTagText? (cs : List Char) : Option (String × List Char) := do
  let (text, rest) ← readTagChars? [] cs
  if rest.length < cs.length then some (String.ofList text, rest) else none

/-- A handle: an exclamation mark, alone or with a name and a second one. -/
def readHandle? : List Char → Option (String × List Char)
  | '!' :: ' ' :: cs => some ("!", ' ' :: cs)
  | '!' :: cs =>
    match cs.dropWhile isNameChar with
    | '!' :: rest => some (String.ofList ('!' :: cs.takeWhile isNameChar ++ ['!']), rest)
    | _ => none
  | _ => none

/-- Whether a second exclamation mark comes before the next gap. -/
def hasSecondMark (cs : List Char) : Bool :=
  (cs.takeWhile fun c => !(c == ' ' || isLineEnd c)).contains '!'

/-- A tag from its exclamation mark on, and what follows it. -/
def readTag? (cs : List Char) : Option (TagName × List Char) := do
  let (tag, rest) ← match cs.drop 1 with
    -- Between angle brackets a tag is given in full.
    | '<' :: cs => do
      let (text, rest) ← readTagText? cs
      match rest with
      | '>' :: rest => some (.full text, rest)
      | _ => none
    | inner =>
      if startsWithGap inner then some (.full openTag, inner)
      else do
        let (handle, inner) ← if hasSecondMark inner then readHandle? cs else some ("!", inner)
        let (suffix, rest) ← readTagText? inner
        some (.short handle suffix, rest)
  if startsWithSpace rest then some (tag, rest) else none

/-- A whole number, and what follows it. -/
def readNumber? (cs : List Char) : Option (Nat × List Char) :=
  let digits := cs.takeWhile Char.isDigit
  if digits.isEmpty then none else some (natOfDigits 10 digits, cs.dropWhile Char.isDigit)

def skipSpaces (cs : List Char) : List Char :=
  cs.dropWhile (· == ' ')

/-- What a directive says behind its name, and what follows it. -/
def readDirectiveValue? (name : String) (cs : List Char) : Option (Directive × List Char) :=
  if name = "YAML" then do
    let (major, rest) ← readNumber? (skipSpaces cs)
    match rest with
    | '.' :: rest =>
      let (_, rest) ← readNumber? rest
      if startsWithSpace rest then some (.version major, rest) else none
    | _ => none
  else if name = "TAG" then do
    let (handle, rest) ← readHandle? (skipSpaces cs)
    match rest with
    | ' ' :: rest =>
      let (meaning, rest) ← readTagText? (skipSpaces rest)
      if startsWithSpace rest then some (.handle handle meaning, rest) else none
    | _ => none
  else some (.unknown, cs.dropWhile fun c => !isLineEnd c)

/-- A directive behind its percent sign, and what follows it on the line. -/
def readDirective? (cs : List Char) : Option (Directive × List Char) := do
  let (name, rest) ← readName? cs
  if startsWithSpace rest then
    let (directive, rest) ← readDirectiveValue? name rest
    let rest := skipSpaces rest
    let rest := if rest.head? = some '#' then rest.dropWhile fun c => !isLineEnd c else rest
    if (rest.head?.map isLineEnd).getD true then some (directive, rest) else none
  else none

end GatewayFlow.Yaml
