import GatewayFlow.Value
import GatewayFlow.Number.Reading

/-!
# Reading JSON

A reader over the characters that remain, which reports the first fault by its cause and its place.
Beside the standard forms it reads `NaN`, `Infinity` and `-Infinity`. A number with a point or an
exponent is a double, any other a whole number of any size. Of a repeated key the first place and
the last value count.
-/
namespace GatewayFlow.Json

/-- What is wrong with a text. -/
inductive Fault
  | value
  | name
  | colon
  | comma
  | extra
  | escape
  | unicodeEscape
  | control
  | unterminated
  | byteOrderMark
deriving DecidableEq, Repr

/-- A fault together with the characters from its place on. -/
structure Stop where
  fault : Fault
  rest : List Char
deriving DecidableEq, Repr

def isLayout (c : Char) : Bool :=
  c == ' ' || c == '\t' || c == '\n' || c == '\r'

def skipLayout (cs : List Char) : List Char :=
  cs.dropWhile isLayout

def simpleEscape? : Char → Option Char
  | '"' => some '"'
  | '\\' => some '\\'
  | '/' => some '/'
  | 'b' => some '\x08'
  | 'f' => some '\x0c'
  | 'n' => some '\n'
  | 'r' => some '\r'
  | 't' => some '\t'
  | _ => none

def isHighSurrogate (n : Nat) : Bool :=
  0xD800 ≤ n && n ≤ 0xDBFF

def isLowSurrogate (n : Nat) : Bool :=
  0xDC00 ≤ n && n ≤ 0xDFFF

/-- The character of a code unit; half of a pair alone has none and becomes the replacement. -/
def charOfUnit (n : Nat) : Char :=
  if isHighSurrogate n || isLowSurrogate n then '\ufffd' else Char.ofNat n

def charOfPair (high low : Nat) : Char :=
  Char.ofNat (0x10000 + (high - 0xD800) * 0x400 + (low - 0xDC00))

/-- The characters of a string up to its closing quote, and what follows. `start` is the text from
the opening quote on. -/
def readString (start : List Char) : List Char → Except Stop (List Char × List Char)
  | [] => .error ⟨.unterminated, start⟩
  | '"' :: rest => .ok ([], rest)
  | '\\' :: 'u' :: a :: b :: c :: d :: e :: rest =>
    if [a, b, c, d].all isHexDigit then
      let unit := natOfDigits 16 [a, b, c, d]
      -- Two units that are the halves of a pair make one character; a half alone stands for itself.
      match e, rest with
      | '\\', 'u' :: a' :: b' :: c' :: d' :: f :: rest' =>
        if isHighSurrogate unit then
          if [a', b', c', d'].all isHexDigit then
            let next := natOfDigits 16 [a', b', c', d']
            if isLowSurrogate next then
              (readString start (f :: rest')).map fun out => (charOfPair unit next :: out.1, out.2)
            else
              (readString start ('\\' :: 'u' :: a' :: b' :: c' :: d' :: f :: rest')).map
                fun out => (charOfUnit unit :: out.1, out.2)
          else .error ⟨.unicodeEscape, 'u' :: a' :: b' :: c' :: d' :: f :: rest'⟩
        else
          (readString start ('\\' :: 'u' :: a' :: b' :: c' :: d' :: f :: rest')).map
            fun out => (charOfUnit unit :: out.1, out.2)
      | e, rest => (readString start (e :: rest)).map fun out => (charOfUnit unit :: out.1, out.2)
    else .error ⟨.unicodeEscape, 'u' :: a :: b :: c :: d :: e :: rest⟩
  | '\\' :: 'u' :: rest => .error ⟨.unicodeEscape, 'u' :: rest⟩
  | ['\\'] => .error ⟨.unterminated, start⟩
  | '\\' :: c :: rest =>
    match simpleEscape? c with
    | some decoded => (readString start rest).map fun out => (decoded :: out.1, out.2)
    | none => .error ⟨.escape, '\\' :: c :: rest⟩
  | c :: rest =>
    if c.toNat < 0x20 then .error ⟨.control, c :: rest⟩
    else (readString start rest).map fun out => (c :: out.1, out.2)
termination_by cs => cs.length

def spanDigits (cs : List Char) : List Char × List Char :=
  (cs.takeWhile Char.isDigit, cs.dropWhile Char.isDigit)

/-- The digits after a point, when there are any. -/
def readDecimals : List Char → Option (List Char × List Char)
  | '.' :: cs => if (spanDigits cs).1.isEmpty then none else some (spanDigits cs)
  | _ => none

/-- The exponent after its mark, when it has digits. -/
def readExponent : List Char → Option (Int × List Char)
  | c :: cs =>
    if c = 'e' ∨ c = 'E' then
      let negative := cs.head? == some '-'
      let digits := spanDigits (if negative || cs.head? == some '+' then cs.drop 1 else cs)
      if digits.1.isEmpty then none
      else
        let n : Int := natOfDigits 10 digits.1
        some (if negative then -n else n, digits.2)
    else none
  | [] => none

/-- The digits before the point: a zero alone or a run that does not start with one. -/
def readWhole : List Char → Option (List Char × List Char)
  | '0' :: cs => some (['0'], cs)
  | cs => if (spanDigits cs).1.isEmpty then none else some (spanDigits cs)

def readUnsigned (negative : Bool) (cs : List Char) : Option (Scalar × List Char) :=
  (readWhole cs).map fun (whole, afterWhole) =>
    let decimals := readDecimals afterWhole
    let afterDecimals := (decimals.map (·.2)).getD afterWhole
    let exponent := readExponent afterDecimals
    let rest := (exponent.map (·.2)).getD afterDecimals
    -- A point or an exponent makes a double of it, whatever its value.
    if decimals.isSome || exponent.isSome then
      let x := Double.ofParts negative whole ((decimals.map (·.1)).getD [])
        ((exponent.map (·.1)).getD 0)
      (.float x, rest)
    else
      let n : Int := natOfDigits 10 whole
      (.int (if negative then -n else n), rest)

/-- What follows a word, when the text starts with it. -/
def afterWord? : List Char → List Char → Option (List Char)
  | [], cs => some cs
  | w :: ws, c :: cs => if w = c then afterWord? ws cs else none
  | _ :: _, [] => none

def wordScalars : List (String × Scalar) := [
  ("null", .null), ("true", .bool true), ("false", .bool false), ("NaN", .float .undefined),
  ("Infinity", .float (.infinite false)), ("-Infinity", .float (.infinite true))]

def readWord (cs : List Char) : Option (Scalar × List Char) :=
  wordScalars.findSome? fun (word, s) => (afterWord? word.toList cs).map fun rest => (s, rest)

/-- A value that is neither text, list nor mapping. -/
def readAtom (cs : List Char) : Option (Scalar × List Char) :=
  match readWord cs with
  | some out => some out
  | none =>
    match cs with
    | '-' :: rest => readUnsigned true rest
    | _ => readUnsigned false cs

mutual

/-- One value and what follows it; `fuel` bounds the number of parts still to come. -/
def readValue : Nat → List Char → Except Stop (Value × List Char)
  | 0, cs => .error ⟨.value, cs⟩
  | fuel + 1, cs =>
    match cs with
    | '"' :: rest => (readString cs rest).map fun out => (.text (String.ofList out.1), out.2)
    | '\x7b' :: rest =>
      match skipLayout rest with
      | '\x7d' :: rest => .ok (.mapping [], rest)
      | rest => (readEntries fuel [] rest).map fun out => (.mapping out.1, out.2)
    | '[' :: rest =>
      match skipLayout rest with
      | ']' :: rest => .ok (.list [], rest)
      | rest => (readItems fuel rest).map fun out => (.list out.1, out.2)
    | _ =>
      match readAtom cs with
      | some (s, rest) => .ok (.scalar s, rest)
      | none => .error ⟨.value, cs⟩

/-- The items of a list up to its closing bracket. -/
def readItems : Nat → List Char → Except Stop (List Value × List Char)
  | 0, cs => .error ⟨.value, cs⟩
  | fuel + 1, cs => do
    let (v, rest) ← readValue fuel cs
    match skipLayout rest with
    | ']' :: rest => pure ([v], rest)
    | ',' :: rest =>
      let (vs, rest) ← readItems fuel (skipLayout rest)
      pure (v :: vs, rest)
    | rest => .error ⟨.comma, rest⟩

/-- The entries of a mapping up to its closing brace, added to those before. -/
def readEntries : Nat → Entries → List Char → Except Stop (Entries × List Char)
  | 0, _, cs => .error ⟨.name, cs⟩
  | fuel + 1, done, cs =>
    match cs with
    | '"' :: rest => do
      let (key, rest) ← readString cs rest
      match skipLayout rest with
      | ':' :: rest =>
        let (v, rest) ← readValue fuel (skipLayout rest)
        let done := Entries.put (.text (String.ofList key)) v done
        match skipLayout rest with
        | '\x7d' :: rest => pure (done, rest)
        | ',' :: rest => readEntries fuel done (skipLayout rest)
        | rest => .error ⟨.comma, rest⟩
      | rest => .error ⟨.colon, rest⟩
    | _ => .error ⟨.name, cs⟩

end

def readChars (cs : List Char) : Except Stop Value :=
  if cs.head? = some '\ufeff' then .error ⟨.byteOrderMark, cs⟩
  else do
    let (v, rest) ← readValue (2 * cs.length + 1) (skipLayout cs)
    match skipLayout rest with
    | [] => pure v
    | rest => .error ⟨.extra, rest⟩

def Fault.message : Fault → String
  | .value => "Expecting value"
  | .name => "Expecting property name enclosed in double quotes"
  | .colon => "Expecting ':' delimiter"
  | .comma => "Expecting ',' delimiter"
  | .extra => "Extra data"
  | .escape => "Invalid \\escape"
  | .unicodeEscape => "Invalid \\uXXXX escape"
  | .control => "Invalid control character at"
  | .unterminated => "Unterminated string starting at"
  | .byteOrderMark => "Unexpected UTF-8 BOM (decode using utf-8-sig)"

/-- A fault with its line, its column and the number of characters before it. -/
structure Error where
  fault : Fault
  line : Nat
  column : Nat
  position : Nat
deriving DecidableEq, Repr

def Error.message (e : Error) : String :=
  s!"{e.fault.message}: line {e.line} column {e.column} (char {e.position})"

/-- Locates a stop in the text it was found in. -/
def Stop.locate (s : Stop) (cs : List Char) : Error :=
  let before := cs.take (cs.length - s.rest.length)
  { fault := s.fault
    line := before.count '\n' + 1
    column := (before.reverse.takeWhile (· != '\n')).length + 1
    position := before.length }

def read (text : String) : Except Error Value :=
  (readChars text.toList).mapError (·.locate text.toList)

end GatewayFlow.Json
