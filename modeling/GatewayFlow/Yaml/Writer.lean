import GatewayFlow.Yaml.Style

/-!
# YAML text

Block form throughout: two blanks of indentation per level, list items indented below their key, no
line wrapping. Only an empty list or mapping is written in flow form. A key that is empty, long or
broken over lines stands behind `?`, its value behind `:` on a line of its own.
-/
namespace GatewayFlow.Yaml

def newline (indent : Nat) : List Char :=
  '\n' :: List.replicate indent ' '

/-- The characters between single quotes: a quote is written twice. A run of line breaks is kept,
with one more line end when it starts with one, and the next line is indented. -/
def singleQuotedChars (indent : Nat) (inBreaks : Bool) : List Char → List Char
  | [] => if inBreaks then List.replicate indent ' ' else []
  | c :: cs =>
    if isBreak c then
      (if !inBreaks && c == '\n' then ['\n', '\n'] else [c]) ++ singleQuotedChars indent true cs
    else
      (if inBreaks then List.replicate indent ' ' else []) ++
        (if c = '\'' then ['\'', '\''] else [c]) ++ singleQuotedChars indent false cs

def shortEscape? (c : Char) : Option Char :=
  match c.toNat with
  | 0x00 => some '0'
  | 0x07 => some 'a'
  | 0x08 => some 'b'
  | 0x09 => some 't'
  | 0x0A => some 'n'
  | 0x0B => some 'v'
  | 0x0C => some 'f'
  | 0x0D => some 'r'
  | 0x1B => some 'e'
  | 0x22 => some '"'
  | 0x5C => some '\\'
  | 0x85 => some 'N'
  | 0xA0 => some '_'
  | 0x2028 => some 'L'
  | 0x2029 => some 'P'
  | _ => none

/-- Whether a character stands for itself between double quotes. -/
def isVerbatim (c : Char) : Bool :=
  let n := c.toNat
  c != '"' && c != '\\' && !isBreak c && n != 0xFEFF &&
    ((' ' ≤ c && c ≤ '~') || (0xA0 ≤ n && n ≤ 0xD7FF) || (0xE000 ≤ n && n ≤ 0xFFFD))

/-- The upper-case hexadecimal digits of a number, filled with zeros up to a width. -/
def hexCapitals (width n : Nat) : List Char :=
  (Text.hexPadded width n).map Char.toUpper

def doubleQuotedChar (c : Char) : List Char :=
  if isVerbatim c then [c]
  else
    match shortEscape? c with
    | some letter => ['\\', letter]
    | none =>
      let n := c.toNat
      if n ≤ 0xFF then '\\' :: 'x' :: hexCapitals 2 n
      else if n ≤ 0xFFFF then '\\' :: 'u' :: hexCapitals 4 n
      else '\\' :: 'U' :: hexCapitals 8 n

/-- A text in its style; `indent` is where a further line of it starts. -/
def textChars (indent : Nat) (cs : List Char) : List Char :=
  match styleOf cs with
  | .plain => cs
  | .single => '\'' :: singleQuotedChars indent false cs ++ ['\'']
  | .double => '"' :: cs.flatMap doubleQuotedChar ++ ['"']

def scalarChars (indent : Nat) : Scalar → List Char
  | .null => "null".toList
  | .bool true => "true".toList
  | .bool false => "false".toList
  | .int i => intText i
  | .float x => x.text .yaml
  | .text s => textChars indent s.toList
  | .date d => d.isoText
  | .instant t => t.isoText

/-- The longest text that may be a key in front of its colon. -/
def simpleKeyLimit : Nat := 122

/-- Whether a key stands in front of its colon on one line. -/
def isSimpleKey (k : Scalar) : Bool :=
  let cs := k.keyText.toList
  !cs.isEmpty && cs.length ≤ simpleKeyLimit && !cs.any isBreak

/-- A key at column `indent` with its indicators, up to the colon. -/
def keyChars (indent : Nat) (k : Scalar) : List Char :=
  if isSimpleKey k then scalarChars (indent + 2) k ++ [':']
  else '?' :: ' ' :: scalarChars (indent + 2) k ++ newline indent ++ [':']

mutual

/-- What follows an indicator at column `indent`. After `-`, `?` or `:` on a line of its own a
block starts on the same line (`compact`), after a key on the next one. -/
def nodeChars (indent : Nat) (compact : Bool) : Value → List Char
  | .scalar s => ' ' :: scalarChars (indent + 2) s
  | .list [] => [' ', '[', ']']
  | .list (v :: rest) =>
    (if compact then [' '] else newline (indent + 2)) ++
      '-' :: nodeChars (indent + 2) true v ++ itemsChars (indent + 2) rest
  | .mapping [] => [' ', '\x7b', '\x7d']
  | .mapping ((k, v) :: rest) =>
    (if compact then [' '] else newline (indent + 2)) ++ keyChars (indent + 2) k ++
      nodeChars (indent + 2) (!isSimpleKey k) v ++ entriesChars (indent + 2) rest

/-- The further items of a list, each on a line of its own. -/
def itemsChars (indent : Nat) : List Value → List Char
  | [] => []
  | v :: rest => newline indent ++ '-' :: nodeChars indent true v ++ itemsChars indent rest

/-- The further entries of a mapping, each on a line of its own. -/
def entriesChars (indent : Nat) : List (Scalar × Value) → List Char
  | [] => []
  | (k, v) :: rest =>
    newline indent ++ keyChars indent k ++ nodeChars indent (!isSimpleKey k) v ++
      entriesChars indent rest

end

/-- The characters of a whole document, without its final line end. -/
def documentChars : Value → List Char
  | .scalar s => scalarChars 2 s
  | .list [] => ['[', ']']
  | .list (v :: rest) => '-' :: nodeChars 0 true v ++ itemsChars 0 rest
  | .mapping [] => ['\x7b', '\x7d']
  | .mapping ((k, v) :: rest) =>
    keyChars 0 k ++ nodeChars 0 (!isSimpleKey k) v ++ entriesChars 0 rest

/-- The YAML text of a value, ended by one newline. -/
def render (v : Value) : String :=
  String.ofList (documentChars v ++ ['\n'])

end GatewayFlow.Yaml
