import GatewayFlow.Number.Reading
import GatewayFlow.Yaml.Spacing

/-!
# Block scalars

The text of a scalar that is set off by its indentation. A literal one keeps its line ends; a folded
one joins neighbouring lines by spaces unless one of them starts with a blank. The header says how
the line ends at the end of the scalar are treated and may give the indentation.
-/
namespace GatewayFlow.Yaml

/-- What becomes of the line ends at the end of a block scalar. -/
inductive Chomping
  | clip
  | strip
  | keep
deriving DecidableEq, Repr

/-- What stands behind the indicator of a block scalar. -/
structure BlockHeader where
  chomping : Chomping
  /-- The indentation of the scalar, counted from that of the block around it. -/
  indent : Option Nat
deriving DecidableEq, Repr

def chomping? : Char → Option Chomping
  | '-' => some .strip
  | '+' => some .keep
  | _ => none

/-- The sign and the digit of a header in either order, and what follows them. -/
def readIndicators : List Char → BlockHeader × List Char
  | c :: d :: cs =>
    match chomping? c, chomping? d with
    | some chomping, _ =>
      if d.isDigit then (⟨chomping, some (digitValue d)⟩, cs) else (⟨chomping, none⟩, d :: cs)
    | none, some chomping =>
      if c.isDigit then (⟨chomping, some (digitValue c)⟩, cs) else (⟨.clip, none⟩, c :: d :: cs)
    | none, none =>
      if c.isDigit then (⟨.clip, some (digitValue c)⟩, d :: cs)
      else (⟨.clip, none⟩, c :: d :: cs)
  | [c] =>
    match chomping? c with
    | some chomping => (⟨chomping, none⟩, [])
    | none => if c.isDigit then (⟨.clip, some (digitValue c)⟩, []) else (⟨.clip, none⟩, [c])
  | [] => (⟨.clip, none⟩, [])

def afterLineEnd : List Char → List Char
  | '\r' :: '\n' :: cs => cs
  | _ :: cs => cs
  | [] => []

/-- What follows the rest of a line that may hold blanks and a comment only. -/
def afterBlankLine? (cs : List Char) : Option (List Char) :=
  match cs.dropWhile (· == ' ') with
  | [] => some []
  | c :: cs =>
    if c == '#' then some (afterLineEnd (cs.dropWhile fun d => !isLineEnd d))
    else if isLineEnd c then some (afterLineEnd (c :: cs))
    else none

/-- The header of a block scalar, and the text from the next line on. -/
def readHeader? (cs : List Char) : Option (BlockHeader × List Char) :=
  let (header, rest) := readIndicators cs
  if header.indent = some 0 then none
  else if startsWithSpace rest then (afterBlankLine? rest).map fun rest => (header, rest)
  else none

/-- The greatest number of blanks at the start of a line, among the empty lines at the front and the
line after them. -/
def leadingWidth (column widest : Nat) : List Char → Nat
  | c :: cs =>
    if c == ' ' then leadingWidth (column + 1) (max widest (column + 1)) cs
    else if isLineEnd c then leadingWidth 0 widest cs
    else widest
  | [] => widest

/-- The lines of a block scalar: their text, the line ends after the last of them, and what
follows. -/
structure BlockLines where
  text : List Char
  /-- How the last line ended. -/
  lastEnd : List Char
  /-- The empty lines after the last line. -/
  ends : List Char
  rest : List Char
deriving DecidableEq, Repr

namespace BlockLines

def after (front : List Char) (lines : BlockLines) : BlockLines :=
  { lines with text := front ++ lines.text }

def chomped (chomping : Chomping) (lines : BlockLines) : List Char :=
  match chomping with
  | .strip => lines.text
  | .clip => lines.text ++ lines.lastEnd
  | .keep => lines.text ++ lines.lastEnd ++ lines.ends

end BlockLines

/-- What stands between two lines: how the first ended, whether it started with something other than
a blank, the empty lines between, and the first character of the second. -/
def lineJoint (folded : Bool) (lineEnd : List Char) (solid : Bool) (ends : List Char) (c : Char) :
    List Char :=
  if folded && lineEnd == ['\n'] && solid && !isTabOrSpace c then
    (if ends.isEmpty then [' '] else ends)
  else lineEnd ++ ends

mutual

def readLine (folded : Bool) (indent : Nat) (solid : Bool) : List Char → BlockLines
  | [] => ⟨[], [], [], []⟩
  | '\r' :: '\n' :: cs => readLines folded indent solid ['\n'] 0 [] cs
  | c :: cs =>
    if isLineEnd c then readLines folded indent solid [lineEndText c] 0 [] cs
    else (readLine folded indent solid cs).after [c]

/-- Reads on at the start of a line, behind `column` blanks; `lineEnd` and `solid` are of the line
before, and `ends` are the empty lines since. -/
def readLines (folded : Bool) (indent : Nat) (solid : Bool) (lineEnd : List Char) (column : Nat)
    (ends : List Char) : List Char → BlockLines
  | [] => ⟨[], lineEnd, ends, []⟩
  | '\r' :: '\n' :: cs => readLines folded indent solid lineEnd 0 (ends ++ ['\n']) cs
  | c :: cs =>
    if c == ' ' && column < indent then
      readLines folded indent solid lineEnd (column + 1) ends cs
    else if isLineEnd c then readLines folded indent solid lineEnd 0 (ends ++ [lineEndText c]) cs
    else if column = indent then
      (readLine folded indent (!isTabOrSpace c) cs).after
        (lineJoint folded lineEnd solid ends c ++ [c])
    else ⟨[], lineEnd, ends, c :: cs⟩

end

/-- A block scalar behind its indicator, and what follows it; `least` is the least indentation. -/
def readBlockText? (folded : Bool) (least : Nat) (cs : List Char) :
    Option (List Char × List Char) :=
  (readHeader? cs).map fun (header, rest) =>
    let indent := match header.indent with
      | some n => least + n - 1
      | none => max least (leadingWidth 0 0 rest)
    let lines := readLines folded indent false [] 0 [] rest
    (lines.chomped header.chomping, lines.rest)

end GatewayFlow.Yaml
