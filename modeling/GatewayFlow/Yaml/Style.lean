import GatewayFlow.Yaml.Plain

/-!
# The style of a scalar

A text is written plain when a reader would take it for the same text, between single quotes when
it only looks like something else, and between double quotes with escapes when it holds characters
or combinations of blanks and line breaks that the other styles cannot carry.
-/
namespace GatewayFlow.Yaml

inductive Style
  | plain
  | single
  | double
deriving DecidableEq, Repr

def isBreak (c : Char) : Bool :=
  c == '\n' || c == '\x85' || c == '\u2028' || c == '\u2029'

/-- The characters that separate an indicator from what is beside it. -/
def isGap (c : Char) : Bool :=
  c == '\x00' || c == ' ' || c == '\t' || c == '\r' || isBreak c

def isWideChar (c : Char) : Bool :=
  let n := c.toNat
  (n == 0x85 || (0xA0 ≤ n && n ≤ 0xD7FF) || (0xE000 ≤ n && n ≤ 0xFFFD) ||
    (0x10000 ≤ n && n < 0x10FFFF)) && n != 0xFEFF

def isSpecial (c : Char) : Bool :=
  !(c == '\n' || (' ' ≤ c && c ≤ '~') || isWideChar c)

/-- Whether what follows separates: a gap or the end. -/
def startsWithGap (cs : List Char) : Bool :=
  (cs.head?.map isGap).getD true

def hasInnerIndicator (before : Char) : List Char → Bool
  | [] => false
  | c :: cs =>
    (c == ':' && startsWithGap cs) || (c == '#' && isGap before) || hasInnerIndicator c cs

/-- Whether a text would be taken for an indicator, at its start or further on. -/
def hasIndicator : List Char → Bool
  | [] => false
  | c :: cs =>
    (c :: cs).take 3 == ['-', '-', '-'] || (c :: cs).take 3 == ['.', '.', '.'] ||
      "#,[]\x7b\x7d&*!|>'\"%@\x60".toList.contains c ||
      ((c == '?' || c == ':' || c == '-') && startsWithGap cs) || hasInnerIndicator c cs

def hasPair (p : Char → Char → Bool) (cs : List Char) : Bool :=
  (cs.zip (cs.drop 1)).any fun pair => p pair.1 pair.2

def isSpaceOrBreak (c : Char) : Bool := c == ' ' || isBreak c

/-- Single quotes can carry a text without special characters in which no blank touches a line
break. -/
def fitsSingle (cs : List Char) : Bool :=
  !cs.any isSpecial && !hasPair (fun c d => c == ' ' && isBreak d) cs
    && !hasPair (fun c d => isBreak c && d == ' ') cs

/-- A plain scalar can carry a text on one line that neither starts nor ends with a blank and holds
no indicator. -/
def fitsPlain (cs : List Char) : Bool :=
  !cs.any isSpecial && !cs.any isBreak && !(cs.head?.map isSpaceOrBreak).getD false
    && !(cs.getLast?.map isSpaceOrBreak).getD false && !hasIndicator cs

def styleOf (cs : List Char) : Style :=
  if isPlainText cs && fitsPlain cs then .plain
  else if fitsSingle cs then .single
  else .double

end GatewayFlow.Yaml
