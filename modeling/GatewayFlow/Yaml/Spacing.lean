import GatewayFlow.Yaml.Style

/-!
# Spacing

The blanks and line ends between two words of a scalar that goes on over several lines. Blanks
within a line stand for themselves. A single line end becomes a space, and each further one stands
for itself; blanks beside line ends mean nothing.
-/
namespace GatewayFlow.Yaml

def isLineEnd (c : Char) : Bool :=
  c == '\r' || isBreak c

/-- Whether a space, a line end or the end follows. -/
def startsWithSpace (cs : List Char) : Bool :=
  (cs.head?.map fun c => c == ' ' || isLineEnd c).getD true

/-- What a line end is in the text of a scalar. -/
def lineEndText (c : Char) : Char :=
  if c == '\u2028' || c == '\u2029' then c else '\n'

/-- Whether a document marker stands at the front, followed by a gap. -/
def startsMarker (cs : List Char) : Bool :=
  (cs.take 3 == ['-', '-', '-'] || cs.take 3 == ['.', '.', '.']) && startsWithGap (cs.drop 3)

/-- What stands between two words. -/
inductive Spacing
  /-- Blanks within a line. -/
  | blanks (cs : List Char)
  /-- Line ends, the first unless it was escaped and the further ones, and the number of blanks
  after the last. -/
  | lines (first : Option Char) (more : List Char) (column : Nat)
deriving DecidableEq, Repr

namespace Spacing

def nothing : Spacing := .blanks []

/-- The spacing of an escaped line end, which joins two lines. -/
def joined : Spacing := .lines none [] 0

def isEmpty : Spacing → Bool
  | .blanks cs => cs.isEmpty
  | .lines .. => false

def addBlank (c : Char) : Spacing → Spacing
  | .blanks cs => .blanks (cs ++ [c])
  | .lines first more column => .lines first more (column + 1)

def addLineEnd (c : Char) : Spacing → Spacing
  | .blanks _ => .lines (some (lineEndText c)) [] 0
  | .lines first more _ => .lines first (more ++ [lineEndText c]) 0

/-- What spacing is in the text of a scalar. -/
def text : Spacing → List Char
  | .blanks cs => cs
  | .lines none more _ => more
  | .lines (some '\n') [] _ => [' ']
  | .lines (some '\n') more _ => more
  | .lines (some c) more _ => c :: more

/-- Whether the next character is the first of a line. -/
def startsLine : Spacing → Bool
  | .lines _ _ column => column == 0
  | .blanks _ => false

/-- Whether a new line has started with fewer blanks than `least`. -/
def isBelow (least : Nat) : Spacing → Bool
  | .lines _ _ column => column < least
  | .blanks _ => false

end Spacing
end GatewayFlow.Yaml
