import GatewayFlow.Yaml.Spacing

/-!
# Plain scalars

The text of a scalar without quotes. It ends before a gap that follows a colon, before a comment,
before a line that is indented too little, before a document marker, and inside brackets before
whatever may end an item.
-/
namespace GatewayFlow.Yaml

def isFlowIndicator (c : Char) : Bool :=
  c == ',' || c == '[' || c == ']' || c == '\x7b' || c == '\x7d'

/-- Whether a plain scalar may start with a character. -/
def startsPlain (inFlow : Bool) (c : Char) (cs : List Char) : Bool :=
  (!isGap c && !"-?:,[]\x7b\x7d#&*!|>'\"%@\x60".toList.contains c) ||
    (!startsWithGap cs && (c == '-' || (!inFlow && (c == '?' || c == ':'))))

def endsPlain (inFlow : Bool) (c : Char) (cs : List Char) : Bool :=
  isGap c ||
    (c == ':' && (startsWithGap cs || (inFlow && (cs.head?.map isFlowIndicator).getD false))) ||
    (inFlow && (c == '?' || isFlowIndicator c))

/-- A plain scalar and what follows it. Further lines need `least` blanks at their start outside
brackets; `back` is what follows the last word so far. -/
def readPlainText (inFlow : Bool) (least : Nat) (spacing : Spacing) (back : List Char) :
    List Char → List Char × List Char
  | [] => ([], back)
  | '\r' :: '\n' :: cs => readPlainText inFlow least (spacing.addLineEnd '\n') back cs
  | c :: cs =>
    if c == ' ' then readPlainText inFlow least (spacing.addBlank c) back cs
    else if isLineEnd c then readPlainText inFlow least (spacing.addLineEnd c) back cs
    else if endsPlain inFlow c cs then ([], back)
    -- Here the scalar ends with its last word, and the spacing in front is no part of it.
    else if (c == '#' && !spacing.isEmpty) || (spacing.startsLine && startsMarker (c :: cs)) ||
        (!inFlow && spacing.isBelow least) then ([], back)
    else
      let out := readPlainText inFlow least .nothing cs cs
      (spacing.text ++ c :: out.1, out.2)

end GatewayFlow.Yaml
