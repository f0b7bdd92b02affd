import GatewayFlow.Number.Shortest
import GatewayFlow.Text.Blank

/-!
# Number text

How a double is written: the fewest digits that read back, positional from `1e-4` up to below
`1e16` with at least one decimal, otherwise with an exponent of at least two digits. A `NumberStyle`
holds what differs between formats.
-/
namespace GatewayFlow

/-- The spellings in which number formats differ. -/
structure NumberStyle where
  undefined : String
  infinite : String
  /-- Whether a lone digit before an exponent is followed by `.0`. -/
  pointed : Bool
deriving DecidableEq, Repr

namespace NumberStyle

/-- The style of a value shown in a message. -/
def plain : NumberStyle := ⟨"nan", "inf", false⟩

def json : NumberStyle := ⟨"NaN", "Infinity", false⟩

def yaml : NumberStyle := ⟨".nan", ".inf", true⟩

end NumberStyle

/-- The digits of a number, however many there are. A runtime that refuses to write very long
numbers is not described. -/
def natText (n : Nat) : List Char :=
  Nat.toDigits 10 n

def intText (i : Int) : List Char :=
  if i < 0 then '-' :: natText i.natAbs else natText i.natAbs

/-- Zeros before `digits` up to a width. -/
def padLeft (width : Nat) (digits : List Char) : List Char :=
  List.replicate (width - digits.length) '0' ++ digits

/-- The exponent mark, the sign and at least two digits. -/
def exponentText (e : Int) : List Char :=
  'e' :: (if e < 0 then '-' else '+') :: padLeft 2 (natText e.natAbs)

/-- Digits with the point after the first `point` of them, or with an exponent when that is out of
the positional range. -/
def pointedText (style : NumberStyle) (digits : List Char) (point : Int) : List Char :=
  if 0 < point ∧ point ≤ 16 then
    let whole := digits.take point.toNat
    let decimals := digits.drop point.toNat
    whole ++ List.replicate (point.toNat - whole.length) '0' ++ '.' ::
      (if decimals.isEmpty then ['0'] else decimals)
  else if -4 < point ∧ point ≤ 0 then
    '0' :: '.' :: (List.replicate point.natAbs '0' ++ digits)
  else
    let decimals := digits.drop 1
    let mark := if !decimals.isEmpty then '.' :: decimals
      else if style.pointed then ['.', '0'] else []
    digits.take 1 ++ mark ++ exponentText (point - 1)

def rankText (style : NumberStyle) (rank : Nat) : List Char :=
  if rank = 0 then ['0', '.', '0']
  else
    let d := Decimal.shortest rank
    pointedText style (Text.dropEndWhile (· == '0') d.digitChars) (d.size + d.exponent)

def Double.text (style : NumberStyle) : Double → List Char
  | .undefined => style.undefined.toList
  | .infinite negative => (if negative then ['-'] else []) ++ style.infinite.toList
  | .finite negative rank => (if negative then ['-'] else []) ++ rankText style rank

end GatewayFlow
