/-!
# Double-precision numbers

A finite double is a sign and a rank: the non-negative doubles in order of size are numbered from
zero, so the rank of a successor is the next number and rounding up never needs a carry rule. The
value of rank `r` is `significand r * 2 ^ scale r` in units of the smallest positive double,
`2 ^ -1074`. `ofRatio` rounds a quotient of naturals to the nearest double, a half going to the even
neighbour.
-/
namespace GatewayFlow

/-- How many non-negative doubles share a power of two. -/
def Double.perScale : Nat := Nat.pow 2 52

def Double.rankCount : Nat := 2047 * Double.perScale

/-- A double: a finite one by sign and rank, one of two infinities, or the undefined one. -/
inductive Double
  | undefined
  | infinite (negative : Bool)
  | finite (negative : Bool) (rank : Fin Double.rankCount)
deriving DecidableEq, Repr

namespace Double

def significand (rank : Nat) : Nat :=
  if rank < perScale then rank else rank % perScale + perScale

/-- The power of two of a rank, in units of the smallest positive double. -/
def scale (rank : Nat) : Nat :=
  if rank < perScale then 0 else rank / perScale - 1

/-- The value of a rank in units of the smallest positive double. -/
def units (rank : Nat) : Nat :=
  significand rank * Nat.pow 2 (scale rank)

/-- The smallest positive double divides one this many times. -/
def unitsPerOne : Nat := Nat.pow 2 1074

def zero : Double := .finite false ⟨0, by decide⟩

/-- A quotient of naturals rounded to the nearest whole number, a half to the even one. -/
def roundHalfEven (num den : Nat) : Nat :=
  let whole := num / den
  let rest := num % den
  if 2 * rest < den then whole
  else if den < 2 * rest then whole + 1
  else if whole % 2 = 0 then whole else whole + 1

/-- The rank nearest to a quotient of naturals; it may lie beyond the finite ones. -/
def nearestRank (num den : Nat) : Nat :=
  let shift := Nat.log2 (num * unitsPerOne / den) - 52
  shift * perScale + roundHalfEven (num * unitsPerOne) (den * Nat.pow 2 shift)

/-- The double of a sign and a rank, infinite past the last finite one. -/
def ofRank (negative : Bool) (rank : Nat) : Double :=
  if h : rank < rankCount then .finite negative ⟨rank, h⟩ else .infinite negative

def ofRatio (negative : Bool) (num den : Nat) : Double :=
  ofRank negative (nearestRank num den)

/-- The double nearest to `digits * 10 ^ exponent`. Exponents far outside the range of doubles are
settled without computing the power. -/
def ofDecimal (negative : Bool) (digits : Nat) (exponent : Int) : Double :=
  if digits = 0 then .finite negative ⟨0, by decide⟩
  else
    let magnitude := (Nat.toDigits 10 digits).length + exponent
    if 320 < magnitude then .infinite negative
    else if magnitude < -340 then .finite negative ⟨0, by decide⟩
    else if exponent < 0 then ofRatio negative digits (Nat.pow 10 exponent.natAbs)
    else ofRatio negative (digits * Nat.pow 10 exponent.natAbs) 1

def ofInt (i : Int) : Double :=
  ofRatio (i < 0) i.natAbs 1

/-- Whether a double is one of the two zeros. -/
def isZero : Double → Bool
  | .finite _ rank => rank.val == 0
  | _ => false

/-- The whole number a finite double stands for, when it has no fraction. -/
def toInt? : Double → Option Int
  | .finite negative rank =>
    let n := units rank
    if n % unitsPerOne = 0 then
      some (if negative then -((n / unitsPerOne : Nat) : Int) else (n / unitsPerOne : Nat))
    else none
  | _ => none

/-- Equality of the numbers meant: the two zeros agree and the undefined double agrees with none. -/
def agrees : Double → Double → Bool
  | .undefined, _ => false
  | _, .undefined => false
  | x, y => x == y || (x.isZero && y.isZero)

/-- The double as a signed count of units, for finite doubles. -/
def signedUnits : Double → Int
  | .finite true rank => -(units rank : Int)
  | .finite false rank => units rank
  | _ => 0

/-- The sum of two finite doubles, rounded once; a sum with another double takes that double. -/
def add : Double → Double → Double
  | x@(.finite ..), y@(.finite ..) =>
    let total := x.signedUnits + y.signedUnits
    ofRatio (total < 0) total.natAbs unitsPerOne
  | .finite .., y => y
  | x, _ => x

/-- A double multiplied by a natural, rounded once. -/
def scaleBy (x : Double) (n : Nat) : Double :=
  match x with
  | .finite negative rank => ofRatio negative (units rank * n) unitsPerOne
  | other => other

def negate : Double → Double
  | .undefined => .undefined
  | .infinite negative => .infinite (!negative)
  | .finite negative rank => .finite (!negative) rank

end Double
end GatewayFlow
