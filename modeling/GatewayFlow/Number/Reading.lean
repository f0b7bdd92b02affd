import GatewayFlow.Number.Double

/-!
# Reading numbers

Digits as whole numbers and decimals as doubles.
-/
namespace GatewayFlow

/-- The value of a digit or letter in bases up to sixteen. -/
def digitValue (c : Char) : Nat :=
  if c.isDigit then c.toNat - '0'.toNat
  else if 'a' ≤ c ∧ c ≤ 'f' then c.toNat - 'a'.toNat + 10
  else if 'A' ≤ c ∧ c ≤ 'F' then c.toNat - 'A'.toNat + 10
  else 0

def isHexDigit (c : Char) : Bool :=
  c.isDigit || ('a' ≤ c && c ≤ 'f') || ('A' ≤ c && c ≤ 'F')

def natOfDigits (base : Nat) (digits : List Char) : Nat :=
  digits.foldl (fun n c => base * n + digitValue c) 0

/-- The double nearest to a decimal, given by its sign, the digits on both sides of the point and
its exponent. -/
def Double.ofParts (negative : Bool) (whole decimals : List Char) (exponent : Int) : Double :=
  .ofDecimal negative (natOfDigits 10 (whole ++ decimals)) (exponent - decimals.length)

end GatewayFlow
