import GatewayFlow.Number.Double

/-!
# The shortest decimal of a double

`shortest` tries the decimals of one digit, then of two, up to seventeen, and keeps the first that
reads back as the double. On each grid only the two neighbours of the exact value are tried, the
nearer one first. The exact decimal closes the search, so the answer always reads back.
-/
namespace GatewayFlow

/-- A natural number times a power of ten. -/
structure Decimal where
  digits : Nat
  exponent : Int
deriving DecidableEq, Repr

namespace Decimal

/-- The digits in base ten, without leading zeros. -/
def digitChars (d : Decimal) : List Char :=
  Nat.toDigits 10 d.digits

def size (d : Decimal) : Nat :=
  d.digitChars.length

def ofRank (rank : Nat) : Decimal :=
  let s := Double.significand rank
  let k := Double.scale rank
  if 1074 ≤ k then ⟨s * Nat.pow 2 (k - 1074), 0⟩
  else ⟨s * Nat.pow 5 (1074 - k), -((1074 - k : Nat) : Int)⟩

/-- The neighbours of a decimal among those of `n` digits, the nearer one first, of two equally near
ones the even one. A decimal that has no more digits is its own neighbour. -/
def neighbours (d : Decimal) (n : Nat) : List Decimal :=
  let cut := d.size - n
  if cut = 0 then [d]
  else
    let unit := Nat.pow 10 cut
    let below : Decimal := ⟨d.digits / unit, d.exponent + cut⟩
    let above : Decimal := ⟨d.digits / unit + 1, d.exponent + cut⟩
    let rest := 2 * (d.digits % unit)
    if rest < unit ∨ (rest = unit ∧ below.digits % 2 = 0) then [below, above] else [above, below]

/-- Whether the decimal is read as the double of that rank. -/
def readsAs (rank : Nat) (d : Decimal) : Bool :=
  Double.ofDecimal false d.digits d.exponent == Double.ofRank false rank

/-- The decimal of fewest digits that is read as the double of that rank. -/
def shortest (rank : Nat) : Decimal :=
  let exact := ofRank rank
  let candidates := (List.range' 1 17).flatMap exact.neighbours
  (candidates.find? (readsAs rank)).getD exact

end Decimal
end GatewayFlow
