import GatewayFlow.Failure
import GatewayFlow.Number.Style

/-!
# Sources of ids

Where the ids of new nodes come from. A source may hand out an id that is in use; `drawFree` draws
until one is free, for a bounded number of draws. It is code that is given to an editor, so a draw
and a reset may also raise an exception, and the state may have moved on by then.
-/
namespace GatewayFlow

/-- A way of making ids, with a state `σ` that each draw moves on. -/
structure IdSource (σ : Type) where
  draw : Kind → σ → Except Raised String × σ
  /-- Starts the source again after everything was cleared; one that cannot be started again leaves
  its state as it is. -/
  reset : σ → Except Raised Unit × σ

/-- A number to count on from, and where the count began. -/
structure IdCounter where
  start : Int
  next : Int
deriving DecidableEq, Repr

namespace IdCounter

def startingAt (start : Int) : IdCounter :=
  ⟨start, start⟩

def initial : IdCounter :=
  startingAt 1

def idOf (kind : Kind) (n : Int) : String :=
  kind.name ++ "-" ++ String.ofList (intText n)

end IdCounter

namespace IdSource

/-- Ids of a kind and a number, counted over all kinds together. -/
def counter : IdSource IdCounter where
  draw kind c := (.ok (IdCounter.idOf kind c.next), { c with next := c.next + 1 })
  reset c := (.ok (), { c with next := c.start })

variable {σ : Type}

/-- The first of a number of draws that is not taken, and the state after it. A draw that raises
ends the search. -/
def drawFree (source : IdSource σ) (taken : List String) (kind : Kind) :
    Nat → σ → Except Raised (Option String) × σ
  | 0, s => (.ok none, s)
  | draws + 1, s =>
    match source.draw kind s with
    | (.error exception, s) => (.error exception, s)
    | (.ok id, s) =>
      if taken.contains id then source.drawFree taken kind draws s else (.ok (some id), s)

end IdSource
end GatewayFlow
