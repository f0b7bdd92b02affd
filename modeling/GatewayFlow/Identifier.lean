import GatewayFlow.Value

/-!
# Identifiers

Names that other entries refer to. They are refused rather than changed, because a changed name
would silently break every reference to it.
-/
namespace GatewayFlow.Identifier

/-- Why a value is no identifier. -/
inductive Problem
  | empty
  | characters
  | hyphen
  | length (limit : Int)
deriving DecidableEq, Repr

def Problem.message : Problem → String
  | .empty => "must be a non-empty string"
  | .characters =>
    "contains invalid characters. Only alphanumeric, hyphens, underscores, and dots allowed."
  | .hyphen => "must not start with a hyphen"
  | .length limit => s!"is too long (max {limit} characters)"

/-- The letters, digits and marks of identifiers. -/
def isMember (c : Char) : Bool :=
  c.isAlphanum || c == '.' || c == '_' || c == '-'

/-- The number of characters that names may have unless settings say otherwise. -/
def defaultLimit : Int := 255

/-- What is wrong with a text as an identifier. -/
def textProblem? (limit : Int) (s : String) : Option Problem :=
  let cs := s.toList
  if cs.isEmpty then some .empty
  else if !cs.all isMember then some .characters
  else if cs.head? = some '-' then some .hyphen
  else if limit < cs.length then some (.length limit)
  else none

/-- What is wrong with a value as an identifier. -/
def problem? (limit : Int) : Value → Option Problem
  | .text s => textProblem? limit s
  | _ => some .empty

end GatewayFlow.Identifier
