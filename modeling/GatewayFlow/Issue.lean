import GatewayFlow.Kind

/-!
# Issues

What is wrong with raw data that should become a typed value: a cause and the path to the place.
A reading either gives the value or the full list of issues, in the order of the fields.
-/
namespace GatewayFlow

/-- Why a piece of raw data was not accepted. -/
inductive Cause
  | notText
  | emptyText
  | notInteger
  | unreadableInteger
  | oversizedInteger
  | fractionalInteger
  | notFinite
  | notBoolean
  | unreadableBoolean
  | notList
  | notMapping
  | notRecord (record : String)
  | notFields
  | missing
  | unexpected
  | notAReference
  | noTag
  | unknownTag (tag : String)
  | refused (reason : String)
deriving DecidableEq, Repr

/-- One step of a path: a field or key, or a position. -/
inductive Step
  | field (name : String)
  | item (position : Int)
deriving DecidableEq, Repr

structure Issue where
  cause : Cause
  path : List Step
deriving DecidableEq, Repr

namespace Cause

def label : Cause → String
  | .notText => "string_type"
  | .emptyText => "string_too_short"
  | .notInteger => "int_type"
  | .unreadableInteger => "int_parsing"
  | .oversizedInteger => "int_parsing_size"
  | .fractionalInteger => "int_from_float"
  | .notFinite => "finite_number"
  | .notBoolean => "bool_type"
  | .unreadableBoolean => "bool_parsing"
  | .notList => "list_type"
  | .notMapping => "dict_type"
  | .notRecord _ => "model_type"
  | .notFields => "model_attributes_type"
  | .missing => "missing"
  | .unexpected => "extra_forbidden"
  | .notAReference => "literal_error"
  | .noTag => "union_tag_not_found"
  | .unknownTag _ => "union_tag_invalid"
  | .refused _ => "value_error"

/-- The names of all kinds, each between quotes. -/
def kindNames : String :=
  ", ".intercalate (Kind.all.map fun kind => s!"'{kind.name}'")

def message : Cause → String
  | .notText => "Input should be a valid string"
  | .emptyText => "String should have at least 1 character"
  | .notInteger => "Input should be a valid integer"
  | .unreadableInteger => "Input should be a valid integer, unable to parse string as an integer"
  | .oversizedInteger => "Unable to parse input string as an integer, exceeded maximum size"
  | .fractionalInteger => "Input should be a valid integer, got a number with a fractional part"
  | .notFinite => "Input should be a finite number"
  | .notBoolean => "Input should be a valid boolean"
  | .unreadableBoolean => "Input should be a valid boolean, unable to interpret input"
  | .notList => "Input should be a valid list"
  | .notMapping => "Input should be a valid dictionary"
  | .notRecord record => s!"Input should be a valid dictionary or instance of {record}"
  | .notFields => "Input should be a valid dictionary or object to extract fields from"
  | .missing => "Field required"
  | .unexpected => "Extra inputs are not permitted"
  | .notAReference => "Input should be 'id' or 'name'"
  | .noTag => "Unable to extract tag using discriminator 'kind'"
  | .unknownTag tag =>
    s!"Input tag '{tag}' found using 'kind' does not match any of the expected tags: {kindNames}"
  | .refused reason => s!"Value error, {reason}"

end Cause

def Issue.within (step : Step) (issue : Issue) : Issue :=
  { issue with path := step :: issue.path }

/-- A typed value, or all issues that keep the raw data from being one. -/
inductive Reading (α : Type)
  | value (a : α)
  | issues (found : List Issue)
deriving Repr

namespace Reading

variable {α β : Type}

/-- A reading that fails for one cause on the spot. -/
def fail (cause : Cause) : Reading α :=
  .issues [⟨cause, []⟩]

def map (f : α → β) : Reading α → Reading β
  | .value a => .value (f a)
  | .issues found => .issues found

/-- A further reading on the value of a first. -/
def andThen : Reading α → (α → Reading β) → Reading β
  | .value a, f => f a
  | .issues found, _ => .issues found

/-- Both readings; the issues of the first come before those of the second. -/
def apply : Reading (α → β) → Reading α → Reading β
  | .value f, .value a => .value (f a)
  | .value _, .issues found => .issues found
  | .issues found, .value _ => .issues found
  | .issues found, .issues more => .issues (found ++ more)

instance : Applicative Reading where
  pure := .value
  seq f a := apply f (a ())

def within (step : Step) : Reading α → Reading α
  | .value a => .value a
  | .issues found => .issues (found.map (Issue.within step))

/-- All readings of a list, with the issues of each at its position. -/
def atPositions (read : β → Reading α) : Nat → List β → Reading (List α)
  | _, [] => .value []
  | i, b :: rest =>
    apply (((read b).within (.item i)).map List.cons) (atPositions read (i + 1) rest)

def toExcept : Reading α → Except (List Issue) α
  | .value a => .ok a
  | .issues found => .error found

end Reading
end GatewayFlow
