import GatewayFlow.Identifier
import GatewayFlow.Json.Reader
import GatewayFlow.Libraries
import GatewayFlow.Text.Utf8

/-!
# Failures

Why an operation gives no result, with the message for each cause. Behind some messages stands the
report that a library gives of what it refused.
-/
namespace GatewayFlow

/-- Why a saved flow does not load. -/
inductive LoadFailure
  | flowNotMapping
  | nodeNotMapping (position : Int)
  | nodeWithoutId (position : Int)
  | attributesNotMapping (node : String)
  | unknownKind (kind : Value) (node : String)
  | node (id : String) (issues : List Issue)
  | edgeNotMapping (position : Int)
  | edge (position : Int) (issues : List Issue)
  | flow (issues : List Issue)
  | unreadable (path reason : String)
  | malformedJson (file : String) (error : Json.Error)
  | malformedYaml (file text : String)
deriving Repr

/-- An exception of code that is given to the program, with the name of its type and its text. -/
structure Raised where
  type : String
  message : String
deriving DecidableEq, Repr

inductive Failure
  | unknownKind (kind : Value)
  | unknownFormat (format : Value)
  | unknownLevel (level : String)
  | issues (found : List Issue)
  | load (cause : LoadFailure)
  | invalidFlow (errors : List String)
  | identifier (label : String) (value : Value) (problem : Identifier.Problem)
  | unknownNode (id : Value)
  | idsExhausted (kind : Kind) (attempts : Nat)
  | notIterable (type : String)
  | unsortableKeys (left right : String)
  | unjoinableKey (position : Nat) (type : String)
  | encoding (error : Text.EncodingError)
  | noDay (error : CalendarError)
  | noDigits (base : Nat)
  | fileSystem (number : Nat) (reason path : String)
  | raised (exception : Raised)
deriving Repr

namespace LoadFailure

/-- What the message says before any report. -/
def opening : LoadFailure → String
  | .flowNotMapping => "flow document is not a mapping"
  | .nodeNotMapping position => s!"node #{position} is not a mapping"
  | .nodeWithoutId position => s!"node #{position} has no id"
  | .attributesNotMapping id => s!"node {Text.quoted id} attributes are not a mapping"
  | .unknownKind kind id => s!"unknown node kind {kind.quoted} on node {Text.quoted id}"
  | .node id _ => s!"node {Text.quoted id}: "
  | .edgeNotMapping position => s!"edge #{position} is not a mapping"
  | .edge position _ => s!"edge #{position}: "
  | .flow _ => ""
  | .unreadable path reason => s!"cannot read {path}: {reason}"
  | .malformedJson file error => s!"{file} is not well-formed: {error.message}"
  | .malformedYaml file _ => s!"{file} is not well-formed: "

def issues? : LoadFailure → Option (List Issue)
  | .node _ issues => some issues
  | .edge _ issues => some issues
  | .flow issues => some issues
  | _ => none

/-- The report that a library gives of what it refused. -/
def report? (libraries : Libraries) : LoadFailure → Option String
  | .malformedYaml _ text => some (libraries.yamlError text)
  | cause => cause.issues?.map libraries.report

def detail (libraries : Libraries) (cause : LoadFailure) : String :=
  cause.opening ++ (cause.report? libraries).getD ""

def message (libraries : Libraries) (cause : LoadFailure) : String :=
  s!"Cannot load flow: {cause.detail libraries}"

end LoadFailure

/-- Faulty bytes by their value when there is one, otherwise by their positions. -/
def Text.EncodingError.message (e : Text.EncodingError) : String :=
  let place := match e.bytes with
    | [byte] =>
      s!"byte 0x{String.ofList (Text.hexPadded 2 byte)} in position {e.position}"
    | bytes => s!"bytes in position {e.position}-{e.position + bytes.length - 1}"
  s!"'utf-8' codec can't decode {place}: {e.reason}"

namespace Failure

def message (libraries : Libraries) : Failure → String
  | .unknownKind kind => s!"{kind.quoted} is not a valid NodeKind"
  | .unknownFormat format => s!"{format.quoted} is not a valid OutputFormat"
  | .unknownLevel level => s!"Unknown level: {Text.quoted level}"
  | .issues found => libraries.report found
  | .load cause => cause.message libraries
  | .invalidFlow errors =>
    let count := counted errors.length "validation error"
    s!"Cannot compile an invalid flow ({count}): " ++ "; ".intercalate errors
  | .identifier label _ problem => s!"{label} {problem.message}"
  | .unknownNode id => s!"No node with id {id.quoted} in flow"
  | .idsExhausted kind attempts =>
    s!"Id generator returned no unused id for a new {kind.name} node after {attempts} attempts"
  | .notIterable type => s!"'{type}' object is not iterable"
  | .unsortableKeys left right =>
    s!"'<' not supported between instances of '{left}' and '{right}'"
  | .unjoinableKey position type =>
    s!"sequence item {position}: expected str instance, {type} found"
  | .encoding error => error.message
  | .noDay error => error.message
  | .noDigits base => s!"invalid literal for int() with base {base}: ''"
  | .fileSystem number reason path => s!"[Errno {number}] {reason}: {Text.quoted path}"
  | .raised exception => exception.message

end Failure

/-- A typed value, or the failure that its issues make. -/
def Reading.orFail {α : Type} (r : Reading α) : Except Failure α :=
  r.toExcept.mapError Failure.issues

/-- The kind that a value names, or a failure. -/
def Kind.read (kind : Value) : Except Failure Kind :=
  match ofValue? kind with
  | some kind => .ok kind
  | none => .error (.unknownKind kind)

end GatewayFlow
