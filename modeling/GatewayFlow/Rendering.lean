import GatewayFlow.Document
import GatewayFlow.Failure
import GatewayFlow.Json.Writer
import GatewayFlow.Sanitize
import GatewayFlow.Yaml.Writer

/-!
# Rendering

A document as text: its plain data, sanitized, in one of two formats.
-/
namespace GatewayFlow

inductive OutputFormat
  | yaml
  | json
deriving DecidableEq, Repr

namespace OutputFormat

def all : List OutputFormat := [.yaml, .json]

def name : OutputFormat → String
  | .yaml => "yaml"
  | .json => "json"

def ofName? (name : String) : Option OutputFormat :=
  all.find? fun format => format.name == name

/-- The format that a value names, or a failure. -/
def read (format : Value) : Except Failure OutputFormat :=
  let found := match format with
    | .text s => ofName? s
    | _ => none
  match found with
  | some format => .ok format
  | none => .error (.unknownFormat format)

def render : OutputFormat → Value → String
  | .yaml, v => Yaml.render v
  | .json, v => Json.render v

end OutputFormat

def Document.rendered (d : Document) : Value :=
  Sanitize.value d.toValue

def Document.serialize (d : Document) (format : OutputFormat) : String :=
  format.render d.rendered

end GatewayFlow
