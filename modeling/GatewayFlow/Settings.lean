import GatewayFlow.Field
import GatewayFlow.Log
import GatewayFlow.Text.Uppercase

/-!
# Settings

The defaults applied while a flow is lowered. A setting comes from an argument, from a variable of
its name with a common start, in the environment or else in a settings file, or from its default, in
this order. Names of variables are compared without regard to case.
-/
namespace GatewayFlow

/-- How a route names its service: by the id of the node or by its configured name. -/
inductive RouteReference
  | id
  | name
deriving DecidableEq, Repr

namespace RouteReference

def text : RouteReference → String
  | .id => "id"
  | .name => "name"

def ofText? : String → Option RouteReference
  | "id" => some .id
  | "name" => some .name
  | _ => none

def read : Value → Reading RouteReference
  | .text s =>
    match ofText? s with
    | some reference => .value reference
    | none => .fail .notAReference
  | _ => .fail .notAReference

end RouteReference

structure Settings where
  formatVersion : String := "3.0"
  defaultPluginName : String := "rate-limiting"
  placeholderHost : String := "example.com"
  defaultServicePort : Int := 80
  defaultProtocol : String := "http"
  routeReference : RouteReference := .id
  identifierMaxLength : Int := 255
  logLevel : String := "WARNING"
deriving DecidableEq, Repr

namespace Settings

def read (entries : Entries) : Reading Settings :=
  let standard : Settings := {}
  Settings.mk
    <$> Field.withDefault entries "format_version" standard.formatVersion Field.readText
    <*> Field.withDefault entries "default_plugin_name" standard.defaultPluginName Field.readText
    <*> Field.withDefault entries "placeholder_host" standard.placeholderHost Field.readText
    <*> Field.withDefault entries "default_service_port" standard.defaultServicePort
      Field.readInteger
    <*> Field.withDefault entries "default_protocol" standard.defaultProtocol Field.readText
    <*> Field.withDefault entries "route_reference" standard.routeReference RouteReference.read
    <*> Field.withDefault entries "identifier_max_length" standard.identifierMaxLength
      Field.readInteger
    <*> Field.withDefault entries "log_level" standard.logLevel Field.readText

/-- The names of all settings, in order. -/
def names : List String :=
  ["format_version", "default_plugin_name", "placeholder_host", "default_service_port",
    "default_protocol", "route_reference", "identifier_max_length", "log_level"]

/-- What the name of a variable for a setting starts with. -/
def variableStart : String := "deckflow_"

/-- The settings that variables give; of variables that differ in case only, the last one counts. -/
def ofVariables (given : List (String × String)) : Entries :=
  Entries.ofList (given.filterMap fun (name, value) =>
    let name := (Text.lowerLatin name).toList
    if name.take variableStart.length = variableStart.toList then
      some (.text (String.ofList (name.drop variableStart.length)), .text value)
    else none)

/-- The settings of a settings file, overridden by an environment and by arguments. -/
def resolve (settingsFile environment : List (String × String)) (arguments : Entries) :
    Reading Settings :=
  read (((ofVariables settingsFile).merge (ofVariables environment)).merge arguments)

/-- The line that tells which settings are in use. -/
def line (s : Settings) : LogLine :=
  let reference := s.routeReference.text
  ⟨.debug, .settings,
    s!"deckflow settings: format_version={s.formatVersion}, route_reference={reference}"⟩

def toValue (s : Settings) : Value :=
  .record [("format_version", .text s.formatVersion),
    ("default_plugin_name", .text s.defaultPluginName),
    ("placeholder_host", .text s.placeholderHost),
    ("default_service_port", .int s.defaultServicePort),
    ("default_protocol", .text s.defaultProtocol),
    ("route_reference", .text s.routeReference.text),
    ("identifier_max_length", .int s.identifierMaxLength), ("log_level", .text s.logLevel)]

end Settings
end GatewayFlow
