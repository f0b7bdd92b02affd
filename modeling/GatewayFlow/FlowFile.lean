import GatewayFlow.Files
import GatewayFlow.SavedFlow
import GatewayFlow.Yaml.Reader

/-!
# Flow files

A saved flow in a file: UTF-8 text, in YAML when the name ends so and otherwise in JSON. Every kind
of line end counts as a line feed.
-/
namespace GatewayFlow.FlowFile

/-- The text with a line feed at the end of each line. -/
def withLineFeeds : List Char → List Char
  | '\r' :: '\n' :: cs => '\n' :: withLineFeeds cs
  | '\r' :: cs => '\n' :: withLineFeeds cs
  | c :: cs => c :: withLineFeeds cs
  | [] => []

def dataOf (path : Path) (text : String) : Except Failure Value :=
  if path.isYaml then
    (Yaml.read text).mapError fun
      | .malformed => .load (.malformedYaml path.name text)
      | .noDay e => .noDay e
      | .noDigits base => .noDigits base
  else (Json.read text).mapError fun e => .load (.malformedJson path.name e)

/-- The data in the bytes of a file, when they could be read. -/
def read (path : Path) (bytes : Except FileError (List Nat)) : Except Failure Value := do
  let bytes ← bytes.mapError fun e => Failure.load (.unreadable path.text e.reason)
  let chars ← (Text.Utf8.decode bytes).mapError Failure.encoding
  dataOf path (String.ofList (withLineFeeds chars))

def load (path : Path) (bytes : Except FileError (List Nat)) : Logged Failure Flow := do
  let data ← Logged.quiet (read path bytes)
  SavedFlow.load data

end GatewayFlow.FlowFile
