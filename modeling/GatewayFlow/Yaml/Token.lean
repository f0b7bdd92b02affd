import GatewayFlow.Yaml.Tag

/-!
# Tokens

The parts that a YAML text is made of. Blocks that only their indentation shows have tokens of their
own for their start and their end.
-/
namespace GatewayFlow.Yaml

inductive Token
  | directive (d : Directive)
  | documentStart
  | documentEnd
  | blockSequenceStart
  | blockMappingStart
  | blockEnd
  | flowSequenceStart
  | flowSequenceEnd
  | flowMappingStart
  | flowMappingEnd
  | blockEntry
  | flowEntry
  | key
  | value
  | alias (name : String)
  | anchor (name : String)
  | tag (name : TagName)
  /-- A scalar; only a plain one can mean something other than its text. -/
  | scalar (plain : Bool) (text : String)
deriving DecidableEq, Repr

end GatewayFlow.Yaml
