import GatewayFlow.Value

/-!
# JSON text

Two blanks of indentation per level, one item or entry per line, and every character outside the
control characters as it is.
-/
namespace GatewayFlow.Json

def escapedChar (c : Char) : List Char :=
  if c = '"' ∨ c = '\\' then ['\\', c]
  else if c = '\n' then ['\\', 'n']
  else if c = '\r' then ['\\', 'r']
  else if c = '\t' then ['\\', 't']
  else if c.toNat = 8 then ['\\', 'b']
  else if c.toNat = 12 then ['\\', 'f']
  else if c.toNat < 0x20 then '\\' :: 'u' :: Text.hexPadded 4 c.toNat
  else [c]

def stringText (s : String) : List Char :=
  '"' :: s.toList.flatMap escapedChar ++ ['"']

def scalarText : Scalar → List Char
  | .null => "null".toList
  | .bool true => "true".toList
  | .bool false => "false".toList
  | .int i => intText i
  | .float x => x.text .json
  | .text s => stringText s
  | .date d => stringText (String.ofList d.isoText)
  | .instant t => stringText (String.ofList t.isoText)

/-- A line end and the indentation of a level. -/
def newline (level : Nat) : List Char :=
  '\n' :: List.replicate (2 * level) ' '

mutual

/-- The text of a value whose own line is indented by `level`. -/
def valueText (level : Nat) : Value → List Char
  | .scalar s => scalarText s
  | .list [] => ['[', ']']
  | .list (v :: rest) =>
    '[' :: newline (level + 1) ++ valueText (level + 1) v ++ itemsText (level + 1) rest ++
      newline level ++ [']']
  | .mapping [] => ['\x7b', '\x7d']
  | .mapping ((k, v) :: rest) =>
    '\x7b' :: newline (level + 1) ++ stringText k.keyText ++ ':' :: ' ' ::
      valueText (level + 1) v ++ entriesText (level + 1) rest ++ newline level ++ ['\x7d']

/-- The further items of a list, each after a comma. -/
def itemsText (level : Nat) : List Value → List Char
  | [] => []
  | v :: rest => ',' :: newline level ++ valueText level v ++ itemsText level rest

/-- The further entries of a mapping, each after a comma. -/
def entriesText (level : Nat) : List (Scalar × Value) → List Char
  | [] => []
  | (k, v) :: rest =>
    ',' :: newline level ++ stringText k.keyText ++ ':' :: ' ' :: valueText level v ++
      entriesText level rest

end

/-- The JSON text of a value, ended by one newline. -/
def render (v : Value) : String :=
  String.ofList (valueText 0 v ++ ['\n'])

end GatewayFlow.Json
