import GatewayFlow.Value
import GatewayFlow.Text.Blank

/-!
# Sanitizing

Free-form texts are made harmless before they are rendered: control characters and the characters of
templates are dropped, one leading YAML marker is dropped, and blanks at both ends. Sanitizing never
fails and touches nothing but texts, keys included.
-/
namespace GatewayFlow.Sanitize

def isControl (c : Char) : Bool :=
  c.toNat < 0x20 || c.toNat == 0x7F

def isTemplate (c : Char) : Bool :=
  c == '\x60' || c == '$' || c == '\x7b' || c == '\x7d'

/-- The characters that mean something to YAML at the start of a scalar. -/
def isMarker (c : Char) : Bool :=
  c == '-' || c == '!' || c == '&' || c == '*' || c == '>' || c == '|'

/-- Drops one marker at the start, together with the blanks before it. -/
def withoutMarker (cs : List Char) : List Char :=
  match cs.dropWhile Text.isBlank with
  | c :: rest => if isMarker c then rest else cs
  | [] => cs

def chars (cs : List Char) : List Char :=
  Text.trim (withoutMarker (cs.filter fun c => !isControl c && !isTemplate c))

def text (s : String) : String :=
  String.ofList (chars s.toList)

def scalar : Scalar → Scalar
  | .text s => .text (text s)
  | s => s

mutual

def value : Value → Value
  | .scalar s => .scalar (scalar s)
  | .list vs => .list (items vs)
  | .mapping es => .mapping (entries [] es)

def items : List Value → List Value
  | [] => []
  | v :: rest => value v :: items rest

/-- Entries whose keys become equal become one: the place of the first, the value of the last. -/
def entries (done : Entries) : List (Scalar × Value) → Entries
  | [] => done
  | (k, v) :: rest => entries (Entries.put (scalar k) (value v) done) rest

end

end GatewayFlow.Sanitize
