import GatewayFlow.Calendar
import GatewayFlow.Text.Quoted

/-!
# Open data

The values that flows and plugin configurations are written in: scalars, lists and mappings. A
mapping keeps its entries in order; putting a key that is already there keeps its place and takes
the new value. Keys are scalars, compared by the value meant: `1`, `1.0` and `true` are one key.
-/
namespace GatewayFlow

/-- A value without parts. -/
inductive Scalar
  | null
  | bool (b : Bool)
  | int (i : Int)
  | float (x : Double)
  | text (s : String)
  | date (d : Date)
  | instant (t : Instant)
deriving DecidableEq, Repr

/-- A scalar, a list or a mapping in order. -/
inductive Value
  | scalar (s : Scalar)
  | list (items : List Value)
  | mapping (entries : List (Scalar × Value))
deriving Repr

/-- The entries of a mapping, in order. -/
abbrev Entries := List (Scalar × Value)

namespace Scalar

/-- Whether a scalar says nothing: null, false, zero or the empty text. -/
def isVoid : Scalar → Bool
  | .null => true
  | .bool b => !b
  | .int i => i == 0
  | .float x => x.isZero
  | .text s => s.isEmpty
  | .date _ => false
  | .instant _ => false

/-- The whole number that a scalar stands for among keys. -/
def asInt? : Scalar → Option Int
  | .bool b => some (if b then 1 else 0)
  | .int i => some i
  | .float x => x.toInt?
  | _ => none

def agrees : Scalar → Scalar → Bool
  | .float x, .float y => x.agrees y
  | .float x, s => x.toInt?.isSome && x.toInt? == s.asInt?
  | s, .float x => x.toInt?.isSome && x.toInt? == s.asInt?
  | .bool b, .int i => (if b then 1 else 0) == i
  | .int i, .bool b => i == (if b then 1 else 0)
  | s, t => s == t

def literal : Scalar → List Char
  | .null => "None".toList
  | .bool true => "True".toList
  | .bool false => "False".toList
  | .int i => intText i
  | .float x => x.text .plain
  | .text s => Text.quotedChars s.toList
  | .date d => d.literal
  | .instant t => t.literal

/-- The scalar as it stands in running text: a text is itself. -/
def display : Scalar → List Char
  | .text s => s.toList
  | .date d => d.isoText
  | .instant t =>
    t.date.isoText ++ ' ' :: t.clockText ++ (t.offset.map Instant.offsetText).getD []
  | s => s.literal

/-- The key that a scalar becomes where keys have to be texts. -/
def keyText : Scalar → String
  | .bool true => "true"
  | .bool false => "false"
  | .instant t => String.ofList t.isoText
  | s => String.ofList s.display

/-- The plain scalar that a scalar becomes where data has to be plain: a double that is no number
becomes null, a date or an instant its ISO text. -/
def plain : Scalar → Scalar
  | .float .undefined => .null
  | .float (.infinite _) => .null
  | .date d => .text (String.ofList d.isoText)
  | .instant t => .text (String.ofList t.isoText)
  | s => s

end Scalar

namespace Entries

/-- Writes an entry: in place of the entry of that key, else at the end. -/
def put (key : Scalar) (value : Value) : Entries → Entries
  | [] => [(key, value)]
  | (k, v) :: rest =>
    if k.agrees key then (k, value) :: rest else (k, v) :: put key value rest

/-- Writes all entries of `more` in turn. -/
def merge (entries more : Entries) : Entries :=
  more.foldl (fun acc entry => put entry.1 entry.2 acc) entries

/-- The mapping in which later entries of a key override earlier ones. -/
def ofList (entries : List (Scalar × Value)) : Entries :=
  merge [] entries

def get? (name : String) : Entries → Option Value
  | [] => none
  | (k, v) :: rest => if k = .text name then some v else get? name rest

end Entries

namespace Value

@[match_pattern] abbrev null : Value := .scalar .null
@[match_pattern] abbrev bool (b : Bool) : Value := .scalar (.bool b)
@[match_pattern] abbrev int (i : Int) : Value := .scalar (.int i)
@[match_pattern] abbrev float (x : Double) : Value := .scalar (.float x)
@[match_pattern] abbrev text (s : String) : Value := .scalar (.text s)

def record (fields : List (String × Value)) : Value :=
  .mapping (fields.map fun field => (.text field.1, field.2))

def texts (items : List String) : Value :=
  .list (items.map text)

/-- A text, or null where there is none. -/
def textOrNull (s : Option String) : Value :=
  (s.map text).getD .null

/-- Whether a value says nothing: a void scalar or a list or mapping without parts. -/
def isVoid : Value → Bool
  | .scalar s => s.isVoid
  | .list items => items.isEmpty
  | .mapping entries => entries.isEmpty

def isNull : Value → Bool
  | .null => true
  | _ => false

mutual

def literal : Value → List Char
  | .scalar s => s.literal
  | .list items => '[' :: literalItems items ++ [']']
  | .mapping entries => '\x7b' :: literalEntries entries ++ ['\x7d']

def literalItems : List Value → List Char
  | [] => []
  | [v] => v.literal
  | v :: rest => v.literal ++ ',' :: ' ' :: literalItems rest

def literalEntries : List (Scalar × Value) → List Char
  | [] => []
  | [(k, v)] => k.literal ++ ':' :: ' ' :: v.literal
  | (k, v) :: rest => k.literal ++ ':' :: ' ' :: v.literal ++ ',' :: ' ' :: literalEntries rest

end

/-- The value between quotes and brackets, for a message. -/
def quoted (v : Value) : String :=
  String.ofList v.literal

def display : Value → String
  | .scalar s => String.ofList s.display
  | v => v.quoted

mutual

/-- The plain data of a value: null, booleans, whole numbers, finite doubles, texts, lists and
mappings with text keys. -/
def plain : Value → Value
  | .scalar s => .scalar s.plain
  | .list items => .list (plainItems items)
  | .mapping entries => .mapping (plainEntries [] entries)

def plainItems : List Value → List Value
  | [] => []
  | v :: rest => v.plain :: plainItems rest

/-- Keys become texts; two keys of one text become one entry. -/
def plainEntries (done : Entries) : List (Scalar × Value) → Entries
  | [] => done
  | (k, v) :: rest => plainEntries (Entries.put (.text k.keyText) v.plain done) rest

end

mutual

/-- Equality of the values meant; the order of a mapping's entries does not count. -/
def agrees : Value → Value → Bool
  | .scalar s, .scalar t => s.agrees t
  | .list xs, .list ys => agreesItems xs ys
  | .mapping xs, .mapping ys => xs.length == ys.length && agreesEntries xs ys
  | _, _ => false

def agreesItems : List Value → List Value → Bool
  | [], [] => true
  | x :: xs, y :: ys => x.agrees y && agreesItems xs ys
  | _, _ => false

/-- Every entry of the first list has its equal in the second. -/
def agreesEntries : List (Scalar × Value) → List (Scalar × Value) → Bool
  | [], _ => true
  | (k, v) :: rest, ys => agreesEntry k v ys && agreesEntries rest ys

def agreesEntry (k : Scalar) (v : Value) : List (Scalar × Value) → Bool
  | [] => false
  | (k', v') :: rest => (k.agrees k' && v.agrees v') || agreesEntry k v rest

end

end Value

def given? : Option String → Option String
  | some s => if s.isEmpty then none else some s
  | none => none

/-- A text, or another one where it is absent or empty. -/
def givenOr (text : Option String) (other : String) : String :=
  (given? text).getD other

end GatewayFlow
