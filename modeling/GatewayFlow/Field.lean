import GatewayFlow.Issue
import GatewayFlow.Number.Reading
import GatewayFlow.Text.Blank

/-!
# Reading fields

The coercions of the fields of a record. A text has to be a text. A whole number may also come as a
boolean, as a double without fraction, or as a text of digits; a boolean also as zero or one or as
one of a few words.
-/
namespace GatewayFlow.Field

def readText : Value → Reading String
  | .text s => .value s
  | _ => .fail .notText

/-- A text that is not empty, with the proof. -/
def readName : Value → Reading { s : String // s ≠ "" }
  | .text s => if h : s = "" then .fail .emptyText else .value ⟨s, h⟩
  | _ => .fail .notText

def isSeparatedDigits : List Char → Bool
  | [] => false
  | [c] => c.isDigit
  | c :: '_' :: rest => c.isDigit && isSeparatedDigits rest
  | c :: rest => c.isDigit && isSeparatedDigits rest

def withoutZeroDecimals (cs : List Char) : List Char :=
  let decimals := (cs.dropWhile (· != '.')).drop 1
  if !decimals.isEmpty && decimals.all (· == '0') then cs.takeWhile (· != '.') else cs

/-- Drops the zeros in front, with the underscores among them, up to the first other digit. The last
of them stays where no digit follows. -/
def withoutLeadingZeros (cs : List Char) : List Char :=
  let isFiller (c : Char) : Bool := c == '0' || c == '_'
  match cs with
  | '0' :: rest =>
    let after := rest.dropWhile isFiller
    if (after.head?.map Char.isDigit).getD false then after
    else (rest.takeWhile isFiller).getLastD '0' :: after
  | cs => cs

/-- The longest text, in bytes, that is tried as a whole number. -/
def integerTextLimit : Nat := 4300

def readIntegerText (s : String) : Reading Int :=
  if integerTextLimit < s.utf8ByteSize then .fail .oversizedInteger
  else
    let cs := Text.trimBy Text.isSpace s.toList
    let negative := cs.head? == some '-'
    let unsigned := if negative || cs.head? == some '+' then cs.drop 1 else cs
    let digits := withoutZeroDecimals (withoutLeadingZeros unsigned)
    if isSeparatedDigits digits then
      let n : Int := natOfDigits 10 (digits.filter (· != '_'))
      .value (if negative then -n else n)
    else .fail .unreadableInteger

/-- The whole numbers of 64 bits lie below this one and not below its negative. -/
def wordLimit : Int := 9223372036854775808

/-- The whole number that a double stands for; only those within 64 bits are taken. -/
def readIntegerDouble (x : Double) : Reading Int :=
  match x with
  | .undefined => .fail .notFinite
  | .infinite _ => .fail .notFinite
  | .finite .. =>
    match x.toInt? with
    | none => .fail .fractionalInteger
    | some n => if -wordLimit < n ∧ n < wordLimit then .value n else .fail .oversizedInteger

def readInteger : Value → Reading Int
  | .int i => .value i
  | .bool b => .value (if b then 1 else 0)
  | .float x => readIntegerDouble x
  | .text s => readIntegerText s
  | _ => .fail .notInteger

def trueWords : List String := ["1", "on", "t", "true", "y", "yes"]

def falseWords : List String := ["0", "f", "false", "n", "no", "off"]

/-- The boolean that a word means, in any case. -/
def readBooleanText (s : String) : Reading Bool :=
  let word := s.toLower
  if trueWords.contains word then .value true
  else if falseWords.contains word then .value false
  else .fail .unreadableBoolean

def readBooleanInt (i : Int) : Reading Bool :=
  if i = 0 then .value false
  else if i = 1 then .value true
  else if -wordLimit ≤ i ∧ i < wordLimit then .fail .unreadableBoolean
  else .fail .notBoolean

def readBoolean : Value → Reading Bool
  | .bool b => .value b
  | .int i => readBooleanInt i
  | .float x =>
    if x.isZero then .value false
    else if x.toInt? = some 1 then .value true
    else .fail .notBoolean
  | .text s => readBooleanText s
  | _ => .fail .notBoolean

def readTexts : Value → Reading (List String)
  | .list items => .atPositions readText 0 items
  | _ => .fail .notList

def keyStep (k : Scalar) : Step :=
  match k with
  | .text s => .field s
  | .bool b => .item (if b then 1 else 0)
  | .int i =>
    if -wordLimit ≤ i ∧ i < wordLimit then .item i else .field (String.ofList (intText i))
  | k => .field (String.ofList k.literal)

/-- The entries of a mapping whose keys are all texts. -/
def readNamed : List (Scalar × Value) → Reading (List (String × Value))
  | [] => .value []
  | (.text s, v) :: rest => (readNamed rest).map ((s, v) :: ·)
  | (k, _) :: rest =>
    .apply (.issues [⟨.notText, [keyStep k, .field "[key]"]⟩]) (readNamed rest)

def readConfig : Value → Reading (List (String × Value))
  | .mapping entries => readNamed entries
  | _ => .fail .notMapping

variable {α : Type}

def nullable (read : Value → Reading α) : Value → Reading (Option α)
  | .null => .value none
  | v => (read v).map some

def optional (entries : Entries) (name : String) (read : Value → Reading α) :
    Reading (Option α) :=
  match entries.get? name with
  | none => .value none
  | some v => (nullable read v).within (.field name)

def required (entries : Entries) (name : String) (read : Value → Reading α) : Reading α :=
  match entries.get? name with
  | none => .issues [⟨.missing, [.field name]⟩]
  | some v => (read v).within (.field name)

/-- A field with a value of its own when it is absent. -/
def withDefault (entries : Entries) (name : String) (value : α) (read : Value → Reading α) :
    Reading α :=
  match entries.get? name with
  | none => .value value
  | some v => (read v).within (.field name)

/-- Refuses every entry whose key is not among the names. -/
def onlyFields (names : List String) (entries : Entries) : Reading Unit :=
  match entries.filter fun entry => !names.any fun name => entry.1 == .text name with
  | [] => .value ()
  | extra => .issues (extra.map fun entry => ⟨.unexpected, [keyStep entry.1]⟩)

end GatewayFlow.Field
