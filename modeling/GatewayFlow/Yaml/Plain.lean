import GatewayFlow.Value
import GatewayFlow.Number.Reading

/-!
# What a plain scalar means

The form of an unquoted YAML scalar decides its type: the words for null and the booleans, whole
numbers in four bases and by sixties, doubles, dates and instants. Any other form is a text, apart
from the merge key `<<` and the value key `=`, which have forms of their own.
-/
namespace GatewayFlow.Yaml

/-- What an unquoted scalar stands for. A number or an instant may have a recognised form and yet
mean nothing. -/
inductive Plain
  | scalar (s : Scalar)
  | merge
  | value
  | noDay (e : CalendarError)
  | noDigits (base : Nat)
deriving DecidableEq, Repr

def nullWords : List String := ["", "~", "null", "Null", "NULL"]

def trueWords : List String :=
  ["yes", "Yes", "YES", "true", "True", "TRUE", "on", "On", "ON"]

def falseWords : List String :=
  ["no", "No", "NO", "false", "False", "FALSE", "off", "Off", "OFF"]

/-- The sign of a number, and what follows it. -/
def splitSign : List Char → Bool × List Char
  | '-' :: cs => (true, cs)
  | '+' :: cs => (false, cs)
  | cs => (false, cs)

/-- Digits of a class with underscores among them, starting with a digit. -/
def isGrouped (digit : Char → Bool) : List Char → Bool
  | c :: cs => digit c && cs.all fun d => digit d || d == '_'
  | [] => false

def isBinaryDigit (c : Char) : Bool := c == '0' || c == '1'

def isOctalDigit (c : Char) : Bool := '0' ≤ c && c ≤ '7'

def isNonZeroDigit (c : Char) : Bool := '1' ≤ c && c ≤ '9'

def withoutUnderscores (cs : List Char) : List Char :=
  cs.filter (· != '_')

def splitAtChar (c : Char) (cs : List Char) : List (List Char) :=
  cs.foldr (fun d parts =>
    if d = c then [] :: parts
    else match parts with
      | part :: rest => (d :: part) :: rest
      | [] => [[d]]) [[]]

/-- A part below sixty, of one or two digits. -/
def isSixtieth : List Char → Bool
  | [c] => c.isDigit
  | [c, d] => ('0' ≤ c && c ≤ '5') && d.isDigit
  | _ => false

def readInt? (cs : List Char) : Option Plain :=
  let (negative, body) := splitSign cs
  let signed (n : Nat) : Plain := .scalar (.int (if negative then -(n : Int) else n))
  let ofBase (base : Nat) (digits : List Char) : Plain :=
    if (withoutUnderscores digits).isEmpty then .noDigits base
    else signed (natOfDigits base (withoutUnderscores digits))
  match body with
  | ['0'] => some (signed 0)
  | '0' :: 'b' :: d :: digits =>
    if (d :: digits).all fun c => isBinaryDigit c || c == '_' then some (ofBase 2 (d :: digits))
    else none
  | '0' :: 'x' :: d :: digits =>
    if (d :: digits).all fun c => isHexDigit c || c == '_' then some (ofBase 16 (d :: digits))
    else none
  -- A zero in front means the base eight.
  | '0' :: digits =>
    if digits.all fun c => isOctalDigit c || c == '_' then
      some (signed (natOfDigits 8 (withoutUnderscores digits)))
    else none
  | _ =>
    match splitAtChar ':' body with
    | [] => none
    | [digits] =>
      if isNonZeroDigit (digits.headD ' ') && isGrouped Char.isDigit digits then
        some (signed (natOfDigits 10 (withoutUnderscores digits)))
      else none
    -- With colons it is a number to the base sixty.
    | first :: parts =>
      if isNonZeroDigit (first.headD ' ') && isGrouped Char.isDigit first
          && parts.all isSixtieth then
        some (signed ((withoutUnderscores first :: parts).foldl
          (fun n part => 60 * n + natOfDigits 10 part) 0))
      else none

/-- The exponent of a double: a mark, a sign and digits. -/
def readExponent? : List Char → Option Int
  | [] => some 0
  | mark :: sign :: digits =>
    if (mark == 'e' || mark == 'E') && (sign == '-' || sign == '+') && !digits.isEmpty
        && digits.all Char.isDigit then
      let n : Int := natOfDigits 10 digits
      some (if sign = '-' then -n else n)
    else none
  | _ => none

def isDecimalPart (c : Char) : Bool := c.isDigit || c == '_'

/-- The double of digits on both sides of a point with an optional exponent. -/
def readPointed? (negative : Bool) (whole afterPoint : List Char) : Option Double :=
  let decimals := afterPoint.takeWhile isDecimalPart
  (readExponent? (afterPoint.dropWhile isDecimalPart)).map fun exponent =>
    .ofParts negative (withoutUnderscores whole) (withoutUnderscores decimals) exponent

/-- The double that parts by sixties write, the last of them with a fraction. -/
def ofSixtieths (parts : List Double) : Double :=
  (parts.reverse.foldl (fun (acc : Double × Nat) part =>
    (acc.1.add (part.scaleBy acc.2), acc.2 * 60)) (Double.zero, 1)).1

def readDouble? (cs : List Char) : Option Double :=
  let (negative, body) := splitSign cs
  if [".inf", ".Inf", ".INF"].contains (String.ofList body) then some (.infinite negative)
  else if [".nan", ".NaN", ".NAN"].contains (String.ofList cs) then some .undefined
  else
    let whole := body.takeWhile (· != '.')
    match body.dropWhile (· != '.') with
    | '.' :: afterPoint =>
      if whole.isEmpty then
        -- Without digits in front of the point there may be no sign either.
        if cs.head? == some '.' && isGrouped Char.isDigit (afterPoint.takeWhile isDecimalPart) then
          readPointed? false [] afterPoint
        else none
      else
        match splitAtChar ':' whole with
        | [digits] =>
          if isGrouped Char.isDigit digits then readPointed? negative digits afterPoint else none
        | first :: parts =>
          if isGrouped Char.isDigit first && parts.all isSixtieth && afterPoint.all isDecimalPart
          then
            let all := withoutUnderscores first :: parts
            let ofDigits (digits : List Char) : Double := .ofParts false digits [] 0
            let last := Double.ofParts false (all.getLastD []) (withoutUnderscores afterPoint) 0
            -- The sign counts for the whole sum.
            let sum := ofSixtieths (all.dropLast.map ofDigits ++ [last])
            some (if negative then sum.negate else sum)
          else none
        | [] => none
    | _ => none

/-- Between `least` and `most` digits from the front, as a number and what follows. -/
def readDigits? (least most : Nat) (cs : List Char) : Option (Nat × List Char) :=
  let digits := (cs.take most).takeWhile Char.isDigit
  if least ≤ digits.length then some (natOfDigits 10 digits, cs.drop digits.length) else none

def after? (c : Char) : List Char → Option (List Char)
  | d :: cs => if d = c then some cs else none
  | [] => none

def isTabOrSpace (c : Char) : Bool := c == ' ' || c == '\t'

/-- The distance from universal time that ends an instant, in minutes. -/
def readOffset? (cs : List Char) : Option (Option Int) :=
  match cs.dropWhile isTabOrSpace with
  | [] => if cs.isEmpty then some none else none
  | ['Z'] => some (some 0)
  | sign :: rest =>
    if sign = '-' ∨ sign = '+' then do
      let (hours, rest) ← readDigits? 1 2 rest
      let minutes ← match rest with
        | [] => some 0
        | ':' :: rest => do
          let (minutes, rest) ← readDigits? 2 2 rest
          if rest.isEmpty then some minutes else none
        | _ => none
      let total : Int := hours * 60 + minutes
      some (some (if sign = '-' then -total else total))
    else none

def readClock? (year month day : Nat) (cs : List Char) : Option (Except CalendarError Scalar) := do
  let rest ← match cs with
    | 'T' :: rest => some rest
    | 't' :: rest => some rest
    | c :: rest => if isTabOrSpace c then some (rest.dropWhile isTabOrSpace) else none
    | [] => none
  let (hour, rest) ← readDigits? 1 2 rest
  let (minute, rest) ← readDigits? 2 2 (← after? ':' rest)
  let (second, rest) ← readDigits? 2 2 (← after? ':' rest)
  let fraction := match rest with
    | '.' :: rest => rest.takeWhile Char.isDigit
    | _ => []
  let rest := match rest with
    | '.' :: rest => rest.dropWhile Char.isDigit
    | rest => rest
  let offset ← readOffset? rest
  -- Digits past the sixth are dropped, missing ones are zeros.
  let micro := natOfDigits 10 ((fraction.take 6) ++ List.replicate (6 - fraction.length) '0')
  some <| do
    -- The offset is looked at before the date, which may be none as well.
    if 1440 ≤ (offset.getD 0).natAbs then .error (.offset (offset.getD 0))
    let date ← Date.ofNumbers year month day
    let instant ← Instant.ofNumbers date hour minute second micro offset
    pure (.instant instant)

def readDay? (cs : List Char) : Option (Except CalendarError Scalar) := do
  let (year, rest) ← readDigits? 4 4 cs
  let (month, afterMonth) ← readDigits? 1 2 (← after? '-' rest)
  let (day, rest) ← readDigits? 1 2 (← after? '-' afterMonth)
  if rest.isEmpty then
    if cs.length = 10 then some ((Date.ofNumbers year month day).map .date) else none
  else readClock? year month day rest

/-- What a form other than a text stands for. -/
def readPlain? (cs : List Char) : Option Plain :=
  let s := String.ofList cs
  if nullWords.contains s then some (.scalar .null)
  else if trueWords.contains s then some (.scalar (.bool true))
  else if falseWords.contains s then some (.scalar (.bool false))
  else if s == "<<" then some .merge
  else if s == "=" then some .value
  else
    -- In the order in which the forms are tried: a form with a point is no whole number.
    match readDouble? cs with
    | some x => some (.scalar (.float x))
    | none =>
      match readInt? cs with
      | some n => some n
      | none => (readDay? cs).map fun
        | .ok day => .scalar day
        | .error e => .noDay e

/-- Whether a plain scalar is read as the text it shows. -/
def isPlainText (cs : List Char) : Bool :=
  (readPlain? cs).isNone

end GatewayFlow.Yaml
