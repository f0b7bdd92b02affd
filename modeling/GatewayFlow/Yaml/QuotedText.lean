import GatewayFlow.Json.Reader
import GatewayFlow.Yaml.Spacing

/-!
# Quoted scalars

The text of a scalar between single or double quotes. Between single quotes only the quote itself is
special, written twice; between double quotes a backslash starts an escape.
-/
namespace GatewayFlow.Yaml

def escaped? : Char → Option Char
  | '0' => some '\x00'
  | 'a' => some '\x07'
  | 'b' => some '\x08'
  | 't' => some '\t'
  | '\t' => some '\t'
  | 'n' => some '\n'
  | 'v' => some '\x0b'
  | 'f' => some '\x0c'
  | 'r' => some '\r'
  | 'e' => some '\x1b'
  | ' ' => some ' '
  | '"' => some '"'
  | '\\' => some '\\'
  | '/' => some '/'
  | 'N' => some '\x85'
  | '_' => some '\xa0'
  | 'L' => some '\u2028'
  | 'P' => some '\u2029'
  | _ => none

/-- The character of hexadecimal digits, when there is one. -/
def charOfHex? (digits : List Char) : Option Char :=
  let n := natOfDigits 16 digits
  if digits.all isHexDigit && n < 0x110000 then some (Json.charOfUnit n) else none

/-- An escape behind its backslash: the character it stands for, or none for a line end, which joins
two lines; and what follows. -/
def readEscape? : List Char → Option (Option Char × List Char)
  | '\r' :: '\n' :: cs => some (none, cs)
  | 'x' :: a :: b :: cs => (charOfHex? [a, b]).map fun d => (some d, cs)
  | 'u' :: a :: b :: c :: d :: cs => (charOfHex? [a, b, c, d]).map fun d => (some d, cs)
  | 'U' :: a :: b :: c :: d :: e :: f :: g :: h :: cs =>
    (charOfHex? [a, b, c, d, e, f, g, h]).map fun d => (some d, cs)
  | e :: cs => if isLineEnd e then some (none, cs) else (escaped? e).map fun d => (some d, cs)
  | [] => none

theorem length_readEscape? {cs rest : List Char} {d? : Option Char}
    (read : readEscape? cs = some (d?, rest)) : rest.length < cs.length := by
  -- Every form of an escape takes at least one character.
  unfold readEscape? at read
  split at read
  · cases read
    simp only [List.length_cons]
    omega
  iterate 3
    · obtain ⟨d, -, eq⟩ := Option.map_eq_some_iff.mp read
      cases eq
      simp only [List.length_cons]
      omega
  · split at read
    · cases read
      exact Nat.lt_succ_self _
    · obtain ⟨d, -, eq⟩ := Option.map_eq_some_iff.mp read
      cases eq
      exact Nat.lt_succ_self _
  · cases read

/-- A scalar between quotes up to the closing one, and what follows it. -/
def readQuoted (double : Bool) (spacing : Spacing) : List Char → Option (List Char × List Char)
  | [] => none
  | '\r' :: '\n' :: cs => readQuoted double (spacing.addLineEnd '\n') cs
  | c :: cs =>
    let add (d : Char) (out : List Char × List Char) : List Char × List Char :=
      (spacing.text ++ d :: out.1, out.2)
    if isTabOrSpace c then readQuoted double (spacing.addBlank c) cs
    else if isLineEnd c then readQuoted double (spacing.addLineEnd c) cs
    else if spacing.startsLine && startsMarker (c :: cs) then none
    else if c == (if double then '"' else '\'') then
      -- Between single quotes one that is written twice stands for itself.
      match double, cs with
      | false, '\'' :: cs => (readQuoted double .nothing cs).map (add '\'')
      | _, _ => some (spacing.text, cs)
    else if double && c == '\\' then
      match _ : readEscape? cs with
      | some (some d, rest) => (readQuoted double .nothing rest).map (add d)
      | some (none, rest) =>
        (readQuoted double .joined rest).map fun out => (spacing.text ++ out.1, out.2)
      | none => none
    else (readQuoted double .nothing cs).map (add c)
termination_by cs => cs.length
decreasing_by
  all_goals simp only [List.length_cons]
  all_goals first | omega | exact Nat.lt_succ_of_lt (length_readEscape? ‹_›)

end GatewayFlow.Yaml
