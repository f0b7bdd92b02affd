import GatewayFlow.Text.Digit

/-!
# Arguments

The words of a command line. A word is an option when it starts with a hyphen and is neither a
number nor broken by a space; a long option may be shortened while it stays clear, and its value may
be attached. Behind two hyphens alone no word is an option.
-/
namespace GatewayFlow

/-- What an option takes. -/
inductive Takes
  | nothing
  | text
  | oneOf (choices : List String)
deriving DecidableEq, Repr

structure OptionSpec where
  /-- The spellings of the option, the one that stands for it first. -/
  names : List String
  takes : Takes
deriving DecidableEq, Repr

/-- Why arguments are not carried out: help is asked for, or they are wrong. -/
inductive Usage
  | help
  | wrong
deriving DecidableEq, Repr

/-- An argument by its part on the command line. -/
inductive Word
  | plain (text : String)
  | divider
  /-- An option with the letters that are attached to it, an equals sign among them. -/
  | option (spec : OptionSpec) (attached : List Char)
  | unknown
deriving DecidableEq, Repr

namespace OptionSpec

def help : OptionSpec := ⟨["-h", "--help"], .nothing⟩

def find? (specs : List OptionSpec) (name : String) : Option OptionSpec :=
  specs.find? fun spec => spec.names.contains name

end OptionSpec

namespace Word

/-- The long options that a beginning may stand for. -/
def shortened (specs : List OptionSpec) (start attached : List Char) : List Word :=
  specs.flatMap fun spec =>
    (spec.names.filter fun name => start.isPrefixOf name.toList).map fun _ => .option spec attached

/-- The options that a word without an exact spelling may mean. -/
def candidates (specs : List OptionSpec) (cs : List Char) : List Word :=
  match cs with
  | '-' :: '-' :: _ => shortened specs (cs.takeWhile (· != '=')) (cs.dropWhile (· != '='))
  | '-' :: c :: rest =>
    match OptionSpec.find? specs (String.ofList ['-', c]) with
    | some spec => [.option spec rest]
    | none => []
  | _ => []

/-- The option of an exact spelling, with nothing attached or an equals sign behind it. -/
def spelled? (specs : List OptionSpec) (cs : List Char) : Option Word :=
  match OptionSpec.find? specs (String.ofList cs) with
  | some spec => some (.option spec [])
  | none =>
    (OptionSpec.find? specs (String.ofList (cs.takeWhile (· != '=')))).map fun spec =>
      .option spec (cs.dropWhile (· != '='))

/-- Whether a word is a negative number: digits of any script behind a hyphen, with at most one
point and a digit at the end, or at most a line feed behind that digit. -/
def isNegativeNumber (cs : List Char) : Bool :=
  match cs with
  | '-' :: rest =>
    let rest := if rest.getLast? == some '\n' then rest.dropLast else rest
    let decimals := match rest.dropWhile Text.isDecimal with
      | '.' :: decimals => decimals
      | _ => rest
    !decimals.isEmpty && decimals.all Text.isDecimal
  | _ => false

/-- The part of one argument before any divider; none when it may mean several options. -/
def ofText? (specs : List OptionSpec) (text : String) : Option Word :=
  let cs := text.toList
  if cs.head? != some '-' || cs.length = 1 then some (.plain text)
  else
    match spelled? specs cs with
    | some word => some word
    | none =>
      match candidates specs cs with
      | _ :: _ :: _ => none
      | [word] => some word
      | [] => if isNegativeNumber cs || cs.contains ' ' then some (.plain text) else some .unknown

def ofTexts? (specs : List OptionSpec) : List String → Option (List Word)
  | [] => some []
  | text :: rest =>
    if text = "--" then some (.divider :: rest.map .plain)
    else do
      let word ← ofText? specs text
      let words ← ofTexts? specs rest
      some (word :: words)

end Word

/-- The options that are written together in one word. -/
structure Cluster where
  /-- The options with their values, as far as the word holds them. -/
  given : List (OptionSpec × String)
  /-- The last option, when the next word is its value. -/
  awaiting : Option OptionSpec := none
  /-- Whether a letter stands for no option. -/
  leftOver : Bool := false
deriving DecidableEq, Repr

namespace Cluster

/-- The options of a word from one on, by the letters attached to it: the value of an option that
takes one, else further options by a letter each. -/
def read (specs : List OptionSpec) (spec : OptionSpec) : List Char → Except Usage Cluster
  | [] =>
    if spec.takes = .nothing then .ok { given := [(spec, "")] }
    else .ok { given := [], awaiting := some spec }
  | c :: rest =>
    if spec.takes != .nothing then
      .ok { given := [(spec, String.ofList (if c = '=' then rest else c :: rest))] }
    else if c = '=' || c = '-' then .error .wrong
    else
      match OptionSpec.find? specs (String.ofList ['-', c]) with
      | none => .ok { given := [(spec, "")], leftOver := true }
      | some next =>
        (read specs next rest).map fun cluster =>
          { cluster with given := (spec, "") :: cluster.given }

end Cluster

/-- What the words of a command say: the options with their values, a plain word, and whether
anything is left over. -/
structure Taken where
  options : List (String × String) := []
  plain : Option String := none
  leftOver : Bool := false
deriving DecidableEq, Repr

namespace Taken

/-- The value of an option, the last one when it is given repeatedly. -/
def value? (taken : Taken) (name : String) : Option String :=
  taken.options.lookup name

def give (taken : Taken) (spec : OptionSpec) (value : String) : Except Usage Taken :=
  if spec = .help then .error .help
  else
    let given := { taken with options := (spec.names.headD "", value) :: taken.options }
    match spec.takes with
    | .oneOf choices => if choices.contains value then .ok given else .error .wrong
    | _ => .ok given

def giveAll (taken : Taken) (cluster : Cluster) : Except Usage Taken :=
  cluster.given.foldlM (fun taken option => taken.give option.1 option.2)
    { taken with leftOver := taken.leftOver || cluster.leftOver }

/-- Notes a plain word; a second one is left over. -/
def givePlain (taken : Taken) (value : String) : Taken :=
  if taken.plain.isNone then { taken with plain := some value } else { taken with leftOver := true }

/-- What words say beyond what is already taken. A divider is left over when a plain word was taken
before it and does not stand right in front of it. -/
def read (specs : List OptionSpec) (taken : Taken) : List Word → Except Usage Taken
  | [] => .ok taken
  | .unknown :: rest => ({ taken with leftOver := true } : Taken).read specs rest
  | .plain value :: .divider :: rest => (taken.givePlain value).read specs rest
  | .plain value :: rest => (taken.givePlain value).read specs rest
  | .divider :: rest =>
    ({ taken with leftOver := taken.leftOver || taken.plain.isSome } : Taken).read specs rest
  | .option spec attached :: rest => do
    let cluster ← Cluster.read specs spec attached
    match cluster.awaiting, rest with
    | none, rest => (← taken.giveAll cluster).read specs rest
    | some last, .plain value :: rest => do
      let taken ← (← taken.giveAll cluster).give last value
      taken.read specs rest
    | some _, _ => .error .wrong

/-- What the arguments of a command say: its options and one plain word. -/
def ofTexts (specs : List OptionSpec) (texts : List String) : Except Usage Taken :=
  match Word.ofTexts? specs texts with
  | none => .error .wrong
  | some words => ({} : Taken).read specs words

end Taken
end GatewayFlow
