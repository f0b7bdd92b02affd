import GatewayFlow.Arguments
import GatewayFlow.Path
import GatewayFlow.Rendering
import GatewayFlow.Settings

/-!
# Invocations

What a command line asks for: to validate the flow in a file, or to compile it, with the options of
each command. Options of the program stand before the command, those of the command behind it.
-/
namespace GatewayFlow

inductive Command
  | validate
  | compile (output : Option String) (format : OutputFormat) (reference : Option RouteReference)
deriving DecidableEq, Repr

structure Invocation where
  verbose : Bool
  command : Command
  /-- The file of the flow, as it is written. -/
  flowFile : String
deriving DecidableEq, Repr

namespace Invocation

def verboseOption : OptionSpec := ⟨["-v", "--verbose"], .nothing⟩

def outputOption : OptionSpec := ⟨["-o", "--output"], .text⟩

def formatOption : OptionSpec := ⟨["--format"], .oneOf (OutputFormat.all.map OutputFormat.name)⟩

def referenceOption : OptionSpec := ⟨["--route-reference"], .oneOf ["id", "name"]⟩

def programOptions : List OptionSpec := [.help, verboseOption]

/-- A command by its name: its options, and what it makes of those that are given. -/
def commandOf? : String → Option (List OptionSpec × (Taken → Command))
  | "validate" => some ([.help], fun _ => .validate)
  | "compile" =>
    some ([.help, outputOption, formatOption, referenceOption], fun taken =>
      let format := (taken.value? "--format").bind OutputFormat.ofName?
      let reference := (taken.value? "--route-reference").bind RouteReference.ofText?
      .compile (taken.value? "-o") (format.getD .yaml) reference)
  | _ => none

/-- The command and its arguments, behind the options of the program. -/
def readCommand (verbose leftOver : Bool) (name : String) (texts : List String) :
    Except Usage Invocation :=
  match commandOf? name with
  | none => .error .wrong
  | some (specs, command) => do
    let taken ← Taken.ofTexts specs texts
    match taken.plain with
    | some flowFile =>
      if leftOver || taken.leftOver then .error .wrong
      else pure ⟨verbose, command taken, flowFile⟩
    | none => .error .wrong

/-- The invocation of words with their texts; `taken` is what the options so far say. -/
def readFrom (taken : Taken) : List (Word × String) → Except Usage Invocation
  | [] => .error .wrong
  | (.plain name, _) :: rest =>
    readCommand (taken.value? "-v").isSome taken.leftOver name (rest.map Prod.snd)
  | (.divider, _) :: _ => .error .wrong
  | (.unknown, _) :: rest => readFrom { taken with leftOver := true } rest
  | (word@(.option ..), _) :: rest => do
    let taken ← taken.read programOptions [word]
    readFrom taken rest

/-- The invocation of the arguments behind the name of the program. -/
def read (texts : List String) : Except Usage Invocation :=
  match Word.ofTexts? programOptions texts with
  | none => .error .wrong
  | some words => readFrom {} (words.zip texts)

end Invocation
end GatewayFlow
