import GatewayFlow.CommandLine

/-!
The program: reads its arguments, its environment, the settings file and the flow file, and prints
and writes what a run comes to.
-/
namespace GatewayFlow.CommandLine

/-- The line that recalls how the program is called. -/
def usageLine : String :=
  "usage: deckflow [-h] [-v] \x7bvalidate,compile\x7d ..."

def readVariables : IO (List (String × String)) := do
  let names := Settings.names.map fun name => Settings.variableStart ++ name
  let found ← (names ++ names.map Text.upper).mapM fun name => do
    let value ← IO.getEnv name
    pure (value.map fun value => (name, value))
  pure (found.filterMap id)

/-- The bytes of a file, or why they cannot be read. -/
def readBytes (path : Path) : IO (Except FileError (List Nat)) := do
  try
    let bytes ← IO.FS.readBinFile path.text
    pure (.ok (bytes.toList.map UInt8.toNat))
  catch
    | .inappropriateType _ code _ => pure (.error (if code = 20 then .notFolder else .isFolder))
    | .noFileOrDirectory .. => pure (.error .missing)
    | e => throw e

/-- Prints what a run comes to, after writing its document. -/
def finish (outcome : Outcome) : IO UInt32 := do
  IO.eprint outcome.errorOutput
  match outcome.written with
  | some (path, text) => IO.FS.writeFile path.text text
  | none => pure ()
  IO.print outcome.output
  pure outcome.exit.toUInt32

end GatewayFlow.CommandLine

open GatewayFlow CommandLine in
def main (arguments : List String) : IO UInt32 := do
  match Invocation.read arguments with
  | .error .help =>
    IO.println usageLine
    pure 0
  | .error .wrong =>
    IO.eprintln usageLine
    pure 2
  | .ok i =>
    let bytes ← readBytes (Path.ofText i.flowFile)
    let s : Surroundings := ⟨.plain, ← readVariables, ← readBytes settingsPath⟩
    match execute s i bytes with
    | .ok outcome => finish outcome
    | .error failure =>
      IO.eprintln (failure.message s.libraries)
      pure 1
