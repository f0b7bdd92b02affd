import GatewayFlow.FlowFile
import GatewayFlow.Generation
import GatewayFlow.Invocation

/-!
# The command line

What a run of the program prints, writes and returns. A flow that does not load is reported with the
message of its failure, a flow that is not valid with its violations, both with exit status 1 and
nothing on the standard output. Log lines from a level on go to the error output with the reports.
-/
namespace GatewayFlow.CommandLine

/-- What a run comes to: a document is written before anything is printed on the standard output.
Both outputs are texts. An output in an encoding that lacks some of their characters, where printing
itself fails, is not described. -/
structure Outcome where
  exit : Nat
  output : String := ""
  errorOutput : String := ""
  written : Option (Path × String) := none
deriving DecidableEq, Repr

/-- The level that a name stands for, as the rank of the first line to be shown. -/
def levelRank? : String → Option Nat
  | "CRITICAL" | "FATAL" => some Level.critical.rank
  | "ERROR" => some Level.error.rank
  | "WARNING" | "WARN" => some Level.warning.rank
  | "INFO" => some Level.info.rank
  | "DEBUG" => some Level.debug.rank
  | "NOTSET" => some 0
  | _ => none

/-- The rank from which on lines are shown under given settings. -/
def thresholdOf (settings : Settings) : Except Failure Nat :=
  let name := Text.upper settings.logLevel
  match levelRank? name with
  | some rank => .ok rank
  | none => .error (.unknownLevel name)

def logText (threshold : Nat) (lines : List LogLine) : String :=
  let shown := lines.filter fun line => threshold ≤ line.level.rank
  String.join (shown.map fun line => line.show ++ "\n")

/-- Whether a failure is reported. Other failures end the run on the spot. -/
def isReported : Failure → Bool
  | .load _ | .invalidFlow _ | .identifier .. | .unknownNode _ | .idsExhausted .. => true
  | _ => false

/-- The report of a failure: one line, unless its message has more. -/
def failureReport (libraries : Libraries) (failure : Failure) : String :=
  s!"ERROR: {failure.message libraries}\n"

def violationReport (errors : List String) : String :=
  let count := counted errors.length "error"
  s!"Flow is invalid ({count}):\n" ++ String.join (errors.map fun message => s!"  - {message}\n")

def reported (threshold : Nat) (lines : List LogLine) (report : String) : Outcome :=
  { exit := 1, errorOutput := logText threshold lines ++ report }

/-- A run that ends with a failure, where failures of that sort are reported. -/
def failed (libraries : Libraries) (threshold : Nat) (lines : List LogLine) (failure : Failure) :
    Except Failure Outcome :=
  if isReported failure then .ok (reported threshold lines (failureReport libraries failure))
  else .error failure

/-- What `validate` comes to for a flow. -/
def validateFlow (threshold : Nat) (lines : List LogLine) (settings : Settings) (flow : Flow) :
    Outcome :=
  let errors := (validate flow.nodes flow.edges settings).errors
  let lines := lines ++ Validation.lines flow.nodes errors
  if errors.isEmpty then
    { exit := 0
      output := s!"Flow is valid ({flow.nodes.length} nodes, {flow.edges.length} edges)\n"
      errorOutput := logText threshold lines }
  else reported threshold lines (violationReport errors)

/-- What is printed when a document has been written. -/
def writtenText (path : Path) (document : Option Document) : String :=
  let count := (document.map Document.entryCount).getD 0
  let sections := ", ".intercalate ((document.map Document.sections).getD [])
  s!"Wrote {path.text} ({count} entries: {sections})\n"

/-- What `compile` comes to for a flow; an empty name of the output stands for the standard
output. -/
def compileFlow (libraries : Libraries) (threshold : Nat) (lines : List LogLine)
    (settings : Settings) (flow : Flow) (output : Option String) (format : OutputFormat) :
    Except Failure Outcome :=
  let generated := generate flow.nodes flow.edges (.text format.name) settings
  let lines := lines ++ generated.lines
  match generated.result with
  | .error failure => failed libraries threshold lines failure
  | .ok g =>
    if g.valid then
      let errorOutput := logText threshold lines
      match given? output with
      | none => .ok { exit := 0, output := g.content, errorOutput }
      | some name =>
        let path := Path.ofText name
        .ok { exit := 0, output := writtenText path g.document, errorOutput,
              written := some (path, g.content) }
    else .ok (reported threshold lines (violationReport g.errors))

/-- What a run finds around it, besides the file of its flow. -/
structure Surroundings where
  libraries : Libraries
  environment : List (String × String)
  /-- The bytes of the settings file. -/
  settingsFile : Except FileError (List Nat)

namespace Surroundings

/-- The variables of the settings file. One that is not there, or is a folder, gives none. -/
def fileVariables (s : Surroundings) : Except Failure (List (String × String)) :=
  match s.settingsFile with
  | .ok bytes => do
    let chars ← (Text.Utf8.decode bytes).mapError Failure.encoding
    pure (s.libraries.assignments s.environment (String.ofList (FlowFile.withLineFeeds chars)))
  | .error _ => .ok []

/-- The settings that a run is to use, unless an argument overrides one. -/
def settings (s : Surroundings) : Except Failure Settings := do
  (Settings.resolve (← s.fileVariables) s.environment []).orFail

end Surroundings

/-- Carries out an invocation on the bytes of its flow file. Settings are read before the flow,
unless every line is to be shown anyway; then they are read after it, and leave a line. -/
def execute (s : Surroundings) (i : Invocation) (bytes : Except FileError (List Nat)) :
    Except Failure Outcome := do
  let resolved := s.settings
  let threshold ← if i.verbose then pure Level.debug.rank else do thresholdOf (← resolved)
  let path := Path.ofText i.flowFile
  -- Only these two mean that there is no such file; other trouble shows when it is loaded.
  match bytes with
  | .error .missing | .error .notFolder =>
    pure (reported threshold [] s!"ERROR: Flow file not found: {path.text}\n")
  | bytes =>
    let loaded := FlowFile.load path bytes
    match loaded.result with
    | .error failure => failed s.libraries threshold loaded.lines failure
    | .ok flow =>
      let settings ← resolved
      let lines := loaded.lines ++ (if i.verbose then [settings.line] else [])
      match i.command with
      | .validate => pure (validateFlow threshold lines settings flow)
      | .compile output format reference =>
        let settings := { settings with routeReference := reference.getD settings.routeReference }
        compileFlow s.libraries threshold lines settings flow output format

def bytesOf (text : String) : List Nat :=
  text.toUTF8.toList.map UInt8.toNat

/-- The settings file of the place where the program runs. -/
def settingsPath : Path := ⟨"", [".env"]⟩

/-- Where the program runs. -/
structure Place where
  libraries : Libraries
  environment : List (String × String)
  files : Files

namespace Place

def surroundings (p : Place) : Surroundings :=
  ⟨p.libraries, p.environment, p.files.read settingsPath⟩

/-- What an invocation comes to, before anything is written. -/
def outcome (p : Place) (i : Invocation) : Except Failure Outcome :=
  execute p.surroundings i (p.files.read (Path.ofText i.flowFile))

end Place

/-- Carries out an invocation in a place, and gives the files after it. -/
def executeIn (p : Place) (i : Invocation) : Except Failure (Outcome × Files) := do
  let outcome ← p.outcome i
  match outcome.written with
  | none => pure (outcome, p.files)
  | some (path, text) =>
    let files ← (p.files.write path (bytesOf text)).mapError fun e => e.failure path
    pure (outcome, files)

end GatewayFlow.CommandLine
