import GatewayFlow.Proofs.LoadFailures
import GatewayFlow.Proofs.ValidatedFlows

/-!
# Agreement of the commands

Both commands take the same way up to the flow, and ask the same of it: how routes refer to services
does not count in validation, and what passes validation is lowered and rendered. So `compile`
refuses exactly the flows that `validate` refuses, with the same report, and has not touched a file
by then.
-/
namespace GatewayFlow

/-! ### Validation under either command -/

/-- Of the settings only the length of identifiers counts in validation. -/
theorem Validation.errors_congr (nodes : List Node) (edges : List Edge) {settings other : Settings}
    (same : settings.identifierMaxLength = other.identifierMaxLength) :
    errors nodes edges settings = errors nodes edges other := by
  have names (label : String) : nameErrors label settings = nameErrors label other := by
    funext name
    rw [nameErrors, nameErrors, same]
  have alike : nodeErrors (Index.build nodes edges) settings =
      nodeErrors (Index.build nodes edges) other := by
    funext n
    simp only [nodeErrors, routeErrors, serviceErrors, names]
  rw [errors, errors, alike]

theorem Validation.errors_of_reference (nodes : List Node) (edges : List Edge)
    (settings : Settings) (reference : RouteReference) :
    errors nodes edges { settings with routeReference := reference } =
      errors nodes edges settings :=
  errors_congr nodes edges rfl

/-- The line that a flow leaves when it is to be generated and is not valid. -/
def Validation.refusalLine (errors : List String) : LogLine :=
  ⟨.info, .generation, s!"Flow not generated: {errors.length} validation error(s)"⟩

theorem generate_of_invalid {nodes : List Node} {edges : List Edge} {settings : Settings}
    (invalid : Validation.errors nodes edges settings ≠ []) (format : Value) :
    let found := Validation.errors nodes edges settings
    generate nodes edges format settings =
      ⟨Validation.lines nodes found ++ [Validation.refusalLine found], .ok ⟨found, none, ""⟩⟩ := by
  intro found
  have violated : found.isEmpty = false := by simpa using invalid
  rw [generate]
  -- The lines matter here as well, so the steps are followed as they stand.
  change (Logged.bind _ fun _ => if found.isEmpty = true then _ else _) = _
  simp only [violated]
  rfl

namespace CommandLine

/-! ### What becomes of a flow -/

/-- What a command comes to for a flow that was loaded. -/
def carriedOut (libraries : Libraries) (threshold : Nat) (lines : List LogLine)
    (settings : Settings) (flow : Flow) : Command → Except Failure Outcome
  | .validate => .ok (validateFlow threshold lines settings flow)
  | .compile output format reference =>
    let settings := { settings with routeReference := reference.getD settings.routeReference }
    compileFlow libraries threshold lines settings flow output format

variable (libraries : Libraries) (threshold : Nat) (lines : List LogLine) {settings : Settings}
  {flow : Flow}

theorem validateFlow_of_invalid
    (invalid : Validation.errors flow.nodes flow.edges settings ≠ []) :
    let found := Validation.errors flow.nodes flow.edges settings
    validateFlow threshold lines settings flow =
      reported threshold (lines ++ Validation.lines flow.nodes found) (violationReport found) := by
  intro found
  have violated : ¬(validate flow.nodes flow.edges settings).errors.isEmpty = true := by
    simpa [validate, Verdict.ofErrors] using invalid
  rw [validateFlow, if_neg violated]
  rfl

theorem validateFlow_of_valid (valid : Validation.errors flow.nodes flow.edges settings = []) :
    (validateFlow threshold lines settings flow).exit = 0 ∧
      (validateFlow threshold lines settings flow).written = none := by
  have clean : (validate flow.nodes flow.edges settings).errors.isEmpty = true := by
    simpa [validate, Verdict.ofErrors] using valid
  rw [validateFlow, if_pos clean]
  exact ⟨rfl, rfl⟩

theorem compileFlow_of_invalid
    (invalid : Validation.errors flow.nodes flow.edges settings ≠ []) (output : Option String)
    (format : OutputFormat) :
    let found := Validation.errors flow.nodes flow.edges settings
    compileFlow libraries threshold lines settings flow output format = .ok (reported threshold
      (lines ++ Validation.lines flow.nodes found ++ [Validation.refusalLine found])
      (violationReport found)) := by
  intro found
  have violated : ¬(Generated.mk found none "").valid = true := by
    simpa [Generated.valid] using invalid
  rw [compileFlow, generate_of_invalid invalid]
  dsimp only
  rw [if_neg violated, List.append_assoc]

/-- What passes validation is lowered and rendered; the text is printed or written. -/
theorem compileFlow_of_valid (valid : Validation.errors flow.nodes flow.edges settings = [])
    (output : Option String) (format : OutputFormat) :
    let text := (Lowering.document flow.nodes flow.edges settings).serialize format
    ∃ outcome, compileFlow libraries threshold lines settings flow output format = .ok outcome ∧
      outcome.exit = 0 ∧
      outcome.written = (given? output).map (fun name => (Path.ofText name, text)) ∧
      (given? output = none → outcome.output = text) := by
  intro text
  have generated := generate_result flow.nodes flow.edges format settings
  rw [if_pos valid] at generated
  rw [compileFlow]
  dsimp only
  rw [generated]
  simp only [Generated.valid, List.isEmpty_nil, if_true]
  cases given? output with
  | none => exact ⟨_, rfl, rfl, rfl, fun _ => rfl⟩
  | some name => exact ⟨_, rfl, rfl, rfl, by simp⟩

/-! ### One way for both commands -/

section

variable (s : Surroundings) (i : Invocation) {bytes : Except FileError (List Nat)}
  {threshold : Nat}

theorem execute_of_hidden {failure : Failure} (hidden : shownFrom s i = .error failure) :
    execute s i bytes = .error failure := by
  rw [execute]
  refine (shownFrom_bind s i _).trans ?_
  rw [hidden, error_bind]

theorem execute_of_absent (shown : shownFrom s i = .ok threshold)
    (absent : bytes = .error .missing ∨ bytes = .error .notFolder) :
    execute s i bytes = .ok (reported threshold []
      s!"ERROR: Flow file not found: {(Path.ofText i.flowFile).text}\n") := by
  rw [execute]
  refine (shownFrom_bind s i _).trans ?_
  rw [shown, ok_bind]
  rcases absent with rfl | rfl <;> rfl

/-- A flow that was loaded is all that the command is about. -/
theorem execute_of_loaded {flow : Flow} (shown : shownFrom s i = .ok threshold)
    (loaded : (FlowFile.load (Path.ofText i.flowFile) bytes).result = .ok flow) :
    execute s i bytes = (do
      let settings ← s.settings
      let lines := (FlowFile.load (Path.ofText i.flowFile) bytes).lines ++
        (if i.verbose then [settings.line] else [])
      carriedOut s.libraries threshold lines settings flow i.command) := by
  rw [execute]
  refine (shownFrom_bind s i _).trans ?_
  rw [shown, ok_bind]
  dsimp only
  split
  · cases loaded
  · cases loaded
  · rw [loaded]
    cases i.command <;> rfl

end

/-- What any command comes to: it fails or is reported before the flow is looked at, the same way
for all commands, or it is carried out for the flow that was loaded. -/
inductive SharedWay (s : Surroundings) (verbose : Bool) (flowFile : String)
    (bytes : Except FileError (List Nat)) : Prop
  | fails (failure : Failure)
    (ran : ∀ command, execute s ⟨verbose, command, flowFile⟩ bytes = .error failure)
  | isReported (threshold : Nat) (lines : List LogLine) (report : String)
    (ran : ∀ command, execute s ⟨verbose, command, flowFile⟩ bytes =
      .ok (reported threshold lines report))
  | loads (threshold : Nat) (lines : List LogLine) (settings : Settings) (flow : Flow)
    (ran : ∀ command, execute s ⟨verbose, command, flowFile⟩ bytes =
      carriedOut s.libraries threshold lines settings flow command)

theorem shared_way (s : Surroundings) (verbose : Bool) (flowFile : String)
    (bytes : Except FileError (List Nat)) : SharedWay s verbose flowFile bytes := by
  cases shown : shownFrom s ⟨verbose, .validate, flowFile⟩ with
  | error failure => exact .fails failure fun command => execute_of_hidden s _ shown
  | ok threshold =>
    -- Up to the flow the steps look at the bytes alone, whatever the command is.
    by_cases there : bytes ≠ .error .missing ∧ bytes ≠ .error .notFolder
    · cases loaded : (FlowFile.load (Path.ofText flowFile) bytes).result with
      | error failure =>
        have ran (command : Command) : execute s ⟨verbose, command, flowFile⟩ bytes =
            failed s.libraries threshold (FlowFile.load (Path.ofText flowFile) bytes).lines
              failure :=
          execute_of_load_failure s _ shown there loaded
        rw [failed] at ran
        split at ran
        · exact .isReported threshold _ _ ran
        · exact .fails failure ran
      | ok flow =>
        have ran (command : Command) :=
          execute_of_loaded s ⟨verbose, command, flowFile⟩ shown loaded
        cases resolved : s.settings with
        | error failure =>
          refine .fails failure fun command => ?_
          rw [ran, resolved, error_bind]
        | ok settings =>
          refine .loads threshold ((FlowFile.load (Path.ofText flowFile) bytes).lines ++
            (if verbose then [settings.line] else [])) settings flow fun command => ?_
          rw [ran, resolved, ok_bind]
    · have absent : bytes = .error .missing ∨ bytes = .error .notFolder :=
        (not_and_or.mp there).imp not_not.mp not_not.mp
      exact .isReported threshold []
        s!"ERROR: Flow file not found: {(Path.ofText flowFile).text}\n" fun command =>
          execute_of_absent s ⟨verbose, command, flowFile⟩ shown absent

/-! ### Runs among files -/

/-- The run ends with exit status 0. -/
def Succeeds (place : Place) (i : Invocation) : Prop :=
  ∃ outcome after, executeIn place i = .ok (outcome, after) ∧ outcome.exit = 0

/-- A failure ends the run before a file is written, or the run is reported with exit status 1: it
prints no result, and the files stay as they are. -/
def Refused (place : Place) (i : Invocation) : Prop :=
  (∃ failure, place.outcome i = .error failure) ∨
    ∃ outcome, executeIn place i = .ok (outcome, place.files) ∧ outcome.exit = 1 ∧
      outcome.output = ""

section

variable {place : Place} {i : Invocation}

theorem executeIn_of_unwritten {outcome : Outcome} (ran : place.outcome i = .ok outcome)
    (unwritten : outcome.written = none) :
    executeIn place i = .ok (outcome, place.files) := by
  rw [executeIn, ran, ok_bind, unwritten]
  rfl

/-- Writing is all that can fail once a run has come to its outcome. -/
theorem executeIn_of_written {outcome : Outcome} {path : Path} {text : String}
    (ran : place.outcome i = .ok outcome) (written : outcome.written = some (path, text)) :
    (∃ after, executeIn place i = .ok (outcome, after)) ∨
      ∃ e, executeIn place i = .error (FileError.failure e path) := by
  rw [executeIn, ran, ok_bind, written]
  dsimp only
  cases place.files.write path (bytesOf text) with
  | ok after => exact .inl ⟨after, rfl⟩
  | error e => exact .inr ⟨e, rfl⟩

theorem Refused.of_reported {threshold : Nat} {lines : List LogLine} {report : String}
    (ran : place.outcome i = .ok (reported threshold lines report)) : Refused place i :=
  .inr ⟨_, executeIn_of_unwritten ran rfl, rfl, rfl⟩

theorem Refused.not_succeeds (refused : Refused place i) : ¬Succeeds place i := by
  rintro ⟨outcome, after, ran, exit⟩
  rcases refused with ⟨failure, failed⟩ | ⟨other, ran', exit', -⟩
  · rw [executeIn, failed, error_bind] at ran
    cases ran
  · rw [ran'] at ran
    cases ran
    omega

end

/-! ### Both commands for one flow -/

section

variable {place : Place} {verbose : Bool} {flowFile : String} {threshold : Nat}
  {lines : List LogLine} {settings : Settings} {flow : Flow}
  (ran : ∀ command, place.outcome ⟨verbose, command, flowFile⟩ =
    carriedOut place.libraries threshold lines settings flow command)

include ran

theorem validate_succeeds (valid : Validation.errors flow.nodes flow.edges settings = []) :
    Succeeds place ⟨verbose, .validate, flowFile⟩ := by
  obtain ⟨exit, unwritten⟩ := validateFlow_of_valid threshold lines valid
  exact ⟨_, place.files, executeIn_of_unwritten (ran .validate) unwritten, exit⟩

/-- The settings of a compilation differ from those of a validation in the reference alone. -/
theorem compile_succeeds (valid : Validation.errors flow.nodes flow.edges settings = [])
    (output : Option String) (format : OutputFormat) (reference : Option RouteReference) :
    let i : Invocation := ⟨verbose, .compile output format reference, flowFile⟩
    Succeeds place i ∨ ∃ name e, given? output = some name ∧
      executeIn place i = .error (FileError.failure e (Path.ofText name)) := by
  intro i
  -- The flow is compiled under the reference of the command, which does not make it invalid.
  rw [← Validation.errors_of_reference _ _ _ (reference.getD settings.routeReference)] at valid
  obtain ⟨outcome, compiled, exit, written, -⟩ :=
    compileFlow_of_valid place.libraries threshold lines valid output format
  have outcome_of : place.outcome i = .ok outcome :=
    (ran (.compile output format reference)).trans compiled
  cases named : given? output with
  | none =>
    rw [named] at written
    exact .inl ⟨outcome, place.files, executeIn_of_unwritten outcome_of written, exit⟩
  | some name =>
    rw [named] at written
    rcases executeIn_of_written outcome_of written with ⟨after, done⟩ | ⟨e, failed⟩
    · exact .inl ⟨outcome, after, done, exit⟩
    · exact .inr ⟨name, e, rfl, failed⟩

theorem both_report (invalid : Validation.errors flow.nodes flow.edges settings ≠ []) :
    let found := Validation.errors flow.nodes flow.edges settings
    let noted := lines ++ Validation.lines flow.nodes found
    place.outcome ⟨verbose, .validate, flowFile⟩ =
        .ok (reported threshold noted (violationReport found)) ∧
      ∀ output format reference,
        place.outcome ⟨verbose, .compile output format reference, flowFile⟩ =
          .ok (reported threshold (noted ++ [Validation.refusalLine found])
            (violationReport found)) := by
  intro found noted
  refine ⟨?_, fun output format reference => ?_⟩
  · rw [ran, carriedOut, validateFlow_of_invalid threshold lines invalid]
  · have alike := Validation.errors_of_reference flow.nodes flow.edges settings
      (reference.getD settings.routeReference)
    have compiled := compileFlow_of_invalid place.libraries threshold lines
      (alike.trans_ne invalid) output format
    simp only [alike] at compiled
    exact (ran _).trans compiled

end

/-- The rank from which on lines are shown does not depend on the command. -/
theorem outcome_of_loaded {place : Place} {verbose : Bool} {flowFile : String} {threshold : Nat}
    {settings : Settings} {flow : Flow}
    (shown : shownFrom place.surroundings ⟨verbose, .validate, flowFile⟩ = .ok threshold)
    (resolved : place.surroundings.settings = .ok settings)
    (loaded : (FlowFile.load (Path.ofText flowFile)
      (place.files.read (Path.ofText flowFile))).result = .ok flow) (command : Command) :
    place.outcome ⟨verbose, command, flowFile⟩ =
      carriedOut place.libraries threshold
        ((FlowFile.load (Path.ofText flowFile) (place.files.read (Path.ofText flowFile))).lines ++
          (if verbose then [settings.line] else [])) settings flow command := by
  have carried := execute_of_loaded place.surroundings ⟨verbose, command, flowFile⟩ shown loaded
  rw [resolved, ok_bind] at carried
  exact carried

/-- Either the flow does not get past validation, or nothing but the output can go wrong. -/
theorem both_refused_or_succeed (place : Place) (verbose : Bool) (flowFile : String)
    (format : OutputFormat) (reference : Option RouteReference) :
    let validating : Invocation := ⟨verbose, .validate, flowFile⟩
    let compiling (output : Option String) : Invocation :=
      ⟨verbose, .compile output format reference, flowFile⟩
    (Refused place validating ∧ ∀ output, Refused place (compiling output)) ∨
    Succeeds place validating ∧ ∀ output,
      Succeeds place (compiling output) ∨
      ∃ name e, given? output = some name ∧
        executeIn place (compiling output) =
          .error (FileError.failure e (Path.ofText name)) := by
  intro validating compiling
  cases shared_way place.surroundings verbose flowFile
    (place.files.read (Path.ofText flowFile)) with
  | fails failure ran => exact .inl ⟨.inl ⟨_, ran _⟩, fun _ => .inl ⟨_, ran _⟩⟩
  | isReported threshold lines report ran =>
    exact .inl ⟨.of_reported (ran _), fun _ => .of_reported (ran _)⟩
  | loads threshold lines settings flow ran =>
    by_cases valid : Validation.errors flow.nodes flow.edges settings = []
    · exact .inr ⟨validate_succeeds ran valid,
        fun output => compile_succeeds ran valid output format reference⟩
    · obtain ⟨validated, compiled⟩ := both_report ran valid
      exact .inl ⟨.of_reported validated, fun _ => .of_reported (compiled ..)⟩

/-- The commands agree. Where `validate` does not succeed, `compile` does not either, in whatever
format, with whatever reference and wherever its output goes: neither prints a result nor touches a
file. Where `validate` succeeds, `compile` succeeds as well, unless the file of its output cannot be
written. A flow that is loaded and is not valid gets the same report from both, behind the lines
that are shown; `compile` notes one line more. -/
theorem commands_agree (place : Place) (verbose : Bool) (flowFile : String)
    (format : OutputFormat) (reference : Option RouteReference) :
    let path := Path.ofText flowFile
    let validating : Invocation := ⟨verbose, .validate, flowFile⟩
    let compiling (output : Option String) : Invocation :=
      ⟨verbose, .compile output format reference, flowFile⟩
    (Succeeds place validating ↔ Succeeds place (compiling none)) ∧
    (¬Succeeds place validating → Refused place validating ∧
      ∀ output, Refused place (compiling output)) ∧
    (Succeeds place validating → ∀ output,
      Succeeds place (compiling output) ∨
      ∃ name e, given? output = some name ∧
        executeIn place (compiling output) =
          .error (FileError.failure e (Path.ofText name))) ∧
    ∀ threshold settings flow, shownFrom place.surroundings validating = .ok threshold →
      place.surroundings.settings = .ok settings →
      (FlowFile.load path (place.files.read path)).result = .ok flow →
      let found := Validation.errors flow.nodes flow.edges settings
      let noted := (FlowFile.load path (place.files.read path)).lines ++
        (if verbose then [settings.line] else []) ++ Validation.lines flow.nodes found
      (Succeeds place validating ↔ found = []) ∧
      (found ≠ [] →
        executeIn place validating =
          .ok (reported threshold noted (violationReport found), place.files) ∧
        ∀ output, executeIn place (compiling output) =
          .ok (reported threshold (noted ++ [Validation.refusalLine found])
            (violationReport found), place.files)) := by
  intro path validating compiling
  have dichotomy := both_refused_or_succeed place verbose flowFile format reference
  refine ⟨?_, fun fails => ?_, fun succeeds => ?_, ?_⟩
  · rcases dichotomy with ⟨refused, refusedAll⟩ | ⟨succeeds, written⟩
    · exact iff_of_false refused.not_succeeds (refusedAll none).not_succeeds
    · -- Without a name for the output there is nothing to write.
      refine iff_of_true succeeds ((written none).resolve_right ?_)
      rintro ⟨name, e, named, -⟩
      cases named
  · exact dichotomy.resolve_right fun both => fails both.1
  · exact (dichotomy.resolve_left fun both => both.1.not_succeeds succeeds).2
  · intro threshold settings flow shown resolved loaded found noted
    have ran := outcome_of_loaded shown resolved loaded
    refine ⟨⟨fun succeeds => ?_, validate_succeeds ran⟩, fun invalid => ?_⟩
    · by_contra invalid
      exact (Refused.of_reported (both_report ran invalid).1).not_succeeds succeeds
    · obtain ⟨validated, compiled⟩ := both_report ran invalid
      exact ⟨executeIn_of_unwritten validated rfl,
        fun output => executeIn_of_unwritten (compiled output format reference) rfl⟩

/-- A flow with a service whose name has eight letters. -/
def paymentsFlow : Flow where
  nodes := [⟨"billing", .service { name := some "payments", host := some "h" }, by decide⟩]
  edges := []
  distinct := by decide

/-- The text of that flow in a file. -/
def paymentsText : String :=
  "\x7b\"nodes\":[\x7b\"id\":\"billing\",\"kind\":\"service\",\"attributes\":" ++
    "\x7b\"name\":\"payments\",\"host\":\"h\"\x7d\x7d]\x7d"

/-- A place where the settings file allows names of four letters, and lines are shown from `info`
on. -/
def shortNamesPlace : Place where
  libraries := .plain
  environment := [("DECKFLOW_LOG_LEVEL", "info")]
  files :=
    [([".env"], .file ("deckflow_identifier_max_length = 4".toList.map Char.toNat)),
      (["flow.json"], .file (paymentsText.toList.map Char.toNat))]

/-- The name is too long there: both commands report it, `compile` behind the line that it notes,
and no file is written. -/
theorem commands_agree_on_shortNamesPlace :
    let path := Path.ofText "flow.json"
    let validating : Invocation := ⟨false, .validate, "flow.json"⟩
    let report := "Flow is invalid (1 error):\n" ++
      "  - Service 'payments' has an invalid name: is too long (max 4 characters)\n"
    let refusal := "INFO deckflow.compiler.compiler: Flow not generated: 1 validation error(s)\n"
    shownFrom shortNamesPlace.surroundings validating = .ok Level.info.rank ∧
      shortNamesPlace.surroundings.settings =
        .ok { identifierMaxLength := 4, logLevel := "info" } ∧
      (FlowFile.load path (shortNamesPlace.files.read path)).result = .ok paymentsFlow ∧
      executeIn shortNamesPlace validating =
        .ok ({ exit := 1, errorOutput := report }, shortNamesPlace.files) ∧
      ∀ output, executeIn shortNamesPlace
          ⟨false, .compile output .json (some .name), "flow.json"⟩ =
        .ok ({ exit := 1, errorOutput := refusal ++ report }, shortNamesPlace.files) := by
  intro path validating report refusal
  have shown : shownFrom shortNamesPlace.surroundings validating = .ok Level.info.rank := by rfl
  have resolved : shortNamesPlace.surroundings.settings =
      .ok { identifierMaxLength := 4, logLevel := "info" } := by rfl
  have stored : shortNamesPlace.files.read path = .ok (paymentsText.toList.map Char.toNat) := by
    simp only [path, ofText_flowJson]
    decide +kernel
  have given : FlowFile.read path (.ok (paymentsText.toList.map Char.toNat)) =
      .ok (.record [("nodes", .list [.record [("id", .text "billing"), ("kind", .text "service"),
        ("attributes", .record [("name", .text "payments"), ("host", .text "h")])]])]) :=
    FlowFile.read_of_text isYaml_flowJson paymentsText rfl (by decide +kernel) (by cbv)
  have lines : FlowFile.load path (shortNamesPlace.files.read path) =
      ⟨[⟨.debug, .loading, "Loaded flow with 1 node(s) and 0 edge(s)"⟩], .ok paymentsFlow⟩ := by
    rw [stored, FlowFile.load, given]
    rfl
  have loaded : (FlowFile.load path (shortNamesPlace.files.read path)).result =
      .ok paymentsFlow := by
    rw [lines]
  have found : Validation.errors paymentsFlow.nodes paymentsFlow.edges
      { identifierMaxLength := 4, logLevel := "info" } =
      ["Service 'payments' has an invalid name: is too long (max 4 characters)"] := by
    rfl
  have reports := ((commands_agree shortNamesPlace false "flow.json" .json
    (some .name)).2.2.2 _ _ _ shown resolved loaded).2 (by simp [found])
  rw [lines, found] at reports
  exact ⟨shown, resolved, loaded, reports⟩

end CommandLine
end GatewayFlow
