import GatewayFlow.Generation
import GatewayFlow.Proofs.LoweredDocuments
import Mathlib.Tactic.ByContra

/-!
# Validated flows

Validation looks at every name that lowering can refuse, so a flow that passes it is lowered, and
compiling and generating fail for its violations alone.
-/
namespace GatewayFlow

/-- A service or a route whose name, or its id where it has none, is no identifier. -/
def Lowering.Refused (settings : Settings) (n : Node) : Prop :=
  (n.kind = .service ∨ n.kind = .route) ∧
    ∃ problem,
      Identifier.problem? settings.identifierMaxLength (.text n.displayName) = some problem

/-! ### Refused names -/

namespace Lowering

theorem nameFailure?_eq_none (settings : Settings) (n : Node) :
    nameFailure? settings n = none ↔ ¬Refused settings n := by
  cases kind : n.attributes <;>
    simp [nameFailure?, Refused, Node.kind, Attributes.kind, Node.displayName, Attributes.name?,
      Identifier.problem?, kind, Option.eq_none_iff_forall_ne_some]

end Lowering

namespace Validation

theorem errors_eq_nil (nodes : List Node) (edges : List Edge) (settings : Settings) :
    errors nodes edges settings = [] ↔
      nodes ≠ [] ∧ ∀ n ∈ nodes, nodeErrors (Index.build nodes edges) settings n = [] := by
  unfold errors
  split
  next empty => simp_all
  next some => simp_all [List.flatMap_eq_nil_iff]

theorem nameErrors_eq_nil (label : String) (settings : Settings) (name : String) :
    nameErrors label settings name = [] ↔
      Identifier.textProblem? settings.identifierMaxLength name = none := by
  unfold nameErrors
  split <;> simp_all

/-- A name that lowering refuses is a violation of its node. -/
theorem nodeErrors_of_refused (index : Index) (settings : Settings) (n : Node)
    (refused : Lowering.Refused settings n) : nodeErrors index settings n ≠ [] := by
  obtain ⟨kind, problem, found⟩ := refused
  intro clean
  cases attributes : n.attributes with
  | service a =>
    simp only [nodeErrors, attributes, serviceErrors, List.append_eq_nil_iff] at clean
    -- A service is asked for its own name; lowering would fall back on the id where it has none.
    obtain ⟨⟨named, -⟩, accepted⟩ := clean
    cases given : given? a.name with
    | none => simp [given] at named
    | some name =>
      simp only [given, Option.map_some, Option.getD_some, nameErrors_eq_nil] at accepted
      simp [Identifier.problem?, Node.displayName, Attributes.name?, attributes, givenOr, given,
        accepted] at found
  | route a =>
    simp only [nodeErrors, attributes, routeErrors, List.append_eq_nil_iff,
      nameErrors_eq_nil] at clean
    simp [Identifier.problem?, Node.displayName, Attributes.name?, attributes, clean.2] at found
  | _ => simp [Node.kind, Attributes.kind, attributes] at kind

/-- No name of a flow without violations is refused. -/
theorem nameFailure?_of_valid {nodes : List Node} {edges : List Edge} {settings : Settings}
    (valid : errors nodes edges settings = []) (n : Node) (member : n ∈ nodes) :
    Lowering.nameFailure? settings n = none := by
  rw [Lowering.nameFailure?_eq_none]
  intro refused
  exact nodeErrors_of_refused (Index.build nodes edges) settings n refused
    (((errors_eq_nil nodes edges settings).mp valid).2 n member)

end Validation

theorem validate_valid (nodes : List Node) (edges : List Edge) (settings : Settings) :
    (validate nodes edges settings).valid = true ↔
      Validation.errors nodes edges settings = [] := by
  simp [validate, Verdict.valid, Verdict.ofErrors]

/-- A flow without violations is lowered to the entries of all its nodes. -/
theorem lower_of_valid {nodes : List Node} {edges : List Edge} {settings : Settings}
    (valid : Validation.errors nodes edges settings = []) :
    (lower nodes edges settings).result = .ok (Lowering.document nodes edges settings) :=
  (lower_eq_ok nodes edges settings _).mpr
    ⟨fun n member => Validation.nameFailure?_of_valid valid n member, rfl⟩

/-! ### Entries of valid flows -/

namespace Lowering

variable {nodes : List Node} {edges : List Edge} {settings : Settings}

/-- The host of a service of a valid flow is given, so its entry never has the placeholder. -/
theorem host_of_valid (valid : Validation.errors nodes edges settings = []) {n : Node}
    (member : n ∈ nodes) {a : ServiceAttributes} (attributes : n.attributes = .service a)
    (name : String) : given? a.host = some (serviceEntry settings name a).host := by
  have clean := ((Validation.errors_eq_nil nodes edges settings).mp valid).2 n member
  simp only [Validation.nodeErrors, attributes, Validation.serviceErrors,
    List.append_eq_nil_iff] at clean
  obtain ⟨⟨-, hosted⟩, -⟩ := clean
  cases given : given? a.host with
  | none => simp [given] at hosted
  | some host => simp only [serviceEntry, givenOr, given, Option.getD_some]

/-- A consumer of a valid flow is known by what it has, and its id does not come in. -/
theorem consumer_of_valid (valid : Validation.errors nodes edges settings = []) {n : Node}
    (member : n ∈ nodes) {a : ConsumerAttributes} (attributes : n.attributes = .consumer a) :
    consumer n.id a = ⟨given? a.username, given? a.customId⟩ := by
  have clean := ((Validation.errors_eq_nil nodes edges settings).mp valid).2 n member
  simp only [Validation.nodeErrors, attributes, Validation.consumerErrors] at clean
  split at clean
  next => cases clean
  next known => rw [consumer, if_neg known]

end Lowering

/-! ### Compiling and generating -/

theorem OutputFormat.read_name (format : OutputFormat) :
    OutputFormat.read (.text format.name) = .ok format := by
  cases format <;> rfl

theorem generate_result (nodes : List Node) (edges : List Edge) (format : OutputFormat)
    (settings : Settings) :
    (generate nodes edges (.text format.name) settings).result =
      if Validation.errors nodes edges settings = [] then
        let d := Lowering.document nodes edges settings
        .ok ⟨[], some d, d.serialize format⟩
      else .ok ⟨Validation.errors nodes edges settings, none, ""⟩ := by
  rw [generate, Logged.result_bind]
  by_cases valid : Validation.errors nodes edges settings = []
  · have lowered := lower_of_valid valid
    simp [valid, lowered, OutputFormat.read_name]
  · simp [valid]

end GatewayFlow
