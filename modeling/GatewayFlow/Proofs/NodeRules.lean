import GatewayFlow.Proofs.IndexScans
import GatewayFlow.Proofs.SanitizedText
import GatewayFlow.Validation

/-!
# Rules for nodes

What a node has to meet, stated over the plain lists of a flow. Each kind has its rules in an order;
validation finds the rules that are broken, all of them, each once, and in this order.
-/
namespace GatewayFlow

/-- An attribute that is null or empty. -/
def Absent (text : Option String) : Prop :=
  text = none ∨ text = some ""

instance (text : Option String) : Decidable (Absent text) :=
  inferInstanceAs (Decidable (_ ∨ _))

theorem given?_eq_none (text : Option String) : given? text = none ↔ Absent text := by
  cases text <;> simp [given?, Absent]

theorem given?_eq_some (text : Option String) (s : String) :
    given? text = some s ↔ text = some s ∧ s ≠ "" := by
  cases text with
  | none => simp [given?]
  | some t =>
    by_cases empty : t = ""
    · subst empty
      simp [given?]
    · simp only [given?, String.isEmpty_iff, empty, if_false, Option.some.injEq]
      exact ⟨fun same => ⟨same, same ▸ empty⟩, And.left⟩

/-- A name of safe characters, not too long, that does not start with a hyphen. -/
def Identifier.Accepts (limit : Int) (s : String) : Prop :=
  s.toList ≠ [] ∧ (∀ c ∈ s.toList, isMember c = true) ∧ s.toList.head? ≠ some '-' ∧
    s.toList.length ≤ limit

instance (limit : Int) (s : String) : Decidable (Identifier.Accepts limit s) :=
  decidable_of_iff (Identifier.textProblem? limit s = none)
    (Identifier.textProblem?_eq_none limit s)

def Attributes.host? : Attributes → Option String
  | .service a => a.host
  | _ => none

def Attributes.username? : Attributes → Option String
  | .consumer a => a.username
  | _ => none

def Attributes.customId? : Attributes → Option String
  | .consumer a => a.customId
  | _ => none

namespace Validation

/-- What a node is held to. -/
inductive Rule
  | leadsToService
  | routeName
  | hasName
  | hasHost
  | serviceName
  | hasIdentity
deriving DecidableEq, Repr

/-- The rules for the nodes of a kind, in the order in which they are checked. -/
def Rule.ofKind : Kind → List Rule
  | .route => [leadsToService, routeName]
  | .service => [hasName, hasHost, serviceName]
  | .consumer => [hasIdentity]
  | .plugin | .upstream | .target | .certificate | .sni => []

/-- An edge of the list leads from an id to a service of the flow. -/
def LeadsToService (nodes : List Node) (edges : List Edge) (id : String) : Prop :=
  ∃ e ∈ edges, e.source = id ∧ ∃ target ∈ nodes, target.id = e.target ∧ target.kind = .service

instance (nodes : List Node) (edges : List Edge) (id : String) :
    Decidable (LeadsToService nodes edges id) :=
  inferInstanceAs (Decidable (∃ e ∈ edges, _))

/-- When a node breaks a rule. -/
def Rule.Broken (nodes : List Node) (edges : List Edge) (limit : Int) (n : Node) : Rule → Prop
  | leadsToService => ¬LeadsToService nodes edges n.id
  | routeName => ¬Identifier.Accepts limit n.displayName
  | hasName => Absent n.attributes.name?
  | hasHost => Absent n.attributes.host?
  | serviceName => ¬Absent n.attributes.name? ∧ ¬Identifier.Accepts limit n.displayName
  | hasIdentity => Absent n.attributes.username? ∧ Absent n.attributes.customId?

instance (nodes : List Node) (edges : List Edge) (limit : Int) (n : Node) :
    DecidablePred (Rule.Broken nodes edges limit n)
  | .leadsToService | .routeName => inferInstanceAs (Decidable (¬_))
  | .hasName | .hasHost => inferInstanceAs (Decidable (Absent _))
  | .serviceName | .hasIdentity => inferInstanceAs (Decidable (_ ∧ _))

/-- What is said about a name that is no identifier: the first thing that is wrong with it. -/
def misnamed (label : String) (limit : Int) (name : String) : String :=
  let complaint := ((Identifier.textProblem? limit name).map Identifier.Problem.message).getD ""
  s!"{label} '{name}' has an invalid name: {complaint}"

/-- What is said about a node that breaks a rule. -/
def Rule.message (limit : Int) (n : Node) : Rule → String
  | leadsToService => s!"Route '{n.displayName}' must be connected to a Service."
  | routeName => misnamed "Route" limit n.displayName
  | hasName => s!"Service '{n.id}' is missing a name."
  | hasHost => s!"Service '{n.displayName}' is missing a host."
  | serviceName => misnamed "Service" limit n.displayName
  | hasIdentity => s!"Consumer '{n.id}' must have either username or custom_id."

/-- The rules that a node breaks. -/
def brokenRules (nodes : List Node) (edges : List Edge) (settings : Settings) (n : Node) :
    List Rule :=
  (Rule.ofKind n.kind).filter fun rule =>
    decide (rule.Broken nodes edges settings.identifierMaxLength n)

/-- What is said about a node, rule by rule. -/
def violations (nodes : List Node) (edges : List Edge) (settings : Settings) (n : Node) :
    List String :=
  (brokenRules nodes edges settings n).map (Rule.message settings.identifierMaxLength n)

/-! ### Checks against rules -/

theorem nameErrors_eq (label : String) (settings : Settings) (name : String) :
    nameErrors label settings name =
      if Identifier.Accepts settings.identifierMaxLength name then []
      else [misnamed label settings.identifierMaxLength name] := by
  have accepts : Identifier.textProblem? settings.identifierMaxLength name = none ↔
      Identifier.Accepts settings.identifierMaxLength name := Identifier.textProblem?_eq_none _ _
  cases found : Identifier.textProblem? settings.identifierMaxLength name with
  | none => rw [if_pos (accepts.mp found), nameErrors, found]
  | some problem =>
    have refused : ¬Identifier.Accepts settings.identifierMaxLength name := fun accepted => by
      rw [accepts.mpr accepted] at found
      cases found
    rw [if_neg refused, nameErrors, misnamed, found]
    rfl

variable {nodes : List Node} {edges : List Edge}

theorem any_service_iff (distinct : (nodes.map Node.id).Nodup) (id : String) :
    (((Index.build nodes edges).edgesFrom id).any fun e =>
      (Index.build nodes edges).kindOf? e.target == some .service) = true ↔
      LeadsToService nodes edges id := by
  simp only [Index.build_edgesFrom, List.any_eq_true, List.mem_filter, beq_iff_eq, Index.kindOf?,
    Option.map_eq_some_iff, Index.build_node?_eq_some distinct, LeadsToService, and_assoc]

theorem routeErrors_eq (distinct : (nodes.map Node.id).Nodup) (settings : Settings) {n : Node}
    {a : RouteAttributes} (route : n.attributes = .route a) :
    routeErrors (Index.build nodes edges) settings n a = violations nodes edges settings n := by
  have kind : n.kind = .route := congrArg Attributes.kind route
  have name : n.displayName = givenOr a.name n.id := by
    rw [Node.displayName, route, Attributes.name?]
  simp only [routeErrors, any_service_iff distinct, nameErrors_eq, ← name]
  rw [violations, brokenRules, kind, Rule.ofKind]
  by_cases leads : LeadsToService nodes edges n.id <;>
    by_cases accepted : Identifier.Accepts settings.identifierMaxLength n.displayName <;>
      simp [Rule.Broken, Rule.message, leads, accepted]

theorem serviceErrors_eq (settings : Settings) {n : Node} {a : ServiceAttributes}
    (service : n.attributes = .service a) :
    serviceErrors settings n a = violations nodes edges settings n := by
  have kind : n.kind = .service := congrArg Attributes.kind service
  have host : n.attributes.host? = a.host := congrArg Attributes.host? service
  have name : n.attributes.name? = a.name := congrArg Attributes.name? service
  rw [violations, brokenRules, kind, Rule.ofKind]
  cases given : given? a.name with
  | none =>
    have absent : Absent a.name := (given?_eq_none a.name).mp given
    by_cases hosted : Absent a.host <;>
      simp [serviceErrors, Rule.Broken, Rule.message, given, absent, given?_eq_none, hosted, host,
        name]
  | some s =>
    -- A name that is there is also the one that the service is shown by.
    have present : ¬Absent a.name := fun absent => by
      rw [(given?_eq_none a.name).mpr absent] at given
      cases given
    have shown : n.displayName = s := by
      rw [Node.displayName, name, givenOr, given, Option.getD_some]
    by_cases hosted : Absent a.host <;>
      by_cases accepted : Identifier.Accepts settings.identifierMaxLength s <;>
        simp [serviceErrors, Rule.Broken, Rule.message, nameErrors_eq, given, present,
          given?_eq_none, hosted, host, name, shown, accepted]

theorem consumerErrors_eq (settings : Settings) {n : Node} {a : ConsumerAttributes}
    (consumer : n.attributes = .consumer a) :
    consumerErrors n a = violations nodes edges settings n := by
  have kind : n.kind = .consumer := congrArg Attributes.kind consumer
  have username : n.attributes.username? = a.username := congrArg Attributes.username? consumer
  have customId : n.attributes.customId? = a.customId := congrArg Attributes.customId? consumer
  rw [violations, brokenRules, kind, Rule.ofKind]
  by_cases anonymous : Absent a.username ∧ Absent a.customId <;>
    simp [consumerErrors, Rule.Broken, Rule.message, given?_eq_none, anonymous, username, customId]

/-- Checking a node finds the rules that it breaks. -/
theorem nodeErrors_eq (distinct : (nodes.map Node.id).Nodup) (settings : Settings) (n : Node) :
    nodeErrors (Index.build nodes edges) settings n = violations nodes edges settings n := by
  cases attributes : n.attributes with
  | route a =>
    simp only [nodeErrors, attributes]
    exact routeErrors_eq distinct settings attributes
  | service a =>
    simp only [nodeErrors, attributes]
    exact serviceErrors_eq settings attributes
  | consumer a =>
    simp only [nodeErrors, attributes]
    exact consumerErrors_eq settings attributes
  | _ =>
    simp only [nodeErrors, violations, brokenRules, Node.kind, Attributes.kind, Rule.ofKind,
      attributes, List.filter_nil, List.map_nil]

theorem violations_eq_nil (settings : Settings) (n : Node) :
    violations nodes edges settings n = [] ↔
      ∀ rule ∈ Rule.ofKind n.kind,
        ¬rule.Broken nodes edges settings.identifierMaxLength n := by
  simp [violations, brokenRules]

end Validation

/-- Validation of a flow that has nodes says what its nodes break, node by node and rule by rule. It
passes a flow when no node breaks a rule of its kind. An empty flow has one violation of its own. -/
theorem validate_by_rules {nodes : List Node} (present : nodes ≠ [])
    (distinct : (nodes.map Node.id).Nodup) (edges : List Edge) (settings : Settings) :
    (validate nodes edges settings).errors =
        nodes.flatMap (Validation.violations nodes edges settings) ∧
      ((validate nodes edges settings).valid = true ↔
        nodes.flatMap (Validation.violations nodes edges settings) = []) ∧
      ((validate nodes edges settings).valid = true ↔
        ∀ n ∈ nodes, ∀ rule ∈ Validation.Rule.ofKind n.kind,
          ¬rule.Broken nodes edges settings.identifierMaxLength n) ∧
      (validate [] edges settings).errors = ["Flow is empty. Add at least one node."] := by
  have errors : (validate nodes edges settings).errors =
      nodes.flatMap (Validation.violations nodes edges settings) := by
    rw [validate, Verdict.ofErrors, Validation.errors, if_neg (by simpa using present)]
    exact List.flatMap_congr fun n _ => Validation.nodeErrors_eq distinct settings n
  have passes : (validate nodes edges settings).valid = true ↔
      nodes.flatMap (Validation.violations nodes edges settings) = [] := by
    rw [Verdict.valid, errors, List.isEmpty_iff]
  refine ⟨errors, passes, ?_, rfl⟩
  rw [passes, List.flatMap_eq_nil_iff]
  exact forall₂_congr fun n _ => Validation.violations_eq_nil settings n

/-- A route with a refused name whose second edge leads to a service, a route that an edge of a
service comes to, a service without name and host, one with too long a name, and a consumer without
an identity. -/
def faultyNodes : List Node :=
  [⟨"storefront", .route { name := some "-store" }, by decide⟩,
    ⟨"inner route", .route {}, by decide⟩, ⟨"stock", .service { name := some "" }, by decide⟩,
    ⟨"people", .service { name := some "people-v2", host := some "people.local" }, by decide⟩,
    ⟨"throttle", .plugin {}, by decide⟩, ⟨"guest", .consumer { customId := some "" }, by decide⟩]

def faultyEdges : List Edge :=
  [⟨"e1", "storefront", "closed", none, none, by decide, by decide, by decide⟩,
    ⟨"e2", "people", "inner route", none, none, by decide, by decide, by decide⟩,
    ⟨"e3", "inner route", "throttle", none, none, by decide, by decide, by decide⟩,
    ⟨"e4", "storefront", "stock", none, none, by decide, by decide, by decide⟩]

theorem validate_by_rules_over_faulty :
    let settings : Settings := { identifierMaxLength := 6 }
    faultyNodes ≠ [] ∧ (faultyNodes.map Node.id).Nodup ∧
      faultyNodes.map (Validation.brokenRules faultyNodes faultyEdges settings) =
        [[.routeName], [.leadsToService, .routeName], [.hasName, .hasHost], [.serviceName], [],
          [.hasIdentity]] ∧
      (validate faultyNodes faultyEdges settings).errors =
        faultyNodes.flatMap (Validation.violations faultyNodes faultyEdges settings) ∧
      ((validate faultyNodes faultyEdges settings).valid = true ↔
        faultyNodes.flatMap (Validation.violations faultyNodes faultyEdges settings) = []) ∧
      ((validate faultyNodes faultyEdges settings).valid = true ↔
        ∀ n ∈ faultyNodes, ∀ rule ∈ Validation.Rule.ofKind n.kind,
          ¬rule.Broken faultyNodes faultyEdges settings.identifierMaxLength n) ∧
      (validate [] faultyEdges settings).errors = ["Flow is empty. Add at least one node."] := by
  intro settings
  have present : faultyNodes ≠ [] := by simp [faultyNodes]
  have distinct : (faultyNodes.map Node.id).Nodup := by decide
  exact ⟨present, distinct, by decide, validate_by_rules present distinct faultyEdges settings⟩

end GatewayFlow
