import GatewayFlow.Connection
import GatewayFlow.Identifier
import GatewayFlow.Index
import GatewayFlow.Settings

/-!
# Validation of a whole flow

Every node is checked against the rules of its kind and all violations are collected in order. An
empty flow has a single one.
-/
namespace GatewayFlow

namespace Validation

def emptyFlowMessage : String := "Flow is empty. Add at least one node."

/-- The violation of a name that is no identifier. -/
def nameErrors (label : String) (settings : Settings) (name : String) : List String :=
  match Identifier.textProblem? settings.identifierMaxLength name with
  | some problem => [s!"{label} '{name}' has an invalid name: {problem.message}"]
  | none => []

/-- A route leads to a service, and its name or id is an identifier. -/
def routeErrors (index : Index) (settings : Settings) (n : Node) (a : RouteAttributes) :
    List String :=
  let hasService := (index.edgesFrom n.id).any fun e => index.kindOf? e.target == some .service
  (if hasService then [] else [s!"Route '{n.displayName}' must be connected to a Service."]) ++
    nameErrors "Route" settings (givenOr a.name n.id)

/-- A service has a host and a name, and the name is an identifier. -/
def serviceErrors (settings : Settings) (n : Node) (a : ServiceAttributes) : List String :=
  (if (given? a.name).isNone then [s!"Service '{n.id}' is missing a name."] else []) ++
    (if (given? a.host).isNone then [s!"Service '{n.displayName}' is missing a host."] else []) ++
    ((given? a.name).map (nameErrors "Service" settings)).getD []

/-- A consumer has a user name or an id of its own. -/
def consumerErrors (n : Node) (a : ConsumerAttributes) : List String :=
  if (given? a.username).isNone && (given? a.customId).isNone then
    [s!"Consumer '{n.id}' must have either username or custom_id."]
  else []

def nodeErrors (index : Index) (settings : Settings) (n : Node) : List String :=
  match n.attributes with
  | .route a => routeErrors index settings n a
  | .service a => serviceErrors settings n a
  | .consumer a => consumerErrors n a
  | _ => []

def errors (nodes : List Node) (edges : List Edge) (settings : Settings) : List String :=
  if nodes.isEmpty then [emptyFlowMessage]
  else nodes.flatMap (nodeErrors (Index.build nodes edges) settings)

/-- The line that a flow with violations leaves; an empty flow leaves none. -/
def lines (nodes : List Node) (found : List String) : List LogLine :=
  if nodes.isEmpty || found.isEmpty then []
  else [⟨.debug, .validation,
    s!"Flow validation found {found.length} error(s) across {nodes.length} node(s)"⟩]

end Validation

def validate (nodes : List Node) (edges : List Edge) (settings : Settings) : Verdict :=
  .ofErrors (Validation.errors nodes edges settings)

end GatewayFlow
