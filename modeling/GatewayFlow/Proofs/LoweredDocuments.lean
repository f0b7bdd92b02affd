import GatewayFlow.Lowering

/-!
# Lowered documents in closed form

Lowering either fails with the first name that is refused or gives the document whose sections are
those of the single nodes one after the other.
-/
namespace GatewayFlow

namespace Lowering

/-- Why the name that other entries know a node by is refused, if it is. -/
def nameFailure? (settings : Settings) (n : Node) : Option Failure :=
  match n.attributes with
  | .service a =>
    let name := givenOr a.name n.id
    (Identifier.textProblem? settings.identifierMaxLength name).map
      (.identifier "Service name" (.text name))
  | .route a =>
    let name := givenOr a.name n.id
    (Identifier.textProblem? settings.identifierMaxLength name).map
      (.identifier "Route name" (.text name))
  | _ => none

/-! ### The entries of one node -/

def serviceEntries (settings : Settings) (n : Node) : List ServiceEntry :=
  match n.attributes with
  | .service a => [serviceEntry settings (givenOr a.name n.id) a]
  | _ => []

def routeEntries (index : Index) (settings : Settings) (n : Node) : List RouteEntry :=
  match n.attributes with
  | .route a => [routeEntry index settings n.id (givenOr a.name n.id) a]
  | _ => []

def pluginEntries (index : Index) (settings : Settings) (n : Node) : List PluginEntry :=
  match n.attributes with
  | .plugin a => plugin index settings n.id a
  | _ => []

def consumerEntries (n : Node) : List ConsumerEntry :=
  match n.attributes with
  | .consumer a => [consumer n.id a]
  | _ => []

def upstreamEntries (n : Node) : List UpstreamEntry :=
  match n.attributes with
  | .upstream a => [upstream n.id a]
  | _ => []

/-- A document with the entries of nodes behind its own. -/
def extended (index : Index) (settings : Settings) (d : Document) (nodes : List Node) :
    Document where
  formatVersion := d.formatVersion
  services := d.services ++ nodes.flatMap (serviceEntries settings)
  routes := d.routes ++ nodes.flatMap (routeEntries index settings)
  plugins := d.plugins ++ nodes.flatMap (pluginEntries index settings)
  consumers := d.consumers ++ nodes.flatMap consumerEntries
  upstreams := d.upstreams ++ nodes.flatMap upstreamEntries

/-- The entries of all nodes, section by section. -/
def document (nodes : List Node) (edges : List Edge) (settings : Settings) : Document :=
  extended (Index.build nodes edges) settings { formatVersion := settings.formatVersion } nodes

/-! ### Adding nodes -/

/-- A node is refused for its name alone, and otherwise adds the entries of its own. -/
theorem addNode_eq (index : Index) (settings : Settings) (d : Document) (n : Node) :
    addNode index settings d n =
      match nameFailure? settings n with
      | some failure => .error failure
      | none => .ok (extended index settings d [n]) := by
  -- Only services and routes have a name that is checked.
  cases kind : n.attributes with
  | service a =>
    cases problem : Identifier.textProblem? settings.identifierMaxLength (givenOr a.name n.id) <;>
      simp [addNode, nameFailure?, service, identifier, extended, Except.map, kind, problem,
        serviceEntries, routeEntries, pluginEntries, consumerEntries, upstreamEntries]
  | route a =>
    cases problem : Identifier.textProblem? settings.identifierMaxLength (givenOr a.name n.id) <;>
      simp [addNode, nameFailure?, route, identifier, extended, Except.map, kind, problem,
        serviceEntries, routeEntries, pluginEntries, consumerEntries, upstreamEntries]
  | _ =>
    simp [addNode, nameFailure?, extended, kind, serviceEntries, routeEntries, pluginEntries,
      consumerEntries, upstreamEntries]

theorem extended_cons (index : Index) (settings : Settings) (d : Document) (n : Node)
    (rest : List Node) :
    extended index settings (extended index settings d [n]) rest =
      extended index settings d (n :: rest) := by
  simp [extended]

theorem addNodes_result (index : Index) (settings : Settings) (d : Document) (nodes : List Node) :
    (addNodes index settings d nodes).result =
      match nodes.findSome? (nameFailure? settings) with
      | some failure => .error failure
      | none => .ok (extended index settings d nodes) := by
  -- The document so far is part of the run, so the statement is about any document to begin with.
  induction nodes generalizing d with
  | nil => simp [addNodes, extended]
  | cons n rest ih =>
    rw [addNodes, Logged.result_bind, addNode_eq, List.findSome?_cons]
    cases refused : nameFailure? settings n with
    | some failure => rfl
    | none =>
      have later := ih (extended index settings d [n])
      rw [extended_cons] at later
      exact later

end Lowering

/-- Lowering gives the entries of all nodes unless a name is refused, and then fails with the first
one that is. -/
theorem lower_result (nodes : List Node) (edges : List Edge) (settings : Settings) :
    (lower nodes edges settings).result =
      match nodes.findSome? (Lowering.nameFailure? settings) with
      | some failure => .error failure
      | none => .ok (Lowering.document nodes edges settings) := by
  rw [lower, Logged.result_bind, Lowering.addNodes_result]
  cases nodes.findSome? (Lowering.nameFailure? settings) <;> rfl

theorem lower_eq_ok (nodes : List Node) (edges : List Edge) (settings : Settings) (d : Document) :
    (lower nodes edges settings).result = .ok d ↔
      (∀ n ∈ nodes, Lowering.nameFailure? settings n = none) ∧
      d = Lowering.document nodes edges settings := by
  rw [lower_result, ← List.findSome?_eq_none_iff]
  cases nodes.findSome? (Lowering.nameFailure? settings) <;> simp [eq_comm]

end GatewayFlow
