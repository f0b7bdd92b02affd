import GatewayFlow.Generation
import GatewayFlow.Proofs.IndexScans
import GatewayFlow.Proofs.LoweredDocuments

/-!
# What edges decide

Edges are looked at in two places only: where a route leads, and where a plugin leads. There the ids
that they lead to count, in their order, and nothing else does. So two indexes that tell the same
about a node give it the same entries and the same violations.
-/
namespace GatewayFlow

/-- A node whose edges are looked at. -/
def Node.UsesEdges (n : Node) : Prop :=
  n.kind = .route ∨ n.kind = .plugin

instance (n : Node) : Decidable n.UsesEdges :=
  inferInstanceAs (Decidable (_ ∨ _))

/-- The ids that the edges from an id lead to, in order. -/
def targetsFrom (edges : List Edge) (id : String) : List String :=
  (edges.filter fun e => e.source == id).map Edge.target

namespace Index

/-- Where the edges from an id lead: the ids that they name, each with the node that is found. -/
def leads (index : Index) (id : String) : List (String × Option Node) :=
  (index.edgesFrom id).map fun e => (e.target, index.node? e.target)

/-- Two indexes tell the same about the edges of a node, as far as they are looked at. -/
def AgreeOn (i j : Index) (n : Node) : Prop :=
  n.UsesEdges → i.leads n.id = j.leads n.id

theorem build_leads (nodes : List Node) (edges : List Edge) (id : String) :
    (build nodes edges).leads id =
      (targetsFrom edges id).map fun target => (target, (build nodes edges).node? target) := by
  rw [leads, build_edgesFrom, targetsFrom, List.map_map]
  rfl

theorem build_agreeOn {nodes nodes' : List Node} {edges edges' : List Edge} {n : Node}
    (targets : n.UsesEdges → targetsFrom edges n.id = targetsFrom edges' n.id)
    (found : ∀ id ∈ targetsFrom edges' n.id,
      (build nodes edges).node? id = (build nodes' edges').node? id) :
    (build nodes edges).AgreeOn (build nodes' edges') n := by
  intro uses
  rw [build_leads, build_leads, targets uses]
  exact List.map_congr_left fun id member => by rw [found id member]

end Index

variable {i j : Index} {settings : Settings} {n : Node}

/-! ### Entries -/

namespace Lowering

/-- How a route refers to what an edge leads to. -/
def referTo (settings : Settings) (lead : String × Option Node) : String :=
  match settings.routeReference with
  | .id => lead.1
  | .name => (lead.2.map Node.displayName).getD lead.1

/-- The edge that a route refers by is chosen among its leads, with no look at the edge itself. -/
theorem serviceReference_eq (index : Index) (settings : Settings) (id : String) :
    serviceReference index settings id =
      (((index.leads id).find? fun lead => lead.2.map Node.kind == some .service).or
        (index.leads id).head?).map (referTo settings) := by
  rw [Index.leads, List.find?_map, List.head?_map, ← Option.map_or, Option.map_map]
  rfl

theorem plugin_eq (index : Index) (settings : Settings) (id : String) (a : PluginAttributes) :
    plugin index settings id a =
      if (index.leads id).isEmpty then [unscoped settings a]
      else (index.leads id).filterMap fun lead => lead.2.map (limited (unscoped settings a)) := by
  rw [Index.leads, List.isEmpty_map, List.filterMap_map]
  rfl

theorem routeEntries_congr (agree : i.AgreeOn j n) :
    routeEntries i settings n = routeEntries j settings n := by
  cases attributes : n.attributes with
  | route a =>
    have same := agree (.inl (congrArg Attributes.kind attributes))
    simp only [routeEntries, attributes, routeEntry, serviceReference_eq, same]
  | _ => simp only [routeEntries, attributes]

theorem pluginEntries_congr (agree : i.AgreeOn j n) :
    pluginEntries i settings n = pluginEntries j settings n := by
  cases attributes : n.attributes with
  | plugin a =>
    have same := agree (.inr (congrArg Attributes.kind attributes))
    simp only [pluginEntries, attributes, plugin_eq, same]
  | _ => simp only [pluginEntries, attributes]

/-- Nodes add the same entries over indexes that agree on all of them. -/
theorem extended_congr {nodes : List Node} (agree : ∀ n ∈ nodes, i.AgreeOn j n) (d : Document) :
    extended i settings d nodes = extended j settings d nodes := by
  have routes : nodes.flatMap (routeEntries i settings) = nodes.flatMap (routeEntries j settings) :=
    List.flatMap_congr fun n member => routeEntries_congr (agree n member)
  have plugins : nodes.flatMap (pluginEntries i settings) =
      nodes.flatMap (pluginEntries j settings) :=
    List.flatMap_congr fun n member => pluginEntries_congr (agree n member)
  simp only [extended, routes, plugins]

end Lowering

/-! ### Violations -/

namespace Validation

theorem any_service_eq (index : Index) (id : String) :
    ((index.edgesFrom id).any fun e => index.kindOf? e.target == some .service) =
      (index.leads id).any fun lead => lead.2.map Node.kind == some .service := by
  rw [Index.leads, List.any_map]
  rfl

theorem nodeErrors_congr (agree : i.AgreeOn j n) :
    nodeErrors i settings n = nodeErrors j settings n := by
  cases attributes : n.attributes with
  | route a =>
    have same := agree (.inl (congrArg Attributes.kind attributes))
    simp only [nodeErrors, attributes, routeErrors, any_service_eq, same]
  | _ => simp only [nodeErrors, attributes]

end Validation

/-! ### Outputs over two lists of edges -/

/-- Routes and plugins lead to the same ids in the same order over two lists of edges. -/
def SameTargets (nodes : List Node) (edges edges' : List Edge) : Prop :=
  ∀ n ∈ nodes, n.UsesEdges → targetsFrom edges n.id = targetsFrom edges' n.id

/-- Two lists of edges give a flow the same verdict, the same document or failure, and the same
text in any format. -/
structure SameOutput (nodes : List Node) (settings : Settings) (edges edges' : List Edge) :
    Prop where
  verdict : validate nodes edges settings = validate nodes edges' settings
  lowered : (lower nodes edges settings).result = (lower nodes edges' settings).result
  generated : ∀ format, (generate nodes edges format settings).result =
    (generate nodes edges' format settings).result

section

variable {nodes : List Node} {edges edges' : List Edge}

theorem SameTargets.agreeOn (same : SameTargets nodes edges edges') (n : Node)
    (member : n ∈ nodes) : (Index.build nodes edges).AgreeOn (Index.build nodes edges') n :=
  Index.build_agreeOn (same n member) fun id _ => by rw [Index.build_node?, Index.build_node?]

theorem SameTargets.sameOutput (same : SameTargets nodes edges edges') (settings : Settings) :
    SameOutput nodes settings edges edges' := by
  have errors : Validation.errors nodes edges settings =
      Validation.errors nodes edges' settings := by
    rw [Validation.errors, Validation.errors,
      List.flatMap_congr fun n member => Validation.nodeErrors_congr (same.agreeOn n member)]
  have lowered : (lower nodes edges settings).result = (lower nodes edges' settings).result := by
    rw [lower_result, lower_result, Lowering.document, Lowering.document,
      Lowering.extended_congr same.agreeOn]
  refine ⟨by rw [validate, validate, errors], lowered, fun format => ?_⟩
  rw [generate, generate, errors, Logged.result_bind, Logged.result_bind]
  -- The lines that are noted may name edges by their ids; only results are compared.
  by_cases valid : (Validation.errors nodes edges' settings).isEmpty = true
  · simp only [valid, if_true, Logged.result_bind, lowered]
  · simp only [valid, Bool.false_eq_true, if_false]

theorem targetsFrom_eq_ends (edges : List Edge) (id : String) :
    targetsFrom edges id = ((edges.map Edge.ends).filter fun ends => ends.1 == id).map Prod.snd := by
  rw [targetsFrom, List.filter_map, List.map_map]
  rfl

/-- Ids and anchors of edges are no part of their ends. -/
theorem SameTargets.of_ends (nodes : List Node)
    (same : edges.map Edge.ends = edges'.map Edge.ends) : SameTargets nodes edges edges' :=
  fun n _ _ => by rw [targetsFrom_eq_ends, targetsFrom_eq_ends, same]

/-- Edges that leave no route and no plugin are not looked at. -/
theorem SameTargets.filter_uses (nodes : List Node) (edges : List Edge) :
    SameTargets nodes edges
      (edges.filter fun e => decide (∃ n ∈ nodes, n.UsesEdges ∧ n.id = e.source)) := by
  intro n member uses
  rw [targetsFrom, targetsFrom, List.filter_filter]
  congr 1
  -- The node itself is what keeps an edge that leaves it.
  refine List.filter_congr fun e _ => ?_
  by_cases leaving : e.source = n.id
  · have kept : ∃ m ∈ nodes, m.UsesEdges ∧ m.id = n.id := ⟨n, member, uses, rfl⟩
    simpa [leaving] using kept
  · simp [leaving]

/-- Edges of different sources may come in any order. -/
theorem SameTargets.of_sources (nodes : List Node)
    (same : ∀ id, (edges.filter fun e => e.source == id) = edges'.filter fun e => e.source == id) :
    SameTargets nodes edges edges' :=
  fun n _ _ => by rw [targetsFrom, targetsFrom, same n.id]

end

/-- Edges matter only through the ordered targets of routes and plugins. So ids and anchors of
edges, edges that leave other nodes, and the order of edges from different sources have no
influence. -/
theorem output_by_targets (nodes : List Node) (settings : Settings) :
    (∀ edges edges', SameTargets nodes edges edges' → SameOutput nodes settings edges edges') ∧
    (∀ edges edges', edges.map Edge.ends = edges'.map Edge.ends →
      SameOutput nodes settings edges edges') ∧
    (∀ edges, SameOutput nodes settings edges
      (edges.filter fun e => decide (∃ n ∈ nodes, n.UsesEdges ∧ n.id = e.source))) ∧
    ∀ edges edges' : List Edge,
      (∀ id, (edges.filter fun e => e.source == id) = edges'.filter fun e => e.source == id) →
      SameOutput nodes settings edges edges' := by
  refine ⟨?_, ?_, ?_, ?_⟩
  · intro edges edges' same
    exact same.sameOutput settings
  · intro edges edges' same
    exact (SameTargets.of_ends nodes same).sameOutput settings
  · intro edges
    exact (SameTargets.filter_uses nodes edges).sameOutput settings
  · intro edges edges' same
    exact (SameTargets.of_sources nodes same).sameOutput settings

/-- A flow, drawn twice. The second time the edge that leaves the service is missing, all edges have
other ids or anchors, and those of the route come before those of the plugin. -/
def drawnNodes : List Node :=
  [⟨"quota", .plugin {}, by decide⟩, ⟨"map", .route {}, by decide⟩,
    ⟨"tiles", .service { name := some "api", host := some "api.local" }, by decide⟩,
    ⟨"cdn", .upstream {}, by decide⟩]

def drawnEdges : List Edge :=
  [⟨"e1", "quota", "map", none, none, by decide, by decide, by decide⟩,
    ⟨"e2", "map", "cdn", none, none, by decide, by decide, by decide⟩,
    ⟨"e3", "tiles", "cdn", none, none, by decide, by decide, by decide⟩,
    ⟨"e4", "quota", "void", none, none, by decide, by decide, by decide⟩,
    ⟨"e5", "map", "tiles", none, none, by decide, by decide, by decide⟩]

def redrawnEdges : List Edge :=
  [⟨"a", "map", "cdn", some "top", none, by decide, by decide, by decide⟩,
    ⟨"a", "map", "tiles", none, some "left", by decide, by decide, by decide⟩,
    ⟨"b", "quota", "map", none, none, by decide, by decide, by decide⟩,
    ⟨"", "quota", "void", some "", none, by decide, by decide, by decide⟩]

theorem output_by_targets_over_drawn :
    drawnEdges.map Edge.ends ≠ redrawnEdges.map Edge.ends ∧
      SameTargets drawnNodes drawnEdges redrawnEdges ∧
      SameOutput drawnNodes { routeReference := .name } drawnEdges redrawnEdges := by
  have same : SameTargets drawnNodes drawnEdges redrawnEdges := by
    unfold SameTargets
    decide
  exact ⟨by decide, same, (output_by_targets drawnNodes _).1 drawnEdges redrawnEdges same⟩

end GatewayFlow
