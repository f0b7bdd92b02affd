import GatewayFlow.Proofs.EditorRuns
import GatewayFlow.Proofs.IndexScans
import GatewayFlow.Proofs.ValidatedFlows
import Mathlib.Data.List.Flatten
import Mathlib.Data.List.Perm.Subperm

/-!
# Further edges

A single rule looks at edges, and it asks for an edge: a route has to lead to a service. So further
edges take violations away and never add one, wherever they stand and whatever they lead to. The
order of edges does not matter, and a valid flow stays valid however its nodes are connected.
-/
namespace GatewayFlow

namespace Validation

/-- Some edge from an id leads to a service. Of nodes that share an id the last one is found. -/
def FindsService (nodes : List Node) (edges : List Edge) (id : String) : Prop :=
  ∃ e ∈ edges, e.source = id ∧
    (nodes.reverse.find? fun n => n.id == e.target).map Node.kind = some .service

instance (nodes : List Node) (edges : List Edge) (id : String) :
    Decidable (FindsService nodes edges id) :=
  inferInstanceAs (Decidable (∃ e ∈ edges, _))

/-- What is said about a route that leads to no service. -/
def unconnected (nodes : List Node) (edges : List Edge) (n : Node) : List String :=
  if n.kind = .route ∧ ¬FindsService nodes edges n.id then
    [s!"Route '{n.displayName}' must be connected to a Service."]
  else []

/-- What is no longer said about a route that further edges lead to a service. -/
def resolved (nodes : List Node) (edges edges' : List Edge) (n : Node) : List String :=
  if n.kind = .route ∧ ¬FindsService nodes edges n.id ∧ FindsService nodes edges' n.id then
    [s!"Route '{n.displayName}' must be connected to a Service."]
  else []

/-- What is said about a node whatever the edges are. -/
def ownErrors (settings : Settings) (n : Node) : List String :=
  match n.attributes with
  | .route a => nameErrors "Route" settings (givenOr a.name n.id)
  | .service a => serviceErrors settings n a
  | .consumer a => consumerErrors n a
  | _ => []

variable {nodes : List Node} {edges edges' : List Edge} {settings : Settings}

/-! ### The one rule on edges -/

theorem any_service_iff_findsService (nodes : List Node) (edges : List Edge) (id : String) :
    (((Index.build nodes edges).edgesFrom id).any fun e =>
      (Index.build nodes edges).kindOf? e.target == some .service) = true ↔
      FindsService nodes edges id := by
  simp only [Index.build_edgesFrom, Index.kindOf?, Index.build_node?, List.any_eq_true,
    List.mem_filter, beq_iff_eq, FindsService, and_assoc]

theorem FindsService.mono {id : String} (finds : FindsService nodes edges id)
    (further : edges ⊆ edges') : FindsService nodes edges' id := by
  obtain ⟨e, member, leaving⟩ := finds
  exact ⟨e, further member, leaving⟩

/-- Edges decide on one message only, and it comes first. -/
theorem nodeErrors_build (nodes : List Node) (edges : List Edge) (settings : Settings) (n : Node) :
    nodeErrors (Index.build nodes edges) settings n =
      unconnected nodes edges n ++ ownErrors settings n := by
  cases attributes : n.attributes with
  | route a =>
    have route : n.kind = .route := congrArg Attributes.kind attributes
    simp only [nodeErrors, routeErrors, ownErrors, unconnected, attributes, route, true_and,
      any_service_iff_findsService]
    by_cases finds : FindsService nodes edges n.id <;> simp [finds]
  | _ =>
    have other : n.kind ≠ .route := by simp [Node.kind, attributes, Attributes.kind]
    simp [nodeErrors, ownErrors, unconnected, attributes, other]

/-- Of the message on edges, further edges leave what they do not resolve. -/
theorem unconnected_further (further : edges ⊆ edges') (n : Node) :
    unconnected nodes edges n = resolved nodes edges edges' n ++ unconnected nodes edges' n := by
  unfold unconnected resolved
  by_cases finds : FindsService nodes edges n.id
  · simp [finds, finds.mono further]
  · by_cases later : FindsService nodes edges' n.id <;> simp [finds, later]

theorem nodeErrors_further (further : edges ⊆ edges') (settings : Settings) (n : Node) :
    nodeErrors (Index.build nodes edges) settings n =
      resolved nodes edges edges' n ++ nodeErrors (Index.build nodes edges') settings n := by
  rw [nodeErrors_build, nodeErrors_build, unconnected_further further, List.append_assoc]

theorem errors_sublist (further : edges ⊆ edges') :
    (errors nodes edges' settings).Sublist (errors nodes edges settings) := by
  unfold errors
  split
  · exact List.Sublist.refl _
  · refine List.Sublist.flatMap_right nodes fun n _ => ?_
    rw [nodeErrors_further further]
    exact List.sublist_append_right _ _

end Validation

/-! ### Connecting nodes -/

def Edit.isConnect : Edit → Bool
  | .connect .. => true
  | _ => false

namespace Editor

variable {σ : Type}

theorem perform_of_isConnect (source : IdSource σ) (e : Editor σ) {edit : Edit}
    (connects : edit.isConnect = true) :
    (e.perform source edit).2.nodes = e.nodes ∧ e.edges <+: (e.perform source edit).2.edges := by
  have effect := e.perform_effect source edit
  generalize (e.perform source edit).2.nodes = nodes' at effect ⊢
  generalize (e.perform source edit).2.edges = edges' at effect ⊢
  cases effect with
  | idle => exact ⟨rfl, List.prefix_rfl⟩
  | connected edge => exact ⟨rfl, List.prefix_append _ _⟩
  | _ => cases connects

/-- Connecting keeps the nodes and all edges that are there. -/
theorem run_of_isConnect (source : IdSource σ) (e : Editor σ) (edits : List Edit)
    (connects : ∀ edit ∈ edits, edit.isConnect = true) :
    (e.run source edits).nodes = e.nodes ∧ e.edges <+: (e.run source edits).edges := by
  refine run_invariant source (P := fun e' => e'.nodes = e.nodes ∧ e.edges <+: e'.edges) edits ?_ e
    ⟨rfl, List.prefix_rfl⟩
  rintro edit member e' ⟨nodes, edges⟩
  obtain ⟨sameNodes, longer⟩ := e'.perform_of_isConnect source (connects edit member)
  exact ⟨sameNodes.trans nodes, edges.trans longer⟩

end Editor

/-- Adding edges never makes a flow less valid. Where a list of edges holds another one, each edge
as often and in any order, its violations are a subsequence of those of the other, and each node
loses no more than the message of a route that now leads to a service. Reordered edges give the same
violations, and however the nodes of a valid flow are connected, it stays valid. -/
theorem further_edges_leave_violations (settings : Settings) :
    (∀ nodes edges edges', List.Subperm edges edges' →
      (validate nodes edges' settings).errors.Sublist (validate nodes edges settings).errors ∧
      ∀ n ∈ nodes, Validation.nodeErrors (Index.build nodes edges) settings n =
        Validation.resolved nodes edges edges' n ++
          Validation.nodeErrors (Index.build nodes edges') settings n) ∧
    (∀ nodes edges edges', List.Perm edges edges' →
      (validate nodes edges' settings).errors = (validate nodes edges settings).errors) ∧
    ∀ (σ : Type) (source : IdSource σ) (e : Editor σ) (edits : List Edit),
      (∀ edit ∈ edits, edit.isConnect = true) →
      (validate e.nodes e.edges settings).valid = true →
      (validate (e.run source edits).nodes (e.run source edits).edges settings).valid = true := by
  refine ⟨fun nodes edges edges' within => ?_, fun nodes edges edges' reordered => ?_,
    fun σ source e edits connects valid => ?_⟩
  · have further : edges ⊆ edges' := List.Subperm.subset within
    exact ⟨Validation.errors_sublist further,
      fun n _ => Validation.nodeErrors_further further settings n⟩
  · exact (Validation.errors_sublist reordered.subset).antisymm
      (Validation.errors_sublist reordered.symm.subset)
  · obtain ⟨nodes, edges⟩ := e.run_of_isConnect source edits connects
    rw [validate_valid] at valid ⊢
    have fewer : (Validation.errors e.nodes (e.run source edits).edges settings).Sublist [] :=
      valid ▸ Validation.errors_sublist edges.subset
    rw [nodes, List.sublist_nil.mp fewer]

/-- Two nodes share an id, and only the later one is a service. One route leads nowhere, one has an
edge of each sort, and a service has no host. -/
def draftNodes : List Node :=
  [⟨"search", .route {}, by decide⟩, ⟨"index", .upstream {}, by decide⟩,
    ⟨"index", .service { name := some "index", host := some "index.local" }, by decide⟩,
    ⟨"suggest", .route { name := some "suggest route" }, by decide⟩,
    ⟨"words", .service { name := some "words" }, by decide⟩]

def draftEdges : List Edge :=
  [⟨"g1", "suggest", "retired", none, none, by decide, by decide, by decide⟩,
    ⟨"g2", "suggest", "words", none, none, by decide, by decide, by decide⟩,
    ⟨"g1", "suggest", "retired", none, none, by decide, by decide, by decide⟩]

/-- The edges in another order, with one that leads to the shared id and one that dangles. -/
def grownEdges : List Edge :=
  [⟨"g3", "search", "absent", none, none, by decide, by decide, by decide⟩,
    ⟨"g2", "suggest", "words", none, none, by decide, by decide, by decide⟩,
    ⟨"g4", "search", "index", none, none, by decide, by decide, by decide⟩,
    ⟨"g1", "suggest", "retired", none, none, by decide, by decide, by decide⟩,
    ⟨"g1", "suggest", "retired", none, none, by decide, by decide, by decide⟩]

/-- A valid flow of a service and a plugin that nothing is connected to yet. -/
def sparseEditor : Editor IdCounter where
  nodes := [⟨"words", .service { name := some "words", host := some "words.local" }, by decide⟩,
    ⟨"spare", .plugin {}, by decide⟩]
  edges := []
  ids := .initial

def sparseConnects : List Edit :=
  [.connect (.text "spare") (.text "words") .null .null,
    .connect (.text "spare") (.text "absent") (.int 3) .null,
    .connect (.text "words") (.text "spare") (.text "top") .null]

theorem further_edges_leave_violations_of_draft :
    List.Subperm draftEdges grownEdges ∧ List.Perm draftEdges draftEdges.reverse ∧
      (∀ edit ∈ sparseConnects, edit.isConnect = true) ∧
      (validate sparseEditor.nodes sparseEditor.edges {}).valid = true ∧
      draftNodes.map (Validation.resolved draftNodes draftEdges grownEdges) =
        [["Route 'search' must be connected to a Service."], [], [], [], []] ∧
      (validate draftNodes grownEdges {}).errors.Sublist
        (validate draftNodes draftEdges {}).errors ∧
      (validate draftNodes draftEdges.reverse {}).errors =
        (validate draftNodes draftEdges {}).errors ∧
      (sparseEditor.run .counter sparseConnects).edges.length = 2 ∧
      (validate (sparseEditor.run .counter sparseConnects).nodes
        (sparseEditor.run .counter sparseConnects).edges {}).valid = true := by
  have within : List.Subperm draftEdges grownEdges := by decide
  have reordered : List.Perm draftEdges draftEdges.reverse := (List.reverse_perm _).symm
  have connects : ∀ edit ∈ sparseConnects, edit.isConnect = true := by
    simp [sparseConnects, Edit.isConnect]
  have valid : (validate sparseEditor.nodes sparseEditor.edges {}).valid = true := by decide
  obtain ⟨fewer, same, stays⟩ := further_edges_leave_violations {}
  exact ⟨within, reordered, connects, valid, by decide, (fewer _ _ _ within).1,
    same _ _ _ reordered, rfl, stays _ .counter sparseEditor sparseConnects connects valid⟩

end GatewayFlow
