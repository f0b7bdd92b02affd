import GatewayFlow.Proofs.PluginFanOut
import GatewayFlow.Proofs.References
import GatewayFlow.Proofs.RenderedEntries

/-!
# Rendered references

A route that refers to a service by id is rendered with what sanitizing leaves of this id. Names are
checked before they are referred to, ids are not, so the reference is the id only where the id is
harmless, and services whose ids are sanitized to one text can no longer be told apart.
-/
namespace GatewayFlow

/-- The service that the first edge from an id to a service leads to. -/
def firstService? (nodes : List Node) (edges : List Edge) (id : String) : Option Node :=
  (reached nodes edges id).find? fun n => n.kind == .service

/-- The services of the routes of a flow, in the order of the routes. -/
def routeServices (nodes : List Node) (edges : List Edge) : List Node :=
  (nodes.filter fun n => n.kind == .route).filterMap fun r => firstService? nodes edges r.id

/-- What the routes refer to in the rendered data. -/
def Document.routeReferences (d : Document) : List (Option Value) :=
  (d.rendered.sectionOf "routes").map (Value.field? "service")

variable {nodes : List Node} {edges : List Edge} {settings : Settings}

/-- Results at two places agree only where the items do, exactly when no two items are mapped to one
result. -/
theorem getElem?_map_inj_iff {α β : Type} (f : α → β) (xs : List α) :
    (∀ i j : Nat, (xs.map f)[i]? = (xs.map f)[j]? → xs[i]? = xs[j]?) ↔
      ∀ x ∈ xs, ∀ y ∈ xs, f x = f y → x = y := by
  simp only [List.getElem?_map]
  constructor
  · intro apart x left y right same
    obtain ⟨i, first⟩ := List.mem_iff_getElem?.mp left
    obtain ⟨j, second⟩ := List.mem_iff_getElem?.mp right
    have items := apart i j (by rw [first, second, Option.map_some, Option.map_some, same])
    rw [first, second] at items
    exact Option.some.inj items
  · intro apart i j same
    cases first : xs[i]? with
    | none =>
      rw [first, Option.map_none, eq_comm, Option.map_eq_none_iff] at same
      rw [same]
    | some x =>
      rw [first, Option.map_some, eq_comm, Option.map_eq_some_iff] at same
      obtain ⟨y, second, same⟩ := same
      rw [second, apart x (List.mem_of_getElem? first) y (List.mem_of_getElem? second) same.symm]

namespace Lowering

/-- Where ids are distinct, what the index finds for a route is its first service in the lists. -/
theorem firstService?_eq (distinct : (nodes.map Node.id).Nodup) (id : String) :
    firstService? nodes edges id =
      (((Index.build nodes edges).edgesFrom id).find? fun e =>
        (Index.build nodes edges).kindOf? e.target == some .service).bind
          fun e => (Index.build nodes edges).node? e.target := by
  -- Searching the nodes that are reached is searching the edges for one that reaches a service.
  rw [firstService?, reached, List.find?_filterMap, Index.build_edgesFrom]
  simp only [Index.kindOf?, Index.build_node?_of_distinct distinct]
  congr 2
  funext e
  cases nodes.find? fun n => n.id == e.target <;> rfl

/-- Every route of a valid flow has a service, and refers to it. -/
theorem serviceReference_of_valid (distinct : (nodes.map Node.id).Nodup)
    (valid : Validation.errors nodes edges settings = []) {r : Node} (member : r ∈ nodes)
    (kind : r.kind = .route) :
    ∃ s, firstService? nodes edges r.id = some s ∧
      serviceReference (Index.build nodes edges) settings r.id = some (referenceTo settings s) := by
  obtain ⟨e, s, first, there, -, reference⟩ :=
    serviceReference_of_any (any_service_of_valid valid member kind)
  refine ⟨s, ?_, reference⟩
  rw [firstService?_eq distinct, first, Option.bind_some, there]

theorem map_firstService? (distinct : (nodes.map Node.id).Nodup)
    (valid : Validation.errors nodes edges settings = []) :
    ((nodes.filter fun n => n.kind == .route).map fun r => firstService? nodes edges r.id) =
      (routeServices nodes edges).map some := by
  -- Each route finds a service, so no place of the list is dropped.
  rw [routeServices, List.map_filterMap_some_eq_filter_map_isSome, eq_comm, List.filter_eq_self]
  simp only [List.mem_map, List.mem_filter, beq_iff_eq]
  rintro - ⟨r, ⟨member, kind⟩, rfl⟩
  obtain ⟨s, first, -⟩ := serviceReference_of_valid distinct valid member kind
  rw [first, Option.isSome_some]

/-- Routes that refer by id are rendered with the sanitized ids of their services. -/
theorem routeReferences_eq (distinct : (nodes.map Node.id).Nodup)
    (byId : settings.routeReference = .id)
    (valid : Validation.errors nodes edges settings = []) :
    (document nodes edges settings).routeReferences =
      (routeServices nodes edges).map fun s => some (.text (Sanitize.text s.id)) := by
  have rendered : (document nodes edges settings).routeReferences =
      (nodes.filter fun n => n.kind == .route).map fun r =>
        (firstService? nodes edges r.id).map fun s => .text (Sanitize.text s.id) := by
    refine map_routes fun r member a attributes => ?_
    obtain ⟨s, first, reference⟩ :=
      serviceReference_of_valid distinct valid member (congrArg Attributes.kind attributes)
    rw [RouteEntry.field?_rendered, RouteEntry.field?_service, first]
    simp only [routeEntry, reference, referenceTo, byId, Option.map_some, Sanitize.value_text]
  -- Both lists are over the routes; what each of them finds is one of the services.
  have services := congrArg (List.map (Option.map fun s => Value.text (Sanitize.text s.id)))
    (map_firstService? distinct valid)
  rw [List.map_map, List.map_map] at services
  exact rendered.trans services

end Lowering

/-- A valid flow whose routes refer by id has a service for each route, and the rendered references
are the sanitized ids of these services. They are the ids themselves exactly when all of these are
harmless, and tell different services apart exactly when sanitizing makes no two of the ids
equal. -/
theorem references_rendered (nodes : List Node) (edges : List Edge) (settings : Settings)
    (distinct : (nodes.map Node.id).Nodup) (byId : settings.routeReference = .id)
    (valid : (validate nodes edges settings).valid = true) :
    ∃ d, (lower nodes edges settings).result = .ok d ∧
      ((nodes.filter fun n => n.kind == .route).map fun r => firstService? nodes edges r.id) =
        (routeServices nodes edges).map some ∧
      d.routeReferences =
        (routeServices nodes edges).map (fun s => some (.text (Sanitize.text s.id))) ∧
      (d.routeReferences = (routeServices nodes edges).map (fun s => some (.text s.id)) ↔
        ∀ s ∈ routeServices nodes edges, Sanitize.IsHarmless s.id) ∧
      ((∀ i j : Nat, d.routeReferences[i]? = d.routeReferences[j]? →
          (routeServices nodes edges)[i]? = (routeServices nodes edges)[j]?) ↔
        ∀ s ∈ routeServices nodes edges, ∀ t ∈ routeServices nodes edges,
          Sanitize.text s.id = Sanitize.text t.id → s = t) := by
  have clean := (validate_valid nodes edges settings).mp valid
  have references := Lowering.routeReferences_eq distinct byId clean
  refine ⟨_, lower_of_valid clean, Lowering.map_firstService? distinct clean, references, ?_, ?_⟩
  · rw [references, List.map_inj_left]
    simp only [Option.some.injEq, Value.text, Value.scalar.injEq, Scalar.text.injEq,
      Sanitize.text_eq_self_iff]
  · rw [references, getElem?_map_inj_iff]
    simp only [Option.some.injEq, Value.text, Value.scalar.injEq, Scalar.text.injEq]

/-- Two routes on services with harmless ids and one on a service with an id that is rewritten. -/
def stackedNodes : List Node :=
  [⟨"stacks", .route {}, by decide⟩, ⟨"desk", .route {}, by decide⟩,
    ⟨"returns", .route {}, by decide⟩,
    ⟨"volumes", .service { name := some "library", host := some "library.local" }, by decide⟩,
    ⟨"-loans ", .service { name := some "loans", host := some "loans.local" }, by decide⟩]

def stackedEdges : List Edge :=
  [⟨"e1", "stacks", "archive", none, none, by decide, by decide, by decide⟩,
    ⟨"e2", "stacks", "volumes", none, none, by decide, by decide, by decide⟩,
    ⟨"e3", "desk", "-loans ", none, none, by decide, by decide, by decide⟩,
    ⟨"e4", "returns", "volumes", none, none, by decide, by decide, by decide⟩,
    ⟨"e5", "returns", "-loans ", none, none, by decide, by decide, by decide⟩]

theorem references_rendered_over_stacks :
    let services := routeServices stackedNodes stackedEdges
    (stackedNodes.map Node.id).Nodup ∧ ({} : Settings).routeReference = .id ∧
      (validate stackedNodes stackedEdges {}).valid = true ∧
      services.map Node.id = ["volumes", "-loans ", "volumes"] ∧
      ∃ d, (lower stackedNodes stackedEdges {}).result = .ok d ∧
        ((stackedNodes.filter fun n => n.kind == .route).map fun r =>
          firstService? stackedNodes stackedEdges r.id) = services.map some ∧
        d.routeReferences = services.map (fun s => some (.text (Sanitize.text s.id))) ∧
        (d.routeReferences = services.map (fun s => some (.text s.id)) ↔
          ∀ s ∈ services, Sanitize.IsHarmless s.id) ∧
        ((∀ i j : Nat, d.routeReferences[i]? = d.routeReferences[j]? →
            services[i]? = services[j]?) ↔
          ∀ s ∈ services, ∀ t ∈ services, Sanitize.text s.id = Sanitize.text t.id → s = t) := by
  intro services
  have distinct : (stackedNodes.map Node.id).Nodup := by decide
  have valid : (validate stackedNodes stackedEdges {}).valid = true := by decide
  exact ⟨distinct, rfl, valid, by decide,
    references_rendered stackedNodes stackedEdges {} distinct rfl valid⟩

/-- Two services whose ids differ in a character that sanitizing drops. -/
def mergedNodes : List Node :=
  [⟨"r1", .route {}, by decide⟩, ⟨"r2", .route {}, by decide⟩,
    ⟨"api$", .service { name := some "a", host := some "a.local" }, by decide⟩,
    ⟨"api\x7b", .service { name := some "b", host := some "b.local" }, by decide⟩]

def mergedEdges : List Edge :=
  [⟨"r1-default-api$-default", "r1", "api$", none, none, by decide, by decide, by decide⟩,
    ⟨"r2-default-api\x7b-default", "r2", "api\x7b", none, none, by decide, by decide, by decide⟩]

/-- Two routes on different services are rendered with one reference, which is the id of neither. -/
theorem references_of_merged_ids_agree :
    (mergedNodes.map Node.id).Nodup ∧ ({} : Settings).routeReference = .id ∧
      (validate mergedNodes mergedEdges {}).valid = true ∧
      (routeServices mergedNodes mergedEdges).map Node.id = ["api$", "api\x7b"] ∧
      ∃ d, (lower mergedNodes mergedEdges {}).result = .ok d ∧
        d.routeReferences = [some (.text "api"), some (.text "api")] := by
  exact ⟨by decide, rfl, by decide, by decide, Lowering.document mergedNodes mergedEdges {}, rfl,
    rfl⟩

end GatewayFlow
