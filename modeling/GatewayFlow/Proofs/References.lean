import GatewayFlow.Proofs.IndexScans
import GatewayFlow.Proofs.RenderedDocuments
import GatewayFlow.Proofs.SanitizedText
import GatewayFlow.Proofs.ValidatedFlows

/-!
# References of a document

In the document of a valid flow a route refers to a service of the flow, and a plugin that is
limited to a service or a route names an entry of its section. The names themselves are identifiers,
so rendering keeps them.
-/
namespace GatewayFlow

variable {nodes : List Node} {edges : List Edge} {settings : Settings}

namespace Lowering

/-! ### Entries under the names of their nodes -/

theorem mem_services {s : ServiceEntry} :
    s ∈ (document nodes edges settings).services ↔
      ∃ n ∈ nodes, ∃ a, n.attributes = .service a ∧
        s = serviceEntry settings (givenOr a.name n.id) a := by
  simp only [document, extended, List.nil_append, List.mem_flatMap]
  refine exists_congr fun n => and_congr_right fun _ => ?_
  cases kind : n.attributes <;> simp [serviceEntries, kind]

theorem mem_routes {r : RouteEntry} :
    r ∈ (document nodes edges settings).routes ↔
      ∃ n ∈ nodes, ∃ a, n.attributes = .route a ∧
        r = routeEntry (Index.build nodes edges) settings n.id (givenOr a.name n.id) a := by
  simp only [document, extended, List.nil_append, List.mem_flatMap]
  refine exists_congr fun n => and_congr_right fun _ => ?_
  cases kind : n.attributes <;> simp [routeEntries, kind]

theorem mem_plugins {p : PluginEntry} :
    p ∈ (document nodes edges settings).plugins ↔
      ∃ n ∈ nodes, ∃ a, n.attributes = .plugin a ∧
        p ∈ plugin (Index.build nodes edges) settings n.id a := by
  simp only [document, extended, List.nil_append, List.mem_flatMap]
  refine exists_congr fun n => and_congr_right fun _ => ?_
  cases kind : n.attributes <;> simp [pluginEntries, kind]

theorem mem_consumers {c : ConsumerEntry} :
    c ∈ (document nodes edges settings).consumers ↔
      ∃ n ∈ nodes, ∃ a, n.attributes = .consumer a ∧ c = consumer n.id a := by
  simp only [document, extended, List.nil_append, List.mem_flatMap]
  refine exists_congr fun n => and_congr_right fun _ => ?_
  cases kind : n.attributes <;> simp [consumerEntries, kind]

theorem mem_upstreams {u : UpstreamEntry} :
    u ∈ (document nodes edges settings).upstreams ↔
      ∃ n ∈ nodes, ∃ a, n.attributes = .upstream a ∧ u = upstream n.id a := by
  simp only [document, extended, List.nil_append, List.mem_flatMap]
  refine exists_congr fun n => and_congr_right fun _ => ?_
  cases kind : n.attributes <;> simp [upstreamEntries, kind]

theorem exists_service_named {n : Node} (member : n ∈ nodes) (kind : n.kind = .service) :
    ∃ s ∈ (document nodes edges settings).services, s.name = n.displayName := by
  cases attributes : n.attributes with
  | service a =>
    refine ⟨_, mem_services.mpr ⟨n, member, a, attributes, rfl⟩, ?_⟩
    simp [serviceEntry, Node.displayName, Attributes.name?, attributes]
  | _ => simp [Node.kind, Attributes.kind, attributes] at kind

theorem exists_route_named {n : Node} (member : n ∈ nodes) (kind : n.kind = .route) :
    ∃ r ∈ (document nodes edges settings).routes, r.name = n.displayName := by
  cases attributes : n.attributes with
  | route a =>
    refine ⟨_, mem_routes.mpr ⟨n, member, a, attributes, rfl⟩, ?_⟩
    simp [routeEntry, Node.displayName, Attributes.name?, attributes]
  | _ => simp [Node.kind, Attributes.kind, attributes] at kind

/-! ### What routes refer to -/

/-- How a route refers to a service of the flow. -/
def referenceTo (settings : Settings) (n : Node) : String :=
  match settings.routeReference with
  | .id => n.id
  | .name => n.displayName

/-- A route refers to the service that the first of its edges to a service leads to. -/
theorem serviceReference_of_any {id : String}
    (leads : (((Index.build nodes edges).edgesFrom id).any fun e =>
      (Index.build nodes edges).kindOf? e.target == some .service) = true) :
    ∃ e target, (((Index.build nodes edges).edgesFrom id).find? fun e =>
        (Index.build nodes edges).kindOf? e.target == some .service) = some e ∧
      (Index.build nodes edges).node? e.target = some target ∧ target.kind = .service ∧
      serviceReference (Index.build nodes edges) settings id =
        some (referenceTo settings target) := by
  cases found : ((Index.build nodes edges).edgesFrom id).find? fun e =>
      (Index.build nodes edges).kindOf? e.target == some .service with
  | none =>
    -- The edge that is looked for is there, so the first one is never fallen back on.
    obtain ⟨e, member, leads⟩ := List.any_eq_true.mp leads
    exact absurd leads (List.find?_eq_none.mp found e member)
  | some e =>
    have kind := List.find?_some found
    simp only [beq_iff_eq, Index.kindOf?, Option.map_eq_some_iff] at kind
    obtain ⟨target, there, kind⟩ := kind
    refine ⟨e, target, rfl, there, kind, ?_⟩
    rw [serviceReference, routeEdge?, found, Option.some_or, Option.map_some, referenceTo]
    cases settings.routeReference <;> simp [there, (Index.mem_of_build_node? there).2]

/-- In a valid flow some edge of every route leads to a service. -/
theorem any_service_of_valid (valid : Validation.errors nodes edges settings = []) {n : Node}
    (member : n ∈ nodes) (kind : n.kind = .route) :
    (((Index.build nodes edges).edgesFrom n.id).any fun e =>
      (Index.build nodes edges).kindOf? e.target == some .service) = true := by
  have clean := ((Validation.errors_eq_nil nodes edges settings).mp valid).2 n member
  cases attributes : n.attributes with
  | route a =>
    simp only [Validation.nodeErrors, attributes, Validation.routeErrors,
      List.append_eq_nil_iff] at clean
    obtain ⟨leads, -⟩ := clean
    by_contra leadsNowhere
    rw [if_neg leadsNowhere] at leads
    cases leads
  | _ => simp [Node.kind, Attributes.kind, attributes] at kind

/-- Every route entry of a valid flow refers to a service of the flow. -/
theorem route_reference (valid : Validation.errors nodes edges settings = []) {r : RouteEntry}
    (member : r ∈ (document nodes edges settings).routes) :
    ∃ target ∈ nodes, target.kind = .service ∧ r.service = some (referenceTo settings target) := by
  obtain ⟨n, there, a, attributes, rfl⟩ := mem_routes.mp member
  obtain ⟨e, target, -, found, kind, reference⟩ :=
    serviceReference_of_any (any_service_of_valid valid there (congrArg Attributes.kind attributes))
  exact ⟨target, (Index.mem_of_build_node? found).1, kind, reference⟩

/-! ### What plugins are limited to -/

theorem mem_plugin {index : Index} {id : String} {a : PluginAttributes} {p : PluginEntry}
    (member : p ∈ plugin index settings id a) :
    p = unscoped settings a ∨
      ∃ e ∈ index.edgesFrom id, ∃ target, index.node? e.target = some target ∧
        p = limited (unscoped settings a) target := by
  simp only [plugin] at member
  split at member
  next => exact .inl (List.mem_singleton.mp member)
  next =>
    obtain ⟨e, leaving, limiting⟩ := List.mem_filterMap.mp member
    obtain ⟨target, there, rfl⟩ := Option.map_eq_some_iff.mp limiting
    exact .inr ⟨e, leaving, target, there, rfl⟩

theorem limited_service {a : PluginAttributes} {target : Node} {name : String}
    (limits : (limited (unscoped settings a) target).service = some name) :
    target.kind = .service ∧ target.displayName = name := by
  cases attributes : target.attributes <;>
    simp_all [limited, unscoped, Node.kind, Attributes.kind, Node.displayName, Attributes.name?]

theorem limited_route {a : PluginAttributes} {target : Node} {name : String}
    (limits : (limited (unscoped settings a) target).route = some name) :
    target.kind = .route ∧ target.displayName = name := by
  cases attributes : target.attributes <;>
    simp_all [limited, unscoped, Node.kind, Attributes.kind, Node.displayName, Attributes.name?]

/-- The scopes of plugins resolve whether the flow is valid or not. -/
theorem exists_service_of_plugin {p : PluginEntry} {name : String}
    (member : p ∈ (document nodes edges settings).plugins) (limits : p.service = some name) :
    ∃ s ∈ (document nodes edges settings).services, s.name = name := by
  obtain ⟨n, -, a, -, emitted⟩ := mem_plugins.mp member
  rcases mem_plugin emitted with rfl | ⟨e, -, target, there, rfl⟩
  · cases limits
  · obtain ⟨kind, rfl⟩ := limited_service limits
    exact exists_service_named (Index.mem_of_build_node? there).1 kind

theorem exists_route_of_plugin {p : PluginEntry} {name : String}
    (member : p ∈ (document nodes edges settings).plugins) (limits : p.route = some name) :
    ∃ r ∈ (document nodes edges settings).routes, r.name = name := by
  obtain ⟨n, -, a, -, emitted⟩ := mem_plugins.mp member
  rcases mem_plugin emitted with rfl | ⟨e, -, target, there, rfl⟩
  · cases limits
  · obtain ⟨kind, rfl⟩ := limited_route limits
    exact exists_route_named (Index.mem_of_build_node? there).1 kind

/-! ### Names that rendering keeps -/

theorem sanitize_service_name (valid : Validation.errors nodes edges settings = [])
    {s : ServiceEntry} (member : s ∈ (document nodes edges settings).services) :
    Sanitize.text s.name = s.name := by
  obtain ⟨n, there, a, attributes, rfl⟩ := mem_services.mp member
  have accepted := Validation.nameFailure?_of_valid valid n there
  simp only [nameFailure?, attributes, Option.map_eq_none_iff] at accepted
  exact Identifier.sanitize_text accepted

theorem sanitize_route_name (valid : Validation.errors nodes edges settings = [])
    {r : RouteEntry} (member : r ∈ (document nodes edges settings).routes) :
    Sanitize.text r.name = r.name := by
  obtain ⟨n, there, a, attributes, rfl⟩ := mem_routes.mp member
  have accepted := Validation.nameFailure?_of_valid valid n there
  simp only [nameFailure?, attributes, Option.map_eq_none_iff] at accepted
  exact Identifier.sanitize_text accepted

end Lowering

/-- The references of a document lead to services of the flow and to entries of the document. -/
structure Document.Resolved (d : Document) (nodes : List Node) (settings : Settings) : Prop where
  routes_by_id : settings.routeReference = .id → ∀ r ∈ d.routes,
    ∃ n ∈ nodes, n.kind = .service ∧ r.service = some n.id
  routes_by_name : settings.routeReference = .name → ∀ r ∈ d.routes,
    ∃ s ∈ d.services, r.service = some s.name
  plugin_services : ∀ p ∈ d.plugins, ∀ name, p.service = some name →
    ∃ s ∈ d.services, s.name = name
  plugin_routes : ∀ p ∈ d.plugins, ∀ name, p.route = some name → ∃ r ∈ d.routes, r.name = name

/-- The names that entries refer to each other by stand in the rendered data as in the document. -/
structure Document.KeepsNames (d : Document) (settings : Settings) : Prop where
  services : (d.rendered.sectionOf "services").map (Value.field? "name") =
    d.services.map fun s => some (.text s.name)
  routes : (d.rendered.sectionOf "routes").map (Value.field? "name") =
    d.routes.map fun r => some (.text r.name)
  route_services : settings.routeReference = .name →
    (d.rendered.sectionOf "routes").map (Value.field? "service") =
      d.routes.map fun r => r.service.map .text
  plugin_services : (d.rendered.sectionOf "plugins").map (Value.field? "service") =
    d.plugins.map fun p => p.service.map .text
  plugin_routes : (d.rendered.sectionOf "plugins").map (Value.field? "route") =
    d.plugins.map fun p => p.route.map .text

theorem document_resolved (valid : Validation.errors nodes edges settings = []) :
    (Lowering.document nodes edges settings).Resolved nodes settings where
  routes_by_id mode r member := by
    obtain ⟨target, present, kind, reference⟩ := Lowering.route_reference valid member
    rw [Lowering.referenceTo, mode] at reference
    exact ⟨target, present, kind, reference⟩
  routes_by_name mode r member := by
    obtain ⟨target, present, kind, reference⟩ := Lowering.route_reference valid member
    rw [Lowering.referenceTo, mode] at reference
    -- Every node of a service has its entry, under the name that routes refer to.
    obtain ⟨s, emitted, named⟩ : ∃ s ∈ (Lowering.document nodes edges settings).services,
        s.name = target.displayName := Lowering.exists_service_named present kind
    exact ⟨s, emitted, named ▸ reference⟩
  plugin_services p member name limits := Lowering.exists_service_of_plugin member limits
  plugin_routes p member name limits := Lowering.exists_route_of_plugin member limits

theorem document_keepsNames (valid : Validation.errors nodes edges settings = []) :
    (Lowering.document nodes edges settings).KeepsNames settings := by
  -- Names of a valid flow are identifiers, and every reference is one of these names.
  have resolved := document_resolved valid
  refine ⟨?_, ?_, fun mode => ?_, ?_, ?_⟩
  · refine Document.services_rendered _ "name" (some ·.name) ServiceEntry.field?_name ?_
    rintro s member name ⟨⟩
    exact Lowering.sanitize_service_name valid member
  · refine Document.routes_rendered _ "name" (some ·.name) RouteEntry.field?_name ?_
    rintro r member name ⟨⟩
    exact Lowering.sanitize_route_name valid member
  · refine Document.routes_rendered _ "service" _ RouteEntry.field?_service ?_
    intro r member name given
    obtain ⟨s, emitted, reference⟩ := resolved.routes_by_name mode r member
    obtain rfl : s.name = name := Option.some.inj (reference.symm.trans given)
    exact Lowering.sanitize_service_name valid emitted
  · refine Document.plugins_rendered _ "service" _ PluginEntry.field?_service ?_
    intro p member name limits
    obtain ⟨s, emitted, rfl⟩ := resolved.plugin_services p member name limits
    exact Lowering.sanitize_service_name valid emitted
  · refine Document.plugins_rendered _ "route" _ PluginEntry.field?_route ?_
    intro p member name limits
    obtain ⟨r, emitted, rfl⟩ := resolved.plugin_routes p member name limits
    exact Lowering.sanitize_route_name valid emitted

/-- A valid flow is lowered to a document whose references resolve and whose names rendering
keeps. -/
theorem references_resolve (nodes : List Node) (edges : List Edge) (settings : Settings)
    (valid : (validate nodes edges settings).valid = true) :
    ∃ d, (lower nodes edges settings).result = .ok d ∧ d.Resolved nodes settings ∧
      d.KeepsNames settings := by
  have clean := (validate_valid nodes edges settings).mp valid
  exact ⟨_, lower_of_valid clean, document_resolved clean, document_keepsNames clean⟩

/-- A plugin on a route and on the service behind the route. The service comes last, and the first
edge of the route leads nowhere. -/
def guardedNodes : List Node :=
  [⟨"guard", .plugin {}, by decide⟩, ⟨"orders-route", .route {}, by decide⟩,
    ⟨"orders", .service { name := some "api", host := some "api.local" }, by decide⟩]

def guardedEdges : List Edge :=
  [⟨"e1", "guard", "orders-route", none, none, by decide, by decide, by decide⟩,
    ⟨"e2", "guard", "orders", none, none, by decide, by decide, by decide⟩,
    ⟨"e3", "orders-route", "nowhere", none, none, by decide, by decide, by decide⟩,
    ⟨"e4", "orders-route", "orders", none, none, by decide, by decide, by decide⟩]

theorem references_resolve_for_guarded :
    let settings : Settings := { routeReference := .name }
    (validate guardedNodes guardedEdges settings).valid = true ∧
      ∃ d, (lower guardedNodes guardedEdges settings).result = .ok d ∧
        d.Resolved guardedNodes settings ∧ d.KeepsNames settings := by
  intro settings
  have valid : (validate guardedNodes guardedEdges settings).valid = true := by decide
  exact ⟨valid, references_resolve guardedNodes guardedEdges settings valid⟩

end GatewayFlow
