import GatewayFlow.Proofs.IndexScans
import GatewayFlow.Proofs.LoweredDocuments

/-!
# Plugin fan-out

The plugins of a document, read off the plain lists of a flow. A plugin that no edge leaves has one
entry without scope; any other has one entry for each of its edges that leads to a node of the flow,
in the order of the edges, and the kind of that node decides which scope the entry has.
-/
namespace GatewayFlow

/-- The kinds that a plugin can be limited to. -/
def Kind.isScope : Kind → Bool
  | .service | .route | .consumer => true
  | .plugin | .upstream | .target | .certificate | .sni => false

/-- The name by which an entry refers to the node that it is limited to. -/
def Node.scopeName (n : Node) : String :=
  match n.attributes with
  | .consumer a => givenOr a.username n.id
  | _ => n.displayName

/-- What the scope field of a kind says in an entry that is limited to a node. -/
def Node.scopeField (n : Node) (kind : Kind) : Option String :=
  if n.kind = kind then some n.scopeName else none

/-- The scope fields of an entry that are set. -/
def PluginEntry.scopes (p : PluginEntry) : List String :=
  p.service.toList ++ p.route.toList ++ p.consumer.toList

/-- The nodes that the edges from an id lead to, in the order of the edges. A dangling edge leads to
none. -/
def reached (nodes : List Node) (edges : List Edge) (id : String) : List Node :=
  (edges.filter fun e => e.source == id).filterMap fun e => nodes.find? fun n => n.id == e.target

theorem reached_eq_nil (nodes : List Node) (edges : List Edge) (id : String) :
    reached nodes edges id = [] ↔ ∀ e ∈ edges, e.source = id → e.target ∉ nodes.map Node.id := by
  rw [reached, List.filterMap_eq_nil_iff]
  simp only [List.mem_filter, beq_iff_eq, List.find?_eq_none, and_imp, List.mem_map, not_exists,
    not_and]

namespace Lowering

/-- The entry of a plugin for an edge to a node. -/
def instanceOn (settings : Settings) (a : PluginAttributes) (target : Node) : PluginEntry where
  name := givenOr a.name settings.defaultPluginName
  enabled := a.enabled.getD true
  config := nonEmpty? a.config
  service := target.scopeField .service
  route := target.scopeField .route
  consumer := target.scopeField .consumer

/-- The entries of a node that is a plugin. -/
def fanOut (nodes : List Node) (edges : List Edge) (settings : Settings) (n : Node) :
    List PluginEntry :=
  match n.attributes with
  | .plugin a =>
    if ∀ e ∈ edges, e.source ≠ n.id then [unscoped settings a]
    else (reached nodes edges n.id).map (instanceOn settings a)
  | _ => []

variable {nodes : List Node} {edges : List Edge} {settings : Settings} {a : PluginAttributes}

/-! ### Entries and their scopes -/

theorem limited_unscoped (settings : Settings) (a : PluginAttributes) :
    limited (unscoped settings a) = instanceOn settings a := by
  funext target
  cases attributes : target.attributes <;>
    simp [limited, unscoped, instanceOn, Node.scopeField, Node.scopeName, Node.kind,
      Attributes.kind, Node.displayName, Attributes.name?, attributes]

/-- The scope fields exclude each other, as a node has one kind. -/
theorem scopes_instanceOn (settings : Settings) (a : PluginAttributes) (target : Node) :
    (instanceOn settings a target).scopes =
      if target.kind.isScope then [target.scopeName] else [] := by
  cases kind : target.kind <;>
    simp [PluginEntry.scopes, instanceOn, Node.scopeField, Kind.isScope, kind]

theorem isGlobal_iff (p : PluginEntry) : p.isGlobal = true ↔ p.scopes = [] := by
  simp [PluginEntry.isGlobal, PluginEntry.scopes, and_assoc]

theorem isGlobal_instanceOn (settings : Settings) (a : PluginAttributes) (target : Node) :
    (instanceOn settings a target).isGlobal = !target.kind.isScope := by
  rw [Bool.eq_iff_iff, isGlobal_iff, scopes_instanceOn]
  cases target.kind.isScope <;> simp

/-! ### Plugins over the index -/

/-- Where ids are distinct, what a plugin finds in the index is what it reaches in the lists. -/
theorem plugin_build (distinct : (nodes.map Node.id).Nodup) (id : String) :
    plugin (Index.build nodes edges) settings id a =
      if ∀ e ∈ edges, e.source ≠ id then [unscoped settings a]
      else (reached nodes edges id).map (instanceOn settings a) := by
  -- A plugin has no group of edges in the index exactly when no edge of the list leaves it.
  have unconnected : (edges.filter fun e => e.source == id).isEmpty = true ↔
      ∀ e ∈ edges, e.source ≠ id := by
    simp
  simp only [plugin, Index.build_edgesFrom, Index.build_node?_of_distinct distinct, unconnected,
    limited_unscoped, reached, List.map_filterMap]

theorem pluginEntries_build (distinct : (nodes.map Node.id).Nodup) (n : Node) :
    pluginEntries (Index.build nodes edges) settings n = fanOut nodes edges settings n := by
  cases attributes : n.attributes with
  | plugin a => simp only [pluginEntries, fanOut, attributes, plugin_build distinct]
  | _ => simp only [pluginEntries, fanOut, attributes]

end Lowering

/-- How the entries of a plugin come from the nodes that it is connected to. -/
structure PluginEntry.FansOut (nodes : List Node) (edges : List Edge) (settings : Settings)
    (id : String) (a : PluginAttributes) (entries : List PluginEntry) : Prop where
  alike : ∀ p ∈ entries, p.name = givenOr a.name settings.defaultPluginName ∧
    p.enabled = a.enabled.getD true ∧ p.config = Lowering.nonEmpty? a.config
  one_scope : ∀ p ∈ entries, p.scopes.length ≤ 1
  global : entries.map isGlobal =
    if ∀ e ∈ edges, e.source ≠ id then [true]
    else (reached nodes edges id).map fun target => !target.kind.isScope
  silent : entries = [] ↔
    (∃ e ∈ edges, e.source = id) ∧ ∀ e ∈ edges, e.source = id → e.target ∉ nodes.map Node.id

namespace PluginEntry.FansOut

variable {nodes : List Node} {edges : List Edge} {id : String}

theorem unconnected (settings : Settings) (a : PluginAttributes)
    (unconnected : ∀ e ∈ edges, e.source ≠ id) :
    FansOut nodes edges settings id a [Lowering.unscoped settings a] where
  alike p member := by
    obtain rfl := List.mem_singleton.mp member
    exact ⟨rfl, rfl, rfl⟩
  one_scope p member := by
    obtain rfl := List.mem_singleton.mp member
    exact Nat.zero_le 1
  global := by
    rw [if_pos unconnected]
    rfl
  silent := by
    refine ⟨nofun, ?_⟩
    rintro ⟨⟨e, member, leaving⟩, -⟩
    exact absurd leaving (unconnected e member)

theorem connected (settings : Settings) (a : PluginAttributes)
    (connected : ¬∀ e ∈ edges, e.source ≠ id) :
    FansOut nodes edges settings id a
      ((reached nodes edges id).map (Lowering.instanceOn settings a)) where
  alike p member := by
    obtain ⟨target, -, rfl⟩ := List.mem_map.mp member
    exact ⟨rfl, rfl, rfl⟩
  one_scope p member := by
    obtain ⟨target, -, rfl⟩ := List.mem_map.mp member
    rw [Lowering.scopes_instanceOn]
    split <;> simp
  global := by
    rw [if_neg connected, List.map_map]
    exact List.map_congr_left fun target _ => Lowering.isGlobal_instanceOn settings a target
  silent := by
    have leaving : ∃ e ∈ edges, e.source = id := by simpa using connected
    rw [List.map_eq_nil_iff, reached_eq_nil]
    exact ⟨fun dangling => ⟨leaving, dangling⟩, And.right⟩

end PluginEntry.FansOut

theorem fansOut_fanOut (nodes : List Node) (edges : List Edge) (settings : Settings) {n : Node}
    {a : PluginAttributes} (plugin : n.attributes = .plugin a) :
    PluginEntry.FansOut nodes edges settings n.id a (Lowering.fanOut nodes edges settings n) := by
  rw [Lowering.fanOut, plugin]
  by_cases leaving : ∀ e ∈ edges, e.source ≠ n.id
  · simp only [if_pos leaving]
    exact .unconnected settings a leaving
  · simp only [if_neg leaving]
    exact .connected settings a leaving

/-- The plugins of a document are those of the plugin nodes in turn, and each plugin fans out over
its edges. -/
theorem plugins_fan_out {nodes : List Node} {edges : List Edge} {settings : Settings}
    {d : Document} (distinct : (nodes.map Node.id).Nodup)
    (lowered : (lower nodes edges settings).result = .ok d) :
    d.plugins = nodes.flatMap (Lowering.fanOut nodes edges settings) ∧
      ∀ n ∈ nodes, ∀ a, n.attributes = .plugin a →
        PluginEntry.FansOut nodes edges settings n.id a
          (Lowering.fanOut nodes edges settings n) := by
  obtain ⟨-, rfl⟩ := (lower_eq_ok nodes edges settings d).mp lowered
  refine ⟨?_, fun n _ a plugin => fansOut_fanOut nodes edges settings plugin⟩
  rw [Lowering.document, Lowering.extended, List.nil_append]
  exact List.flatMap_congr fun n _ => Lowering.pluginEntries_build distinct n

/-- A plugin that is connected to a node of another kind, to no node, and to nodes of all three
scopes; one that nothing leaves; and one whose only edge dangles. -/
def limitedNodes : List Node :=
  [⟨"rate-limit", .plugin { config := some [("minute", .int 5)] }, by decide⟩,
    ⟨"cors", .plugin { name := some "cors", enabled := some false }, by decide⟩,
    ⟨"lost", .plugin {}, by decide⟩, ⟨"book-pool", .upstream {}, by decide⟩,
    ⟨"books", .service { name := some "library" }, by decide⟩, ⟨"shelves", .route {}, by decide⟩,
    ⟨"reader", .consumer { customId := some "7" }, by decide⟩]

def limitedEdges : List Edge :=
  [⟨"e1", "rate-limit", "book-pool", none, none, by decide, by decide, by decide⟩,
    ⟨"e2", "lost", "missing", none, none, by decide, by decide, by decide⟩,
    ⟨"e3", "rate-limit", "reader", none, none, by decide, by decide, by decide⟩,
    ⟨"e4", "rate-limit", "gone", none, none, by decide, by decide, by decide⟩,
    ⟨"e5", "shelves", "cors", none, none, by decide, by decide, by decide⟩,
    ⟨"e6", "rate-limit", "books", none, none, by decide, by decide, by decide⟩,
    ⟨"e7", "rate-limit", "shelves", none, none, by decide, by decide, by decide⟩]

theorem plugins_fan_out_over_limited :
    (limitedNodes.map Node.id).Nodup ∧
      ∃ d, (lower limitedNodes limitedEdges {}).result = .ok d ∧
        d.plugins.map PluginEntry.scopes = [[], ["reader"], ["library"], ["shelves"], []] ∧
        d.plugins = limitedNodes.flatMap (Lowering.fanOut limitedNodes limitedEdges {}) ∧
        ∀ n ∈ limitedNodes, ∀ a, n.attributes = .plugin a →
          PluginEntry.FansOut limitedNodes limitedEdges {} n.id a
            (Lowering.fanOut limitedNodes limitedEdges {} n) := by
  have distinct : (limitedNodes.map Node.id).Nodup := by decide
  have lowered : (lower limitedNodes limitedEdges {}).result =
      .ok (Lowering.document limitedNodes limitedEdges {}) := rfl
  exact ⟨distinct, _, lowered, by decide, plugins_fan_out distinct lowered⟩

end GatewayFlow
