import GatewayFlow.Proofs.LoadedConnections
import GatewayFlow.Proofs.PluginFanOut

/-!
# Deleted nodes and the scopes of plugins

A node that is deleted takes the edges at it along, so a plugin loses the entries limited to that
node and keeps the others in order. A plugin that led nowhere else has no edge left, and what has no
edge is global: this is the one way in which a deletion widens what a plugin applies to.
-/
namespace GatewayFlow

/-! ### Edges that are left -/

/-- There are edges from an id, and all of them lead to one other. -/
def OnlyLeadsTo (edges : List Edge) (id other : String) : Prop :=
  (∃ e ∈ edges, e.source = id) ∧ ∀ e ∈ edges, e.source = id → e.target = other

theorem mem_reached {nodes : List Node} (distinct : (nodes.map Node.id).Nodup) (edges : List Edge)
    (id : String) (n : Node) :
    n ∈ reached nodes edges id ↔ n ∈ nodes ∧ ∃ e ∈ edges, e.source = id ∧ e.target = n.id := by
  simp only [reached, List.mem_filterMap, List.mem_filter, beq_iff_eq,
    Index.find?_id_eq_some distinct]
  constructor
  · rintro ⟨e, ⟨member, source⟩, there, target⟩
    exact ⟨there, e, member, source, target.symm⟩
  · rintro ⟨there, e, member, source, target⟩
    exact ⟨e, ⟨member, source⟩, there, target.symm⟩

namespace Editor

variable {σ : Type}

theorem delete_of_mem (e : Editor σ) {n : Node} (there : n ∈ e.nodes) :
    (e.delete (.text n.id)).2 = e.without n.id := by
  obtain ⟨m, found, same⟩ := e.exists_find?_of_mem (List.mem_map_of_mem there)
  have got : e.get (.text n.id) = .ok m := (e.get_eq_ok ..).mpr found
  rw [delete, got]
  dsimp only
  rw [same]

theorem without_distinct (e : Editor σ) (distinct : (e.nodes.map Node.id).Nodup) (id : String) :
    ((e.without id).nodes.map Node.id).Nodup :=
  distinct.sublist (List.filter_sublist.map Node.id)

/-- The edges from another node that stay are those that do not lead to the node that goes. -/
theorem without_edges_from (e : Editor σ) {id other : String} (apart : other ≠ id) :
    ((e.without id).edges.filter fun edge => edge.source == other) =
      (e.edges.filter fun edge => edge.source == other).filter fun edge => edge.target != id := by
  rw [without, List.filter_filter, List.filter_filter]
  refine List.filter_congr fun edge _ => ?_
  by_cases leaving : edge.source = other
  · simp [leaving, apart]
  · simp [beq_false_of_ne leaving]

theorem without_unconnected (e : Editor σ) {id other : String} (apart : other ≠ id) :
    (∀ edge ∈ (e.without id).edges, edge.source ≠ other) ↔
      ∀ edge ∈ e.edges, edge.source = other → edge.target = id := by
  have none_left := congrArg (· = []) (e.without_edges_from apart)
  simpa only [List.filter_eq_nil_iff, List.mem_filter, beq_iff_eq, and_imp, bne_iff_ne, ne_eq,
    not_not, eq_iff_iff] using none_left

theorem without_find? (e : Editor σ) (id target : String) :
    ((e.without id).nodes.find? fun n => n.id == target) =
      (e.nodes.find? fun n => n.id == target).filter fun n => n.id != id := by
  rw [without, List.find?_filter]
  by_cases gone : target = id
  · rw [gone, List.find?_eq_none.mpr (by simp), eq_comm, Option.filter_eq_none_iff]
    intro n found
    simpa using List.find?_some found
  · have same : (fun n : Node => decide ((n.id != id) = true ∧ (n.id == target) = true)) =
        fun n => n.id == target := by
      funext n
      by_cases here : n.id = target <;> simp [here, gone]
    rw [same]
    cases found : e.nodes.find? fun n => n.id == target with
    | none => rfl
    | some n =>
      have kept : n.id = target := (Index.mem_of_find?_key found).2
      have stays : (n.id != id) = true := by simpa [kept] using gone
      simp only [Option.filter, stays, if_true]

/-- What another node reaches after a deletion is what it reached before, without the node that is
gone. -/
theorem without_reached (e : Editor σ) {id other : String} (apart : other ≠ id) :
    reached (e.without id).nodes (e.without id).edges other =
      (reached e.nodes e.edges other).filter fun n => n.id != id := by
  rw [reached, e.without_edges_from apart, reached, List.filterMap_filter, List.filter_filterMap]
  refine List.filterMap_congr fun edge _ => ?_
  rw [e.without_find?]
  split
  · rfl
  next gone =>
    -- What an edge to the id finds is the node that goes.
    have target : edge.target = id := by simpa using gone
    rw [eq_comm, Option.filter_eq_none_iff]
    intro n found
    simpa [target] using List.find?_some found

end Editor

namespace Lowering

theorem instanceOn_eq_unscoped_iff (settings : Settings) (a : PluginAttributes) (target : Node) :
    instanceOn settings a target = unscoped settings a ↔ target.kind.isScope = false := by
  constructor
  · intro same
    have global := isGlobal_instanceOn settings a target
    rw [same] at global
    simpa [PluginEntry.isGlobal, unscoped] using global
  · intro other
    rw [← limited_unscoped]
    cases attributes : target.attributes <;>
      simp_all [limited, Node.kind, Attributes.kind, Kind.isScope]

/-- A plugin that leads to one node alone has the entry for it, once or more often, and no other. -/
theorem mem_fanOut_of_onlyLeadsTo {nodes : List Node} (distinct : (nodes.map Node.id).Nodup)
    {edges : List Edge} (settings : Settings) {p d : Node} {a : PluginAttributes}
    (plugin : p.attributes = .plugin a) (there : d ∈ nodes) (only : OnlyLeadsTo edges p.id d.id)
    (q : PluginEntry) :
    q ∈ fanOut nodes edges settings p ↔ q = instanceOn settings a d := by
  obtain ⟨⟨e, member, source⟩, targets⟩ := only
  have connected : ¬∀ e ∈ edges, e.source ≠ p.id := fun none => none e member source
  simp only [fanOut, plugin, if_neg connected, List.mem_map, mem_reached distinct]
  constructor
  · rintro ⟨n, ⟨atHand, e', member', source', target'⟩, rfl⟩
    -- Ids are distinct, so a node with the id that all edges lead to is that node.
    have same : n.id = d.id := target'.symm.trans (targets e' member' source')
    rw [List.inj_on_of_nodup_map distinct atHand there same]
  · rintro rfl
    exact ⟨d, ⟨there, e, member, source, targets e member source⟩, rfl⟩

end Lowering

/-! ### Entries before and after -/

namespace Editor

variable {σ : Type}

/-- The entries that a plugin has in the flow at hand. -/
def entriesOf (settings : Settings) (e : Editor σ) (p : Node) : List PluginEntry :=
  Lowering.pluginEntries (Index.build e.nodes e.edges) settings p

theorem entriesOf_eq (settings : Settings) (e : Editor σ)
    (distinct : (e.nodes.map Node.id).Nodup) (p : Node) :
    e.entriesOf settings p = Lowering.fanOut e.nodes e.edges settings p :=
  Lowering.pluginEntries_build distinct p

section

variable {e : Editor σ} (settings : Settings) (distinct : (e.nodes.map Node.id).Nodup)
  {p : Node} {a : PluginAttributes} (plugin : p.attributes = .plugin a)

include distinct plugin

theorem entriesOf_without_of_onlyLeadsTo {id : String} (apart : p.id ≠ id)
    (only : OnlyLeadsTo e.edges p.id id) :
    (e.without id).entriesOf settings p = [Lowering.unscoped settings a] := by
  -- All edges of the plugin go with the node, and what has no edge is global.
  have unconnected := (e.without_unconnected apart).mpr only.2
  rw [entriesOf_eq settings _ (e.without_distinct distinct id), Lowering.fanOut, plugin]
  exact if_pos unconnected

/-- A plugin that leads to another node as well, or to none, keeps entries in their order. -/
theorem entriesOf_without_sublist {id : String} (apart : p.id ≠ id)
    (more : ¬OnlyLeadsTo e.edges p.id id) :
    ((e.without id).entriesOf settings p).Sublist (e.entriesOf settings p) := by
  rw [entriesOf_eq settings _ (e.without_distinct distinct id), entriesOf_eq settings e distinct,
    Lowering.fanOut, Lowering.fanOut, plugin]
  dsimp only
  by_cases unconnected : ∀ edge ∈ e.edges, edge.source ≠ p.id
  · have still : ∀ edge ∈ (e.without id).edges, edge.source ≠ p.id :=
      (e.without_unconnected apart).mpr fun edge member source =>
        absurd source (unconnected edge member)
    rw [if_pos still, if_pos unconnected]
  · -- An edge that leads elsewhere is left, so the plugin fans out over what it still reaches.
    have still : ¬∀ edge ∈ (e.without id).edges, edge.source ≠ p.id := by
      rw [e.without_unconnected apart]
      intro targets
      exact more ⟨by simpa using unconnected, targets⟩
    rw [if_neg still, if_neg unconnected, e.without_reached apart]
    exact List.filter_sublist.map _

/-- Deleting a node widens what a plugin applies to exactly when there are edges from the plugin,
all of them lead to that node, and it is one that a plugin can be limited to. Then the plugin, which
had only entries limited to that node, has the global one in their place. In every other case its
entries are some of those it had, in their order, and none is global if none was. -/
theorem delete_widens_iff {d : Node} (atHand : p ∈ e.nodes) (there : d ∈ e.nodes)
    (apart : p.id ≠ d.id) :
    let after := (e.delete (.text d.id)).2
    let before := e.entriesOf settings p
    let left := after.entriesOf settings p
    let widened := OnlyLeadsTo e.edges p.id d.id ∧ d.kind.isScope = true
    p ∈ after.nodes ∧ d ∉ after.nodes ∧
      (left.Sublist before ↔ ¬widened) ∧
      (((∀ q ∈ before, q.isGlobal = false) → ∀ q ∈ left, q.isGlobal = false) ↔ ¬widened) ∧
      (widened → (∀ q ∈ before, q.scopes = [d.scopeName]) ∧
        left = [Lowering.unscoped settings a]) := by
  intro after before left widened
  have gone : after = e.without d.id := e.delete_of_mem there
  have stays : p ∈ after.nodes := by
    rw [gone, without, List.mem_filter]
    exact ⟨atHand, by simpa using apart⟩
  have leaves : d ∉ after.nodes := by
    rw [gone, without, List.mem_filter]
    simp
  by_cases only : OnlyLeadsTo e.edges p.id d.id
  · have leftOne : left = [Lowering.unscoped settings a] := by
      simp only [left, gone]
      exact entriesOf_without_of_onlyLeadsTo settings distinct plugin apart only
    have limited (q : PluginEntry) : q ∈ before ↔ q = Lowering.instanceOn settings a d := by
      simp only [before, e.entriesOf_eq settings distinct p]
      exact Lowering.mem_fanOut_of_onlyLeadsTo distinct settings plugin there only q
    have able : widened ↔ d.kind.isScope = true := and_iff_right only
    -- One kind of entry before and one after: whether they differ decides every part.
    refine ⟨stays, leaves, ?_, ?_, fun wide => ⟨fun q member => ?_, leftOne⟩⟩
    · rw [leftOne, List.singleton_sublist, limited, eq_comm, Lowering.instanceOn_eq_unscoped_iff,
        able, Bool.not_eq_true]
    · have global : (Lowering.unscoped settings a).isGlobal = true := rfl
      simp only [leftOne, limited, forall_eq, List.mem_singleton, global,
        Lowering.isGlobal_instanceOn, able]
      simp
    · rw [(limited q).mp member, Lowering.scopes_instanceOn, if_pos wide.2]
  · have kept : left.Sublist before := by
      simp only [left, gone]
      exact entriesOf_without_sublist settings distinct plugin apart only
    have narrow : ¬widened := fun wide => only wide.1
    exact ⟨stays, leaves, iff_of_true kept narrow,
      iff_of_true (fun none q member => none q (kept.subset member)) narrow,
      fun wide => absurd wide narrow⟩

end

/-- A plugin that reaches other nodes as well: without the service it is limited to what is left. -/
theorem delete_widens_iff_over_limited :
    let e : Editor IdCounter := ⟨limitedNodes, limitedEdges, .initial⟩
    let p := limitedNodes[0]
    let d := limitedNodes[4]
    let after := (e.delete (.text d.id)).2
    let before := e.entriesOf {} p
    let left := after.entriesOf {} p
    let widened := OnlyLeadsTo e.edges p.id d.id ∧ d.kind.isScope = true
    (e.nodes.map Node.id).Nodup ∧ p.attributes = .plugin { config := some [("minute", .int 5)] } ∧
      p ∈ e.nodes ∧ d ∈ e.nodes ∧ p.id ≠ d.id ∧
      before.map PluginEntry.scopes = [[], ["reader"], ["library"], ["shelves"]] ∧
      left.map PluginEntry.scopes = [[], ["reader"], ["shelves"]] ∧ ¬widened ∧
      left.Sublist before := by
  intro e p d after before left widened
  have distinct : (e.nodes.map Node.id).Nodup := by decide
  have atHand : p ∈ e.nodes := List.getElem_mem _
  have there : d ∈ e.nodes := List.getElem_mem _
  have apart : p.id ≠ d.id := by decide
  have narrow : ¬widened := fun ⟨only, _⟩ =>
    absurd (only.2 limitedEdges[0] (List.getElem_mem _) rfl) (by decide)
  have kept := (delete_widens_iff {} distinct rfl atHand there apart).2.2.1.mpr narrow
  exact ⟨distinct, rfl, atHand, there, apart, by decide, by decide, narrow, kept⟩

/-- A plugin whose only edge leads to a service. -/
def guardedFlow : Flow where
  nodes := [⟨"shield", .plugin {}, by decide⟩,
    ⟨"granary", .service { host := some "granary.local" }, by decide⟩]
  edges := [⟨"e1", "shield", "granary", none, none, by decide, by decide, by decide⟩]
  distinct := by decide

/-- Without the service that it was limited to, the plugin applies to everything. -/
theorem delete_widens_in_guardedFlow :
    let e := start IdCounter.initial (some guardedFlow)
    let p := guardedFlow.nodes[0]
    let before := e.entriesOf {} p
    let left := (e.delete (.text "granary")).2.entriesOf {} p
    (e.nodes.map Node.id).Nodup ∧ p ∈ e.nodes ∧ p.kind = .plugin ∧
      before.map PluginEntry.scopes = [["granary"]] ∧ left.map PluginEntry.scopes = [[]] ∧
      (∀ q ∈ before, q.isGlobal = false) ∧ (∃ q ∈ left, q.isGlobal = true) ∧
      ¬left.Sublist before := by
  intro e p before left
  have limited : before.map PluginEntry.scopes = [["granary"]] := by decide
  have global : left.map PluginEntry.scopes = [[]] := by decide
  refine ⟨by decide, List.getElem_mem _, rfl, limited, global, by decide, by decide, fun kept => ?_⟩
  have scopes := kept.map PluginEntry.scopes
  rw [limited, global] at scopes
  exact absurd scopes (by decide)

end Editor
end GatewayFlow
