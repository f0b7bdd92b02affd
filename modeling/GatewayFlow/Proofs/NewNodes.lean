import GatewayFlow.Proofs.FreshIds
import GatewayFlow.SavedFlow

/-!
# New nodes and the edges that wait for them

A flow that is loaded may have edges to ids that no node of it has. Such an edge can outlast many
edits, and it is the only kind of edge at a node that was just added: the new id is free among the
nodes, and every other edge has nodes at both of its ends. So the edges at a new node all come from
the flow that was loaded last.
-/
namespace GatewayFlow

/-- The edge has an id as one of its ends. -/
def Edge.Touches (e : Edge) (id : String) : Prop :=
  e.source = id ∨ e.target = id

/-- The flow has an edge at an id, but no node with that id. -/
structure Flow.Dangles (f : Flow) (e : Edge) (id : String) : Prop where
  member : e ∈ f.edges
  touches : e.Touches id
  missing : id ∉ f.nodes.map Node.id

/-- The flow that an editor goes on from after an edit: one that is loaded, none when everything is
cleared, and the same as before otherwise. -/
def Edit.origin (before : Option Flow) : Edit → Option Flow
  | .load f => some f
  | .clear => none
  | _ => before

/-- The flow that an editor went on from last. -/
def lastLoaded (initial : Option Flow) (edits : List Edit) : Option Flow :=
  edits.foldl Edit.origin initial

/-! ### Edges to ids that no node has -/

/-- Every edge at an id without a node was there when the flow was loaded, and no node had the id
then. -/
def Traced (loaded : Option Flow) (nodes : List Node) (edges : List Edge) : Prop :=
  ∀ e ∈ edges, ∀ id, e.Touches id → id ∉ nodes.map Node.id → ∃ f ∈ loaded, f.Dangles e id

theorem Traced.nil (loaded : Option Flow) (nodes : List Node) : Traced loaded nodes [] :=
  nofun

theorem Traced.loaded (f : Flow) : Traced (some f) f.nodes f.edges :=
  fun _ member _ touches missing => ⟨f, rfl, member, touches, missing⟩

/-- Some of the edges stay traced, where the nodes that they touch are still there. -/
theorem Traced.restrict {loaded : Option Flow} {nodes nodes' : List Node} {edges edges' : List Edge}
    (traced : Traced loaded nodes edges) (fewer : edges' ⊆ edges)
    (stays : ∀ e ∈ edges', ∀ id, e.Touches id → id ∈ nodes.map Node.id →
      id ∈ nodes'.map Node.id) : Traced loaded nodes' edges' :=
  fun e member id touches missing =>
    traced e (fewer member) id touches fun there => missing (stays e member id touches there)

theorem Edit.Effect.traced {nodes nodes' : List Node} {edges edges' : List Edge} {edit : Edit}
    (effect : edit.Effect nodes edges nodes' edges') (unloaded : ∀ f, edit ≠ .load f)
    {loaded : Option Flow} (traced : Traced loaded nodes edges) : Traced loaded nodes' edges' := by
  cases effect with
  | idle => exact traced
  | placed n =>
    refine traced.restrict (List.Subset.refl edges) fun _ _ _ _ there => ?_
    rw [List.map_append]
    exact List.mem_append_left _ there
  | rewritten n =>
    refine traced.restrict (List.Subset.refl edges) fun _ _ _ _ there => ?_
    rwa [map_id_rewritten]
  | deleted id =>
    refine traced.restrict ((List.filter_subset_self _)) fun e member other touches there => ?_
    -- No edge that stays touches the node that goes.
    obtain ⟨-, kept⟩ := List.mem_filter.mp member
    simp only [Bool.and_eq_true, bne_iff_ne] at kept
    have apart : other ≠ id := touches.elim (· ▸ kept.1) (· ▸ kept.2)
    obtain ⟨n, here, rfl⟩ := List.mem_map.mp there
    exact List.mem_map_of_mem (List.mem_filter.mpr ⟨here, by simpa using apart⟩)
  | connected edge anchored =>
    intro e member id touches missing
    rcases List.mem_append.mp member with old | new
    · exact traced e old id touches missing
    · -- The edge that is new has nodes at both of its ends.
      obtain rfl := List.mem_singleton.mp new
      exact absurd (touches.elim (· ▸ anchored.1) (· ▸ anchored.2)) missing
  | disconnected id =>
    exact traced.restrict ((List.filter_subset_self _)) fun _ _ _ _ there => there
  | cleared => exact .nil loaded []
  | loaded f => exact absurd rfl (unloaded f)

namespace Editor

variable {σ : Type}

theorem perform_traced (source : IdSource σ) (e : Editor σ) (edit : Edit) {loaded : Option Flow}
    (traced : Traced loaded e.nodes e.edges) :
    Traced (edit.origin loaded) (e.perform source edit).2.nodes
      (e.perform source edit).2.edges := by
  cases edit with
  -- After these two the editor goes on from another flow, with no edge from before.
  | load f => exact .loaded f
  | clear => exact .nil none []
  | _ => exact (e.perform_effect source _).traced (by simp) traced

/-- By induction on the edits; the flow that was loaded last changes along with the editor. -/
theorem run_traced (source : IdSource σ) (edits : List Edit) (e : Editor σ) (loaded : Option Flow)
    (traced : Traced loaded e.nodes e.edges) :
    Traced (lastLoaded loaded edits) (e.run source edits).nodes (e.run source edits).edges := by
  induction edits generalizing e loaded with
  | nil => exact traced
  | cons edit rest ih => exact ih _ _ (e.perform_traced source edit traced)

theorem start_traced (ids : σ) (initial : Option Flow) :
    Traced initial (start ids initial).nodes (start ids initial).edges := by
  cases initial with
  | none => exact .nil none []
  | some f => exact .loaded f

/-- A node that is added has an id that was free. -/
theorem add_fresh (source : IdSource σ) (e : Editor σ) {kind : Value} {attributes : Entries}
    {withDefaults : Bool} {pluginName : Value} {n : Node}
    (added : (e.add source kind attributes withDefaults pluginName).1.result = .ok n) :
    n.id ∉ e.nodes.map Node.id := by
  have outcome := e.add_added source kind attributes withDefaults pluginName
  generalize e.add source kind attributes withDefaults pluginName = result at outcome added
  cases outcome with
  | unread | exhausted | unbuilt => cases added
  | placed _ drawn =>
    cases added
    exact e.newId_fresh source _ _ (by rw [drawn])

/-- Whatever was done to an editor before, a node that is added gets no new edges: those at it are
the edges at hand that the flow loaded last had at this id, without a node for it. Where no edge of
that flow dangles, a new node has no edges. -/
theorem edges_at_added_node (source : IdSource σ) (ids : σ) (initial : Option Flow)
    (edits : List Edit) (kind : Value) (attributes : Entries) (withDefaults : Bool)
    (pluginName : Value) (n : Node) :
    let e := (start ids initial).run source edits
    let after := (e.add source kind attributes withDefaults pluginName).2
    let loaded := lastLoaded initial edits
    (e.add source kind attributes withDefaults pluginName).1.result = .ok n →
      after.nodes = e.nodes ++ [n] ∧ after.edges = e.edges ∧
      (∀ edge, edge ∈ after.edges ∧ edge.Touches n.id ↔
        edge ∈ e.edges ∧ ∃ f ∈ loaded, f.Dangles edge n.id) ∧
      ((∀ f ∈ loaded, ∀ edge id, ¬f.Dangles edge id) →
        ∀ edge ∈ after.edges, ¬edge.Touches n.id) := by
  intro e after loaded added
  obtain ⟨nodes, edges⟩ := e.add_of_ok source kind attributes withDefaults pluginName n added
  have fresh := e.add_fresh source added
  have traced : Traced loaded e.nodes e.edges :=
    run_traced source edits _ initial (start_traced ids initial)
  -- An edge at a free id is one without a node at that end, and those are traced.
  have waiting (edge : Edge) : edge ∈ after.edges ∧ edge.Touches n.id ↔
      edge ∈ e.edges ∧ ∃ f ∈ loaded, f.Dangles edge n.id := by
    rw [edges]
    refine and_congr_right fun member => ⟨fun touches => traced edge member _ touches fresh, ?_⟩
    rintro ⟨f, -, dangles⟩
    exact dangles.touches
  refine ⟨nodes, edges, waiting, fun complete edge member touches => ?_⟩
  obtain ⟨-, f, loadedLast, dangles⟩ := (waiting edge).mp ⟨member, touches⟩
  exact complete f loadedLast edge _ dangles

/-- The consumer that a counter from one on adds first, with the defaults of its kind. -/
def firstConsumer : Node where
  id := "consumer-1"
  attributes := .consumer { username := some "", customId := some "" }
  id_nonempty := by decide

/-- Over a flow whose edges all join its nodes, a new node has no edges. -/
theorem edges_at_added_node_over_routedFlow :
    let e := (start IdCounter.initial none).run .counter [.load routedFlow]
    let added := e.add .counter (.text "consumer") [] true .null
    added.1.result = .ok firstConsumer ∧
      (∀ f ∈ lastLoaded none [.load routedFlow], ∀ edge id, ¬f.Dangles edge id) ∧
      ∀ edge ∈ added.2.edges, ¬edge.Touches firstConsumer.id := by
  have done : (((start IdCounter.initial none).run .counter [.load routedFlow]).add .counter
      (.text "consumer") [] true .null).1.result = .ok firstConsumer := by rfl
  have complete : ∀ f ∈ lastLoaded none [.load routedFlow], ∀ edge id, ¬f.Dangles edge id := by
    rintro f ⟨⟩ edge id dangles
    obtain rfl := List.mem_singleton.mp dangles.member
    rcases dangles.touches with rfl | rfl <;> exact absurd dangles.missing (by decide)
  exact ⟨done, complete, (edges_at_added_node .counter IdCounter.initial none [.load routedFlow]
    (.text "consumer") [] true .null firstConsumer done).2.2.2 complete⟩

/-- A saved plugin with an edge to a consumer that was not saved with it. -/
def savedPlugin : Value :=
  .record [("nodes", .list [.record [("id", .text "gauge"), ("kind", .text "plugin")]]),
    ("edges", .list [.record [("source", .text "gauge"), ("target", .text "consumer-1")]])]

def waitingEdge : Edge :=
  ⟨"gauge-default-consumer-1-default", "gauge", "consumer-1", none, none, by decide, by decide,
    by decide⟩

/-- The flow of the saved plugin. -/
def pluginFlow : Flow :=
  ⟨[⟨"gauge", .plugin {}, by decide⟩], [waitingEdge], by decide⟩

/-- The saved plugin loads, and its edge leads to the first consumer that is added then. -/
theorem edge_waits_for_added_node :
    (SavedFlow.load savedPlugin).result = .ok pluginFlow ∧
      let e := (start IdCounter.initial none).run .counter [.load pluginFlow]
      let added := e.add .counter (.text "consumer") [] true .null
      added.1.result = .ok firstConsumer ∧ waitingEdge ∈ added.2.edges ∧
        waitingEdge.target = firstConsumer.id :=
  ⟨by rfl, by rfl, List.mem_singleton_self waitingEdge, rfl⟩

end Editor
end GatewayFlow
