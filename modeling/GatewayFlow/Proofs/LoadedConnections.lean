import GatewayFlow.Proofs.EditorRuns
import GatewayFlow.Proofs.LoadedFlows

/-!
# Loaded connections

Loading the edges of a saved flow and connecting them one by one in an editor come to the same. The
loader remembers the pairs of ends that it has seen, the editor looks through the edges at hand;
what ties the two together is that these are the same pairs before every raw edge.
-/
namespace GatewayFlow

/-! ### Connecting the ends of an edge -/

/-- The call that asks for an edge by its ends and anchors. -/
def Edge.connection (e : Edge) : Edit :=
  .connect (.text e.source) (.text e.target) (.textOrNull e.sourceAnchor)
    (.textOrNull e.targetAnchor)

namespace Editor

variable {σ : Type}

theorem exists_find?_of_mem (e : Editor σ) {id : String} (member : id ∈ e.nodes.map Node.id) :
    ∃ n, e.find? (.text id) = some n ∧ n.id = id := by
  obtain ⟨m, there, rfl⟩ := List.mem_map.mp member
  have found : (e.nodes.find? fun n => n.id == m.id).isSome :=
    List.find?_isSome.mpr ⟨m, there, by simp⟩
  obtain ⟨n, eq⟩ := Option.isSome_iff_exists.mp found
  exact ⟨n, eq, by simpa using List.find?_some eq⟩

/-- Between two different nodes at hand an edge is refused exactly when they are joined already. -/
theorem refusal?_of_anchored (e : Editor σ) (edge : Edge)
    (anchored : edge.source ∈ e.nodes.map Node.id ∧ edge.target ∈ e.nodes.map Node.id) :
    refusal? (e.find? (.text edge.source)) (e.find? (.text edge.target)) e.edges =
      if edge.ends ∈ e.edges.map Edge.ends then some .duplicateConnection else none := by
  obtain ⟨s, foundSource, source⟩ := e.exists_find?_of_mem anchored.1
  obtain ⟨t, foundTarget, target⟩ := e.exists_find?_of_mem anchored.2
  have apart : s.id ≠ t.id := source ▸ target ▸ edge.source_ne_target
  have joined : connectionExists e.edges s.id t.id = true ↔
      edge.ends ∈ e.edges.map Edge.ends := by
    simp [connectionExists, Edge.ends, Prod.ext_iff, source, target]
  rw [foundSource, foundTarget, refusal?]
  simp only [if_neg apart, joined]

variable (source : IdSource σ) (e : Editor σ) {edge : Edge}
  (anchored : edge.source ∈ e.nodes.map Node.id ∧ edge.target ∈ e.nodes.map Node.id)

include anchored

theorem perform_connection_of_joined (joined : edge.ends ∈ e.edges.map Edge.ends) :
    (e.perform source edge.connection).1.result =
        .ok (.verdict (.refusal .duplicateConnection)) ∧
      (e.perform source edge.connection).2 = e := by
  have refused := e.refusal?_of_anchored edge anchored
  rw [if_pos joined] at refused
  have check : checkConnection (e.find? (.text edge.source)) (e.find? (.text edge.target))
      e.edges = .refusal .duplicateConnection := by
    rw [checkConnection, refused]
  simp only [Edge.connection, perform, connect, check]
  exact ⟨rfl, rfl⟩

theorem perform_connection_of_unjoined (unjoined : edge.ends ∉ e.edges.map Edge.ends)
    (derived : edge.id = edge.derivedId) :
    (∃ notes, (e.perform source edge.connection).1.result = .ok (.verdict (.passed notes))) ∧
      (e.perform source edge.connection).2 = { e with edges := e.edges ++ [edge] } := by
  have allowed := e.refusal?_of_anchored edge anchored
  rw [if_neg unjoined] at allowed
  have built : Edge.build (.text edge.source) (.text edge.target)
      (.textOrNull edge.sourceAnchor) (.textOrNull edge.targetAnchor) = .value edge :=
    (Edge.build_eq_value ..).mpr ⟨rfl, rfl, rfl, rfl, derived⟩
  -- Pairing notes go with the verdict and change nothing about the edge.
  have check : ∃ notes, checkConnection (e.find? (.text edge.source))
      (e.find? (.text edge.target)) e.edges = .passed notes := by
    rw [checkConnection, allowed]
    exact ⟨_, rfl⟩
  obtain ⟨notes, check⟩ := check
  simp only [Edge.connection, perform, connect, check, built]
  exact ⟨⟨notes, rfl⟩, rfl⟩

omit anchored in
/-- An editor that connects the ends of edges between nodes at hand gets those that are the first
between their ends, when the pairs that have been seen are the ones that its own edges join. -/
theorem run_edge_connections (e : Editor σ) {edges : List Edge}
    (anchored : ∀ edge ∈ edges,
      edge.source ∈ e.nodes.map Node.id ∧ edge.target ∈ e.nodes.map Node.id)
    (derived : ∀ edge ∈ edges, edge.id = edge.derivedId)
    (seen : List (String × String)) (same : ∀ ends, ends ∈ seen ↔ ends ∈ e.edges.map Edge.ends) :
    e.run source (edges.map Edge.connection) =
      { e with edges := e.edges ++ firstEdges seen edges } := by
  -- By induction on the edges, for every editor: `seen` grows with the edges that it gets.
  induction edges generalizing e seen with
  | nil => simp [run, firstEdges]
  | cons edge edges ih =>
    obtain ⟨here, later⟩ := List.forall_mem_cons.mp anchored
    obtain ⟨named, derived⟩ := List.forall_mem_cons.mp derived
    rw [List.map_cons, run_cons, firstEdges]
    by_cases joined : edge.ends ∈ e.edges.map Edge.ends
    · rw [(e.perform_connection_of_joined source here joined).2, if_pos ((same _).mpr joined)]
      exact ih e later derived seen same
    · -- The edge that is added joins the pair that is seen here.
      have sameAfter : ∀ ends, ends ∈ edge.ends :: seen ↔
          ends ∈ (e.edges ++ [edge]).map Edge.ends := by
        simp [same, or_comm]
      have added := ih { e with edges := e.edges ++ [edge] } later derived (edge.ends :: seen)
        sameAfter
      rw [(e.perform_connection_of_unjoined source here joined named).2,
        if_neg fun there => joined ((same _).mp there), added]
      simp

end Editor

/-! ### Connecting raw edges -/

namespace SavedFlow

/-- The call that asks for a raw edge, with the fields that loading reads. -/
def connection (raw : Value) : Edit :=
  .connect ((raw.field? "source").getD .null) ((raw.field? "target").getD .null)
    (((raw.field? "source_anchor").or (raw.field? "sourceHandle")).getD .null)
    (((raw.field? "target_anchor").or (raw.field? "targetHandle")).getD .null)

theorem EdgeOf.connection_eq {raw : Value} {e : Edge} (edgeOf : EdgeOf raw e) :
    connection raw = e.connection := by
  rw [connection, edgeOf.source, edgeOf.target, edgeOf.sourceAnchor, edgeOf.targetAnchor]
  rfl

/-- Asking for raw edges is asking for the edges that they are loaded as. -/
theorem connections_eq {raws : List Value} {edges : List Edge}
    (edgesOf : List.Forall₂ EdgeOf raws edges) :
    raws.map connection = edges.map Edge.connection ∧
      ∀ edge ∈ edges, edge.id = edge.derivedId := by
  induction edgesOf with
  | nil => exact ⟨rfl, by simp⟩
  | cons edgeOf _ ih =>
    rw [List.map_cons, List.map_cons, edgeOf.connection_eq, ih.1]
    exact ⟨rfl, List.forall_mem_cons.mpr ⟨edgeOf.derived, ih.2⟩⟩

/-- Of raw edges between nodes at hand an editor gets those that the loader keeps, when the pairs
that the loader has seen are the ones that the editor's edges join. -/
theorem run_connections {σ : Type} (source : IdSource σ) {raws : List Value} {edges : List Edge}
    (edgesOf : List.Forall₂ EdgeOf raws edges) (e : Editor σ)
    (anchored : ∀ edge ∈ edges,
      edge.source ∈ e.nodes.map Node.id ∧ edge.target ∈ e.nodes.map Node.id)
    (seen : List (String × String)) (same : ∀ ends, ends ∈ seen ↔ ends ∈ e.edges.map Edge.ends) :
    e.run source (raws.map connection) = { e with edges := e.edges ++ firstEdges seen edges } := by
  obtain ⟨calls, derived⟩ := connections_eq edgesOf
  rw [calls]
  exact Editor.run_edge_connections source e anchored derived seen same

theorem firstEdges_concat (seen : List (String × String)) (edges : List Edge) (e : Edge) :
    firstEdges seen (edges ++ [e]) = firstEdges seen edges ++
      if e.ends ∈ seen ∨ e.ends ∈ (firstEdges seen edges).map Edge.ends then [] else [e] := by
  induction edges generalizing seen with
  | nil => by_cases joined : e.ends ∈ seen <;> simp [firstEdges, joined]
  | cons first rest ih =>
    rw [List.cons_append, firstEdges, firstEdges]
    by_cases joined : first.ends ∈ seen
    · rw [if_pos joined, if_pos joined, ih]
    · rw [if_neg joined, if_neg joined, ih]
      simp [or_assoc, or_left_comm]

/-- Loading keeps a raw edge behind others: it adds an edge to theirs. -/
def Keeps (before : List Value) (raw : Value) : Prop :=
  ∃ edges e, (loadEdges [] 0 before).result = .ok edges ∧
    (loadEdges [] 0 (before ++ [raw])).result = .ok (edges ++ [e])

/-- Loading drops a raw edge behind others: theirs stay the only ones. -/
def Drops (before : List Value) (raw : Value) : Prop :=
  ∃ edges, (loadEdges [] 0 before).result = .ok edges ∧
    (loadEdges [] 0 (before ++ [raw])).result = .ok edges

/-- Whether a raw edge is kept depends on its ends alone: others may join them already. -/
theorem keeps_drops_iff {before : List Value} {raw : Value} {edges : List Edge} {e : Edge}
    (edgesOf : List.Forall₂ EdgeOf before edges) (edgeOf : EdgeOf raw e) :
    (Keeps before raw ↔ e.ends ∉ (firstEdges [] edges).map Edge.ends) ∧
      (Drops before raw ↔ e.ends ∈ (firstEdges [] edges).map Edge.ends) := by
  have loadedBefore : (loadEdges [] 0 before).result = .ok (firstEdges [] edges) :=
    (loadEdges_eq_ok ..).mpr ⟨edges, edgesOf, rfl⟩
  have loaded : (loadEdges [] 0 (before ++ [raw])).result = .ok (firstEdges [] (edges ++ [e])) :=
    (loadEdges_eq_ok ..).mpr ⟨edges ++ [e], List.rel_append edgesOf (.cons edgeOf .nil), rfl⟩
  rw [Keeps, Drops, loadedBefore, loaded, firstEdges_concat]
  by_cases joined : e.ends ∈ (firstEdges [] edges).map Edge.ends <;> simp [joined]

theorem anchored_of_edgesOf {nodes : List Node} {raws : List Value} {edges : List Edge}
    (edgesOf : List.Forall₂ EdgeOf raws edges)
    (anchored : ∀ raw ∈ raws, ∃ m ∈ nodes, ∃ n ∈ nodes,
      raw.field? "source" = some (.text m.id) ∧ raw.field? "target" = some (.text n.id)) :
    ∀ e ∈ edges, e.source ∈ nodes.map Node.id ∧ e.target ∈ nodes.map Node.id := by
  induction edgesOf with
  | nil => simp
  | @cons raw e raws edges edgeOf _ ih =>
    obtain ⟨⟨m, hm, n, hn, source, target⟩, later⟩ := List.forall_mem_cons.mp anchored
    refine List.forall_mem_cons.mpr ⟨?_, ih later⟩
    have sourceText : m.id = e.source := by simpa using source.symm.trans edgeOf.source
    have targetText : n.id = e.target := by simpa using target.symm.trans edgeOf.target
    exact ⟨sourceText ▸ List.mem_map_of_mem hm, targetText ▸ List.mem_map_of_mem hn⟩

end SavedFlow

open SavedFlow in
/-- When a saved flow is loaded and each of its raw edges leads from one of the nodes to another,
an editor that starts with the nodes alone and connects the raw edges in turn ends with the edges
that were loaded, under their ids. Each call succeeds when the loader keeps its raw edge and is
refused as a duplicate when the loader drops it. -/
theorem connect_as_loaded {σ : Type} (source : IdSource σ) (ids : σ) {saved : Value} {f : Flow}
    {rawEdges : List Value} (loaded : (load saved).result = .ok f)
    (given : members ((saved.field? "edges").getD .null) = .ok rawEdges)
    (anchored : ∀ raw ∈ rawEdges, ∃ m ∈ f.nodes, ∃ n ∈ f.nodes,
      raw.field? "source" = some (.text m.id) ∧ raw.field? "target" = some (.text n.id)) :
    let e := Editor.start ids (some ⟨f.nodes, [], f.distinct⟩)
    (e.run source (rawEdges.map connection)).edges = f.edges ∧
      (e.run source (rawEdges.map connection)).nodes = f.nodes ∧
      ∀ before raw after, rawEdges = before ++ raw :: after →
        ∃ verdict,
          ((e.run source (before.map connection)).perform source (connection raw)).1.result =
            .ok (.verdict verdict) ∧
          (verdict.valid = true ↔ Keeps before raw) ∧
          (verdict.code = some .duplicateConnection ↔ Drops before raw) ∧
          (Keeps before raw ∨ Drops before raw) := by
  intro e
  obtain ⟨rawNodes, rawEdges', parts, -, loadedEdges⟩ := (load_eq_ok ..).mp loaded
  cases given.symm.trans parts.edges
  obtain ⟨edges, edgesOf, first⟩ := (loadEdges_eq_ok ..).mp loadedEdges
  have atHand : ∀ edge ∈ edges,
      edge.source ∈ f.nodes.map Node.id ∧ edge.target ∈ f.nodes.map Node.id :=
    anchored_of_edgesOf edgesOf anchored
  have started : e.nodes = f.nodes ∧ e.edges = [] := ⟨rfl, rfl⟩
  have run := run_connections source edgesOf e (by rwa [started.1]) [] (by simp [started.2])
  refine ⟨by rw [run, started.2, List.nil_append, first], by rw [run, started.1], ?_⟩
  rintro before raw after rfl
  -- The edges of the raw ones before this one, and its own.
  have edgesBefore := List.forall₂_take_append _ _ _ edgesOf.flip
  obtain ⟨edge, others, edgeOf, -, rest⟩ :=
    List.forall₂_cons_right_iff.mp (List.forall₂_drop_append _ _ _ edgesOf.flip)
  have member : edge ∈ edges := (List.drop_sublist before.length edges).subset (by simp [rest])
  have runBefore := run_connections source edgesBefore.flip e
    (fun other there => by
      rw [started.1]
      exact atHand other ((List.take_sublist ..).subset there)) [] (by simp [started.2])
  obtain ⟨keeps, drops⟩ := keeps_drops_iff edgesBefore.flip edgeOf
  rw [keeps, drops, runBefore, started.2, List.nil_append, edgeOf.connection_eq]
  generalize firstEdges [] (edges.take before.length) = kept
  have here : edge.source ∈ e.nodes.map Node.id ∧ edge.target ∈ e.nodes.map Node.id := by
    rw [started.1]
    exact atHand edge member
  by_cases joined : edge.ends ∈ kept.map Edge.ends
  · have refused := Editor.perform_connection_of_joined source { e with edges := kept } here joined
    exact ⟨_, refused.1, by simp [joined, Verdict.valid, Verdict.refusal],
      by simp [joined, Verdict.refusal], .inr joined⟩
  · obtain ⟨⟨notes, allowed⟩, -⟩ := Editor.perform_connection_of_unjoined source
      { e with edges := kept } here joined edgeOf.derived
    exact ⟨_, allowed, by simp [joined, Verdict.valid, Verdict.passed],
      by simp [joined, Verdict.passed], .inl joined⟩

/-- The flow that is loaded of the sketch: its second edge is dropped. -/
def sketchFlow : Flow where
  nodes := sketchNodes
  edges := firsts Edge.ends sketchEdges
  distinct := by decide

def sketchRawEdges : List Value :=
  ((sketch.field? "edges").map Value.items).getD []

open SavedFlow in
theorem connect_as_loaded_of_sketch :
    (load sketch).result = .ok sketchFlow ∧
      members ((sketch.field? "edges").getD .null) = .ok sketchRawEdges ∧
      (∀ raw ∈ sketchRawEdges, ∃ m ∈ sketchFlow.nodes, ∃ n ∈ sketchFlow.nodes,
        raw.field? "source" = some (.text m.id) ∧ raw.field? "target" = some (.text n.id)) ∧
      let e := Editor.start IdCounter.initial (some ⟨sketchFlow.nodes, [], sketchFlow.distinct⟩)
      (e.run .counter (sketchRawEdges.map connection)).edges = sketchFlow.edges ∧
        (e.run .counter (sketchRawEdges.map connection)).nodes = sketchFlow.nodes ∧
        ∀ before raw after, sketchRawEdges = before ++ raw :: after →
          ∃ verdict,
            ((e.run .counter (before.map connection)).perform .counter
              (connection raw)).1.result = .ok (.verdict verdict) ∧
            (verdict.valid = true ↔ Keeps before raw) ∧
            (verdict.code = some .duplicateConnection ↔ Drops before raw) ∧
            (Keeps before raw ∨ Drops before raw) := by
  have loaded : (load sketch).result = .ok sketchFlow := rfl
  have given : members ((sketch.field? "edges").getD .null) = .ok sketchRawEdges := rfl
  have anchored : ∀ raw ∈ sketchRawEdges, ∃ m ∈ sketchFlow.nodes, ∃ n ∈ sketchFlow.nodes,
      raw.field? "source" = some (.text m.id) ∧ raw.field? "target" = some (.text n.id) := by
    simp [sketchRawEdges, sketch, Value.record, Value.field?, Value.items, sketchFlow, sketchNodes]
  exact ⟨loaded, given, anchored,
    connect_as_loaded .counter IdCounter.initial loaded given anchored⟩

end GatewayFlow
