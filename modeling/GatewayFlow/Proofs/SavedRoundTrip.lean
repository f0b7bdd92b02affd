import GatewayFlow.Proofs.WrittenAttributes
import GatewayFlow.SavedFlow

/-!
# Saving and loading a flow

A flow whose open configurations hold plain data is loaded from its own data: the nodes are the same
and the edges are those that loading keeps, under the ids that it gives them.
-/
namespace GatewayFlow

/-- The open configurations of the nodes hold plain data. -/
def Flow.IsPlain (f : Flow) : Prop :=
  ∀ n ∈ f.nodes, ∀ config ∈ n.attributes.config?, (Config.toValue config).IsPlain

/-! ### Nodes -/

namespace SavedFlow

end SavedFlow

/-! ### Edges -/

/-- The first edge between each two nodes; `seen` are the ends of edges before these. -/
def firstEdges (seen : List (String × String)) : List Edge → List Edge
  | [] => []
  | e :: rest =>
    if e.ends ∈ seen then firstEdges seen rest else e :: firstEdges (e.ends :: seen) rest

theorem firstEdges_sublist (seen : List (String × String)) (edges : List Edge) :
    (firstEdges seen edges).Sublist edges := by
  induction edges generalizing seen with
  | nil => exact List.Sublist.refl _
  | cons e rest ih =>
    rw [firstEdges]
    split
    next => exact (ih seen).cons e
    next => exact (ih _).cons_cons e

theorem not_mem_of_mem_firstEdges {seen : List (String × String)} {edges : List Edge} {e : Edge}
    (member : e ∈ firstEdges seen edges) : e.ends ∉ seen := by
  induction edges generalizing seen with
  | nil => cases member
  | cons first rest ih =>
    rw [firstEdges] at member
    split at member
    next => exact ih member
    next fresh =>
      rcases List.mem_cons.mp member with rfl | later
      · exact fresh
      · exact fun there => ih later (List.mem_cons_of_mem _ there)

theorem firstEdges_simple (seen : List (String × String)) (edges : List Edge) :
    ((firstEdges seen edges).map Edge.ends).Nodup := by
  induction edges generalizing seen with
  | nil => exact List.nodup_nil
  | cons e rest ih =>
    rw [firstEdges]
    split
    next => exact ih seen
    next =>
      refine List.nodup_cons.mpr ⟨?_, ih _⟩
      intro again
      obtain ⟨other, member, same⟩ := List.mem_map.mp again
      exact not_mem_of_mem_firstEdges member (same ▸ List.mem_cons_self)

/-- Edges as loading leaves them: under the ids that their ends and anchors determine, and at most
one between each two nodes. -/
structure Loadable (edges : List Edge) : Prop where
  derived : ∀ e ∈ edges, e.id = e.derivedId
  simple : (edges.map Edge.ends).Nodup

namespace SavedFlow

theorem derivedId_of_loadEdge {raw : Value} {position : Int} {e : Edge}
    (loaded : loadEdge raw position = .ok e) : e.id = e.derivedId := by
  unfold loadEdge at loaded
  split at loaded
  next entries =>
    rw [mapError_eq_ok, Reading.toExcept_eq_ok, Edge.build_eq_value] at loaded
    exact loaded.2.2.2.2
  next => cases loaded

theorem loadEdges_cons (seen : List (String × String)) (i : Nat) (raw : Value)
    (rest : List Value) :
    (loadEdges seen i (raw :: rest)).result = loadEdge raw i >>= fun e =>
      if e.ends ∈ seen then (loadEdges seen (i + 1) rest).result
      else (loadEdges (e.ends :: seen) (i + 1) rest).result.map (e :: ·) := by
  rw [loadEdges, Logged.result_bind, Logged.result_quiet]
  congr 1
  funext e
  have ends : (e.source, e.target) = e.ends := rfl
  by_cases joined : e.ends ∈ seen
  · simp [ends, joined]
  · rw [ends]
    simp only [List.contains_iff_mem, joined, if_false, Logged.result_bind, Logged.result_pure]
    cases (loadEdges (e.ends :: seen) (i + 1) rest).result <;> rfl

/-- Whatever is loaded, the edges are the first ones of edges under their own ids. -/
theorem firstEdges_of_loadEdges {raws : List Value} {seen : List (String × String)} {i : Nat}
    {edges : List Edge} (loaded : (loadEdges seen i raws).result = .ok edges) :
    ∃ all, (∀ e ∈ all, e.id = e.derivedId) ∧ edges = firstEdges seen all := by
  -- Both branches load the edge; they differ only in whether it is kept.
  induction raws generalizing seen i edges with
  | nil =>
    cases loaded
    exact ⟨[], by simp, rfl⟩
  | cons raw rest ih =>
    rw [loadEdges_cons, bind_eq_ok] at loaded
    obtain ⟨e, first, others⟩ := loaded
    have named := derivedId_of_loadEdge first
    split at others
    next joined =>
      obtain ⟨all, derived, rfl⟩ := ih others
      refine ⟨e :: all, List.forall_mem_cons.mpr ⟨named, derived⟩, ?_⟩
      rw [firstEdges, if_pos joined]
    next fresh =>
      obtain ⟨later, loaded, rfl⟩ := (map_eq_ok _ _ _).mp others
      obtain ⟨all, derived, rfl⟩ := ih loaded
      refine ⟨e :: all, List.forall_mem_cons.mpr ⟨named, derived⟩, ?_⟩
      rw [firstEdges, if_neg fresh]

end SavedFlow

/-! ### Flows -/

namespace SavedFlow

theorem loadable_of_load {saved : Value} {f : Flow} (loaded : (load saved).result = .ok f) :
    Loadable f.edges := by
  unfold load at loaded
  split at loaded
  next entries =>
    simp only [Logged.result_bind, Logged.result_quiet, Logged.result_note, Logged.result_pure,
      bind_eq_ok, mapError_eq_ok, Reading.toExcept_eq_ok, Flow.ofParts_eq_value] at loaded
    obtain ⟨_, -, nodes, -, raws, -, edges, loadedEdges, g, ⟨-, same⟩, _, -, done⟩ := loaded
    cases done
    -- The edges of the flow are the first of all raw ones between their ends.
    obtain ⟨all, derived, rfl⟩ := firstEdges_of_loadEdges loadedEdges
    rw [same]
    exact ⟨fun e member => derived e ((firstEdges_sublist [] all).subset member),
      firstEdges_simple [] all⟩
  next => cases loaded

end SavedFlow

end GatewayFlow
