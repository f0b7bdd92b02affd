import GatewayFlow.Editor
import GatewayFlow.Proofs.Readings
import Mathlib.Data.List.Nodup

/-!
# Runs of an editor

`Effect` says once what an edit can do to nodes and edges, whether it succeeds or not. What every
edit keeps then holds after any run, and the nodes and edges at hand are a flow at all times.
-/
namespace GatewayFlow

/-! ### Drawing ids -/

namespace IdSource

variable {σ : Type}

theorem drawFree_not_mem (source : IdSource σ) (taken : List String) (kind : Kind) (draws : Nat)
    (s : σ) (id : String) (drawn : (source.drawFree taken kind draws s).1 = .ok (some id)) :
    id ∉ taken := by
  -- The state moves on with each draw, so the hypothesis is about every state.
  induction draws generalizing s with
  | zero => cases drawn
  | succ draws ih =>
    rw [drawFree] at drawn
    split at drawn
    next => cases drawn
    next =>
      split at drawn
      · exact ih _ drawn
      next free =>
        cases drawn
        simpa using free

end IdSource

/-! ### Invariants of runs -/

/-- Edges as an editor keeps them: none is a loop, none joins a pair that another one joins, both
ends are nodes at hand, and each has the id that its ends and anchors determine. -/
structure Wired (nodes : List Node) (edges : List Edge) : Prop where
  loopless : ∀ e ∈ edges, e.source ≠ e.target
  simple : (edges.map Edge.ends).Nodup
  anchored : ∀ e ∈ edges, e.source ∈ nodes.map Node.id ∧ e.target ∈ nodes.map Node.id
  derived : ∀ e ∈ edges, e.id = e.derivedId

/-- What an edit can do to the nodes and edges at hand, with what it has made sure of. -/
inductive Edit.Effect (nodes : List Node) (edges : List Edge) :
    Edit → List Node → List Edge → Prop
  | idle (edit : Edit) : Effect nodes edges edit nodes edges
  | placed {kind attributes withDefaults pluginName} (n : Node)
      (fresh : n.id ∉ nodes.map Node.id) :
      Effect nodes edges (.add kind attributes withDefaults pluginName) (nodes ++ [n]) edges
  | rewritten {attributes} (n : Node) :
      Effect nodes edges (.update (.text n.id) attributes)
        (nodes.map fun m => if m.id = n.id then n else m) edges
  | deleted (id : String) :
      Effect nodes edges (.delete (.text id)) (nodes.filter fun n => n.id != id)
        (edges.filter fun e => e.source != id && e.target != id)
  | connected (e : Edge)
      (anchored : e.source ∈ nodes.map Node.id ∧ e.target ∈ nodes.map Node.id)
      (unjoined : e.ends ∉ edges.map Edge.ends) (derived : e.id = e.derivedId) :
      Effect nodes edges (.connect (.text e.source) (.text e.target)
        (.textOrNull e.sourceAnchor) (.textOrNull e.targetAnchor)) nodes (edges ++ [e])
  | disconnected (id : Value) :
      Effect nodes edges (.disconnect id) nodes (edges.filter fun e => !Editor.isIdOf id e)
  | cleared : Effect nodes edges .clear [] []
  | loaded (f : Flow) : Effect nodes edges (.load f) f.nodes f.edges

namespace Editor

variable {σ : Type}

theorem find?_eq_some (e : Editor σ) (id : Value) (n : Node) (found : e.find? id = some n) :
    id = .text n.id ∧ n ∈ e.nodes := by
  unfold find? at found
  split at found
  next text =>
    have same := List.find?_some found
    simp only [beq_iff_eq] at same
    exact ⟨by rw [same], List.mem_of_find?_eq_some found⟩
  next => cases found

theorem get_eq_ok (e : Editor σ) (id : Value) (n : Node) :
    e.get id = .ok n ↔ e.find? id = some n := by
  unfold get
  split <;> simp_all

/-- The search for an id moves the source of ids and nothing else. -/
theorem newId_moves (source : IdSource σ) (e : Editor σ) (kind : Kind) :
    ∃ ids, (e.newId source kind).2 = { e with ids } := by
  unfold newId
  split <;> exact ⟨_, rfl⟩

theorem newId_fresh (source : IdSource σ) (e : Editor σ) (kind : Kind) (id : String)
    (drawn : (e.newId source kind).1 = .ok id) : id ∉ e.nodes.map Node.id := by
  unfold newId at drawn
  split at drawn
  next free after eq =>
    cases drawn
    rw [← List.mem_eraseDups]
    exact source.drawFree_not_mem e.takenIds kind e.drawLimit e.ids id (by rw [eq])
  next => cases drawn
  next => cases drawn

section

variable (source : IdSource σ) (e : Editor σ) (kind : Value) (attributes : Entries)
  (withDefaults : Bool) (pluginName : Value)

/-- What adding a node comes to, with the editor that it leaves. Once the kind is read, the source
of ids has moved on, whether a node is placed in the end or not. -/
inductive Added : Logged Failure Node × Editor σ → Prop
  | unread {failure : Failure} (read : Kind.read kind = .error failure) : Added (.fail failure, e)
  | exhausted {named : Kind} {failure : Failure} {ids : σ} (read : Kind.read kind = .ok named)
    (drawn : e.newId source named = (.error failure, { e with ids })) :
    Added (.fail failure, { e with ids })
  | unbuilt {named : Kind} {failure : Failure} {id : String} {ids : σ}
    (read : Kind.read kind = .ok named) (drawn : e.newId source named = (.ok id, { e with ids }))
    (built : (Node.build named (.text id) (.mapping
      (startingAttributes named attributes withDefaults pluginName))).orFail = .error failure) :
    Added (.fail failure, { e with ids })
  | placed {named : Kind} {n : Node} {line : LogLine} {ids : σ}
    (read : Kind.read kind = .ok named) (drawn : e.newId source named = (.ok n.id, { e with ids }))
    (built : (Node.build named (.text n.id) (.mapping
      (startingAttributes named attributes withDefaults pluginName))).orFail = .ok n) :
    Added (⟨[line], .ok n⟩, { e with nodes := e.nodes ++ [n], ids })

theorem add_added : Added source e kind attributes withDefaults pluginName
    (e.add source kind attributes withDefaults pluginName) := by
  unfold add
  split
  next failure read => exact .unread read
  next named read =>
    -- Drawing an id moves the source of ids and nothing else.
    obtain ⟨ids, moved⟩ := e.newId_moves source named
    split
    next failure after drawn =>
      obtain rfl : after = { e with ids } := by rw [← moved, drawn]
      exact .exhausted read drawn
    next id after drawn =>
      obtain rfl : after = { e with ids } := by rw [← moved, drawn]
      dsimp only
      split
      next failure built => exact .unbuilt read drawn built
      next n built =>
        -- The node is built under the id that was drawn for it.
        have same : id = n.id := by
          rw [Reading.orFail_eq_ok, Node.build_mapping_eq_value] at built
          exact built.1
        rw [same] at drawn built
        exact .placed read drawn built

end

theorem add_effect (source : IdSource σ) (e : Editor σ) (kind : Value) (attributes : Entries)
    (withDefaults : Bool) (pluginName : Value) :
    (Edit.add kind attributes withDefaults pluginName).Effect e.nodes e.edges
      (e.add source kind attributes withDefaults pluginName).2.nodes
      (e.add source kind attributes withDefaults pluginName).2.edges := by
  have added := e.add_added source kind attributes withDefaults pluginName
  generalize e.add source kind attributes withDefaults pluginName = result at added ⊢
  cases added with
  | unread | exhausted | unbuilt => exact .idle _
  | placed _ drawn => exact .placed _ (e.newId_fresh source _ _ (by rw [drawn]))

theorem update_effect (e : Editor σ) (id : Value) (attributes : Entries) :
    (Edit.update id attributes).Effect e.nodes e.edges (e.update id attributes).2.nodes
      (e.update id attributes).2.edges := by
  unfold update
  split
  · exact .idle _
  next current got =>
    split
    · exact .idle _
    next n built =>
      obtain ⟨rfl, -⟩ := e.find?_eq_some id current ((e.get_eq_ok id current).mp got)
      rw [updated, Reading.orFail_eq_ok, Node.build_eq_value] at built
      have same : current.id = n.id := by simpa using built.1
      rw [same]
      exact .rewritten n

theorem delete_effect (e : Editor σ) (id : Value) :
    (Edit.delete id).Effect e.nodes e.edges (e.delete id).2.nodes (e.delete id).2.edges := by
  unfold delete
  split
  · exact .idle _
  next n got =>
    obtain ⟨rfl, -⟩ := e.find?_eq_some id n ((e.get_eq_ok id n).mp got)
    exact .deleted n.id

/-- The check of connections lets an edge pass only between two nodes at hand that no edge joins. -/
theorem find?_of_refusal?_eq_none (e : Editor σ) (source other : Value)
    (passed : refusal? (e.find? source) (e.find? other) e.edges = none) :
    ∃ s t, e.find? source = some s ∧ e.find? other = some t ∧ s.id ≠ t.id ∧
      (s.id, t.id) ∉ e.edges.map Edge.ends := by
  unfold refusal? at passed
  split at passed
  next s t hs ht =>
    split at passed
    · cases passed
    next distinct =>
      split at passed
      · cases passed
      next unjoined =>
        refine ⟨s, t, hs, ht, distinct, ?_⟩
        simpa [connectionExists, Edge.ends, Prod.ext_iff] using unjoined
  · cases passed

theorem connect_effect (e : Editor σ) (source other sourceAnchor otherAnchor : Value) :
    (Edit.connect source other sourceAnchor otherAnchor).Effect e.nodes e.edges
      (e.connect source other sourceAnchor otherAnchor).2.nodes
      (e.connect source other sourceAnchor otherAnchor).2.edges := by
  unfold connect
  dsimp only
  split
  · exact .idle _
  next allowed =>
    split
    · exact .idle _
    next edge built =>
      have passed : refusal? (e.find? source) (e.find? other) e.edges = none := by
        unfold checkConnection at allowed
        split at allowed
        · cases allowed
        · assumption
      obtain ⟨s, t, hs, ht, -, unjoined⟩ := e.find?_of_refusal?_eq_none source other passed
      -- The check is about the nodes that were found; the edge that was built has the same ends.
      rw [Reading.orFail_eq_ok, Edge.build_eq_value] at built
      obtain ⟨rfl, rfl, rfl, rfl, derived⟩ := built
      obtain ⟨sourceText, hsource⟩ := e.find?_eq_some _ s hs
      obtain ⟨otherText, hother⟩ := e.find?_eq_some _ t ht
      have first : edge.source = s.id := by simpa using sourceText
      have second : edge.target = t.id := by simpa using otherText
      refine .connected edge ⟨?_, ?_⟩ ?_ derived
      · exact first ▸ List.mem_map_of_mem hsource
      · exact second ▸ List.mem_map_of_mem hother
      · rwa [Edge.ends, first, second]

theorem perform_effect (source : IdSource σ) (e : Editor σ) (edit : Edit) :
    edit.Effect e.nodes e.edges (e.perform source edit).2.nodes
      (e.perform source edit).2.edges := by
  cases edit with
  | add kind attributes withDefaults pluginName =>
    exact e.add_effect source kind attributes withDefaults pluginName
  | update id attributes => exact e.update_effect id attributes
  | delete id => exact e.delete_effect id
  | get id => exact .idle _
  | connect source other sourceAnchor otherAnchor =>
    exact e.connect_effect source other sourceAnchor otherAnchor
  | disconnect id => exact .disconnected id
  | clear => exact .cleared
  | load f => exact .loaded f

end Editor

/-! ### What every edit keeps -/

theorem Wired.nil (nodes : List Node) : Wired nodes [] :=
  ⟨by simp, by simp, by simp, by simp⟩

/-- Fewer edges stay wired, between any nodes that still have their ends. -/
theorem Wired.restrict {nodes nodes' : List Node} {edges edges' : List Edge}
    (wired : Wired nodes edges) (fewer : edges'.Sublist edges)
    (anchored : ∀ e ∈ edges', e.source ∈ nodes'.map Node.id ∧ e.target ∈ nodes'.map Node.id) :
    Wired nodes' edges' where
  loopless e he := wired.loopless e (fewer.subset he)
  simple := wired.simple.sublist (fewer.map Edge.ends)
  anchored := anchored
  derived e he := wired.derived e (fewer.subset he)

/-- One more item keeps the values distinct when its value is not among them. -/
theorem nodup_map_append_singleton {α β : Type} {f : α → β} {xs : List α} {x : α}
    (distinct : (xs.map f).Nodup) (fresh : f x ∉ xs.map f) : ((xs ++ [x]).map f).Nodup := by
  rw [List.map_append, List.map_singleton, ← List.concat_eq_append]
  exact List.Nodup.concat fresh distinct

/-- Another edge between nodes at hand stays wired when it joins a pair that is not joined yet. -/
theorem Wired.concat {nodes : List Node} {edges : List Edge} (wired : Wired nodes edges) (e : Edge)
    (anchored : e.source ∈ nodes.map Node.id ∧ e.target ∈ nodes.map Node.id)
    (unjoined : e.ends ∉ edges.map Edge.ends) (derived : e.id = e.derivedId) :
    Wired nodes (edges ++ [e]) where
  loopless other _ := other.source_ne_target
  simple := nodup_map_append_singleton wired.simple unjoined
  anchored := List.forall_mem_append.mpr
    ⟨wired.anchored, List.forall_mem_singleton.mpr anchored⟩
  derived := List.forall_mem_append.mpr ⟨wired.derived, List.forall_mem_singleton.mpr derived⟩

theorem map_id_rewritten (nodes : List Node) (n : Node) :
    (nodes.map fun m => if m.id = n.id then n else m).map Node.id = nodes.map Node.id := by
  rw [List.map_map]
  apply List.map_congr_left
  intro m _
  by_cases same : m.id = n.id <;> simp [same]

namespace Edit.Effect

variable {nodes nodes' : List Node} {edges edges' : List Edge} {edit : Edit}

theorem distinct (effect : edit.Effect nodes edges nodes' edges')
    (distinct : (nodes.map Node.id).Nodup) : (nodes'.map Node.id).Nodup := by
  cases effect with
  | idle | connected | disconnected => exact distinct
  | placed n fresh => exact nodup_map_append_singleton distinct fresh
  | rewritten n => rwa [map_id_rewritten]
  | deleted id => exact distinct.sublist (List.filter_sublist.map Node.id)
  | cleared => exact List.nodup_nil
  | loaded f => exact f.distinct

theorem wired (effect : edit.Effect nodes edges nodes' edges')
    (loads : ∀ f, edit = .load f → Wired f.nodes f.edges) (wired : Wired nodes edges) :
    Wired nodes' edges' := by
  cases effect with
  | idle => exact wired
  | placed n =>
    refine wired.restrict (List.Sublist.refl edges) fun e he => ?_
    rw [List.map_append]
    exact (wired.anchored e he).imp (List.mem_append_left _) (List.mem_append_left _)
  | rewritten n =>
    refine wired.restrict (List.Sublist.refl edges) fun e he => ?_
    rw [map_id_rewritten]
    exact wired.anchored e he
  | deleted id =>
    refine wired.restrict List.filter_sublist fun e he => ?_
    -- An edge stays only when neither end is the node that goes, so both ends stay as well.
    obtain ⟨member, apart⟩ := List.mem_filter.mp he
    simp only [Bool.and_eq_true, bne_iff_ne] at apart
    have stays (other : String) (there : other ∈ nodes.map Node.id) (ne : other ≠ id) :
        other ∈ (nodes.filter fun n => n.id != id).map Node.id := by
      obtain ⟨n, hn, rfl⟩ := List.mem_map.mp there
      exact List.mem_map_of_mem (List.mem_filter.mpr ⟨hn, by simpa using ne⟩)
    have ends := wired.anchored e member
    exact ⟨stays e.source ends.1 apart.1, stays e.target ends.2 apart.2⟩
  | connected e anchored unjoined derived => exact wired.concat e anchored unjoined derived
  | disconnected id =>
    exact wired.restrict List.filter_sublist fun e he =>
      wired.anchored e (List.filter_sublist.subset he)
  | cleared => exact .nil []
  | loaded f => exact loads f rfl

end Edit.Effect

/-! ### What every run keeps -/

namespace Editor

variable {σ : Type}

theorem run_cons (source : IdSource σ) (e : Editor σ) (edit : Edit) (rest : List Edit) :
    e.run source (edit :: rest) = (e.perform source edit).2.run source rest := rfl

/-- What holds at the start and survives each edit of a run holds after the run. -/
theorem run_invariant (source : IdSource σ) {P : Editor σ → Prop} (edits : List Edit)
    (survives : ∀ edit ∈ edits, ∀ e, P e → P (e.perform source edit).2) (e : Editor σ)
    (initially : P e) : P (e.run source edits) := by
  induction edits generalizing e with
  | nil => exact initially
  | cons edit rest ih =>
    rw [run_cons]
    refine ih (fun later member => survives later (List.mem_cons_of_mem _ member)) _ ?_
    exact survives edit List.mem_cons_self e initially

theorem run_distinct (source : IdSource σ) (edits : List Edit) (e : Editor σ)
    (initially : (e.nodes.map Node.id).Nodup) : ((e.run source edits).nodes.map Node.id).Nodup :=
  run_invariant source (P := fun e => (e.nodes.map Node.id).Nodup) edits
    (fun edit _ e distinct => (e.perform_effect source edit).distinct distinct) e initially

theorem start_distinct (ids : σ) (initial : Option Flow) :
    ((start ids initial).nodes.map Node.id).Nodup := by
  cases initial with
  | none => exact List.nodup_nil
  | some f => exact f.distinct

/-- A route with the service it leads to. -/
def routedFlow : Flow where
  nodes := [⟨"service-3", .service { name := some "api", host := some "api.local" }, by decide⟩,
    ⟨"route-1", .route {}, by decide⟩]
  edges := [⟨"route-1-default-service-3-default", "route-1", "service-3", none, none, by decide,
    by decide, by decide⟩]
  distinct := by decide

end Editor
end GatewayFlow
