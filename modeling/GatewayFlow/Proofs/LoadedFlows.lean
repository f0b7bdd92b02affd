import GatewayFlow.Proofs.RenderedDocuments
import GatewayFlow.Proofs.SavedRoundTrip

/-!
# Loaded flows

What loading keeps of a saved flow: every raw node, and of the raw edges those that are the first
between their ends, under the ids that their ends and anchors determine.
-/
namespace GatewayFlow

/-! ### First members -/

/-- The members of a list before which none has the same key, in order. -/
def firsts {α β : Type} [DecidableEq β] (key : α → β) (xs : List α) : List α :=
  (xs.zipIdx.filter fun x => key x.1 ∉ (xs.take x.2).map key).map Prod.fst

/-- The first member is kept, and of the others those under another key that are first there. -/
theorem firsts_cons {α β : Type} [DecidableEq β] (key : α → β) (x : α) (xs : List α) :
    firsts key (x :: xs) = x :: (firsts key xs).filter fun y => key y ≠ key x := by
  have shifted : (x :: xs).zipIdx = (x, 0) :: xs.zipIdx.map fun y => (y.1, y.2 + 1) := by
    rw [List.zipIdx_cons, List.zipIdx_succ]
  rw [firsts, shifted, List.filter_cons_of_pos (by simp), List.map_cons, firsts, List.filter_map,
    List.filter_map, List.filter_filter, List.map_map]
  congr 2
  refine List.filter_congr fun y _ => ?_
  by_cases same : key y.1 = key x <;> simp [same]

theorem firstEdges_eq_filter (seen : List (String × String)) (edges : List Edge) :
    firstEdges seen edges = (firsts Edge.ends edges).filter fun e => e.ends ∉ seen := by
  induction edges generalizing seen with
  | nil => rfl
  | cons e rest ih =>
    rw [firstEdges, firsts_cons, ih, ih]
    by_cases joined : e.ends ∈ seen
    · -- Ends that were not seen are other ends than those of this edge.
      rw [if_pos joined, List.filter_cons_of_neg (by simpa using joined), List.filter_filter]
      refine List.filter_congr fun other _ => ?_
      by_cases same : other.ends = e.ends <;> simp [same, joined]
    · rw [if_neg joined, List.filter_cons_of_pos (by simpa using joined), List.filter_filter]
      congr 1
      refine List.filter_congr fun other _ => ?_
      simp [Bool.and_comm]

theorem firstEdges_nil_eq (edges : List Edge) : firstEdges [] edges = firsts Edge.ends edges := by
  rw [firstEdges_eq_filter, List.filter_eq_self]
  exact fun e _ => by simp

theorem ends_mem_firstEdges {seen : List (String × String)} {edges : List Edge} {e : Edge}
    (member : e ∈ edges) (fresh : e.ends ∉ seen) :
    e.ends ∈ (firstEdges seen edges).map Edge.ends := by
  induction edges generalizing seen with
  | nil => cases member
  | cons first rest ih =>
    rw [firstEdges]
    rcases List.mem_cons.mp member with rfl | later
    · rw [if_neg fresh]
      exact List.mem_cons_self
    · split
      next => exact ih later fresh
      next =>
        -- The ends of the first edge count as seen from here on.
        by_cases same : e.ends = first.ends
        · rw [same]
          exact List.mem_cons_self
        · refine List.mem_cons_of_mem _ (ih later ?_)
          exact fun there => (List.mem_cons.mp there).elim same fresh

theorem count_firstEdges {edges : List Edge} {e : Edge} (member : e ∈ edges) :
    ((firstEdges [] edges).map Edge.ends).count e.ends = 1 :=
  List.count_eq_one_of_mem (firstEdges_simple [] edges)
    (ends_mem_firstEdges member List.not_mem_nil)

namespace SavedFlow

/-! ### Nodes -/

/-- The id of a raw node, which has to be a text that is not empty. -/
def rawId? (entries : Entries) : Option String :=
  match Entries.get? "id" entries with
  | some (.text id) => if id.isEmpty then none else some id
  | _ => none

theorem rawId?_eq_some (entries : Entries) (id : String) :
    rawId? entries = some id ↔
      Entries.get? "id" entries = some (.text id) ∧ id.isEmpty = false := by
  unfold rawId?
  split
  next own found =>
    rw [found]
    constructor
    · intro named
      split at named
      next => cases named
      next nonempty =>
        cases named
        exact ⟨rfl, by simpa using nonempty⟩
    · rintro ⟨⟨⟩, nonempty⟩
      rw [nonempty, if_neg Bool.false_ne_true]
  next other =>
    constructor
    · exact nofun
    · rintro ⟨found, -⟩
      exact absurd found (other id)

/-- The attributes of a raw node under an id. -/
def attributesOf (id : String) (attributes : Value) : Except LoadFailure Entries :=
  if attributes.isVoid then .ok []
  else
    match attributes with
    | .mapping own => .ok own
    | _ => .error (.attributesNotMapping id)

/-- A mapping is the attributes that it holds, whether it is void or not. -/
theorem attributesOf_mapping (id : String) (own : Entries) :
    attributesOf id (.mapping own) = .ok own := by
  cases own <;> rfl

theorem attributesOf_eq_ok (id : String) (attributes : Value) (own : Entries) :
    attributesOf id attributes = .ok own ↔
      (if attributes.isVoid then .mapping [] else attributes) = Value.mapping own := by
  cases attributes with
  | mapping given =>
    rw [attributesOf_mapping]
    cases given <;> simp [Value.isVoid]
  | _ =>
    unfold attributesOf
    dsimp only
    split <;> simp

theorem attributesOf_eq_error {id : String} {attributes : Value} {cause : LoadFailure}
    (failed : attributesOf id attributes = .error cause) : cause = .attributesNotMapping id := by
  unfold attributesOf at failed
  split at failed
  · cases failed
  · split at failed
    · cases failed
    · cases failed
      rfl

/-- A raw node that is a mapping is split into its id, its kind and its attributes. -/
theorem split_mapping (position : Int) (entries : Entries) :
    split position (.mapping entries) =
      match rawId? entries with
      | none => .error (.nodeWithoutId position)
      | some id => (attributesOf id (kindAndAttributes entries).2).map
          fun own => ⟨id, (kindAndAttributes entries).1, own⟩ := by
  generalize parts : kindAndAttributes entries = own
  obtain ⟨kind, attributes⟩ := own
  rw [split, rawId?, parts]
  cases Entries.get? "id" entries with
  | none => rfl
  | some v =>
    cases v with
    | scalar s =>
      cases s with
      | text id =>
        dsimp only
        split
        · rfl
        · -- A void mapping is split into its entries too: it has none.
          cases attributes with
          | mapping own => cases own <;> rfl
          | _ =>
            unfold attributesOf
            dsimp only
            split <;> rfl
      | _ => rfl
    | _ => rfl

/-- The parts of a raw node, wherever it stands: its place matters to failures alone. -/
theorem split_eq_ok (position : Int) (raw : Value) (parts : RawNode) :
    split position raw = .ok parts ↔
      ∃ entries, raw = .mapping entries ∧ Entries.get? "id" entries = some (.text parts.id) ∧
        parts.id.isEmpty = false ∧ parts.kind = (kindAndAttributes entries).1 ∧
        (if (kindAndAttributes entries).2.isVoid then .mapping []
          else (kindAndAttributes entries).2) = Value.mapping parts.attributes := by
  cases raw with
  | mapping entries =>
    rw [split_mapping]
    constructor
    · intro parted
      cases named : rawId? entries with
      | none =>
        rw [named] at parted
        cases parted
      | some id =>
        rw [named] at parted
        obtain ⟨own, given, rfl⟩ := (map_eq_ok ..).mp parted
        obtain ⟨found, nonempty⟩ := (rawId?_eq_some ..).mp named
        exact ⟨entries, rfl, found, nonempty, rfl, (attributesOf_eq_ok ..).mp given⟩
    · rintro ⟨_, ⟨⟩, found, nonempty, kind, own⟩
      rw [(rawId?_eq_some ..).mpr ⟨found, nonempty⟩]
      exact (map_eq_ok ..).mpr ⟨parts.attributes, (attributesOf_eq_ok ..).mpr own, by rw [← kind]⟩
  | _ => simp [split]

/-- A raw node cannot be split when it or its attributes are no mapping, or when it has no id. -/
theorem split_eq_error {position : Int} {raw : Value} {cause : LoadFailure}
    (failed : split position raw = .error cause) :
    cause = .nodeNotMapping position ∨ cause = .nodeWithoutId position ∨
      ∃ id, cause = .attributesNotMapping id := by
  cases raw with
  | mapping entries =>
    rw [split_mapping] at failed
    split at failed
    next =>
      cases failed
      exact .inr (.inl rfl)
    next id named =>
      exact .inr (.inr ⟨id, attributesOf_eq_error ((map_eq_error ..).mp failed)⟩)
  | _ =>
    cases failed
    exact .inl rfl

theorem loadNode_eq_ok (raw : Value) (position : Int) (n : Node) :
    (loadNode raw position).result = .ok n ↔
      ∃ parts kind, split position raw = .ok parts ∧ Kind.ofValue? parts.kind = some kind ∧
        (∃ lines, dropLines kind parts = .ok lines) ∧
        Node.build kind (.text parts.id) (.mapping (kept kind parts.attributes)) = .value n := by
  rw [loadNode, Logged.result_bind, Logged.result_quiet, bind_eq_ok]
  constructor
  · -- Splitting, the kind, the lines about dropped attributes and the node itself, in this order.
    rintro ⟨parts, parted, built⟩
    split at built
    next => cases built
    next kind known =>
      rw [Logged.result_bind, Logged.result_quiet, bind_eq_ok] at built
      obtain ⟨lines, dropped, built⟩ := built
      refine ⟨parts, kind, (mapError_eq_ok ..).mp parted, known, ⟨lines, dropped⟩, ?_⟩
      exact (Reading.toExcept_eq_ok ..).mp ((mapError_eq_ok ..).mp built)
  · rintro ⟨parts, kind, parted, known, ⟨lines, dropped⟩, built⟩
    refine ⟨parts, (mapError_eq_ok ..).mpr parted, ?_⟩
    simp [known, dropped, built, Reading.toExcept]

/-- A raw node is loaded as a node, wherever it stands. -/
def NodeLoads (raw : Value) (n : Node) : Prop :=
  ∀ position, (loadNode raw position).result = .ok n

theorem nodeLoads_of_loadNode {raw : Value} {position : Int} {n : Node}
    (loaded : (loadNode raw position).result = .ok n) : NodeLoads raw n := by
  intro other
  obtain ⟨parts, kind, parted, others⟩ := (loadNode_eq_ok ..).mp loaded
  have elsewhere : split other raw = .ok parts :=
    (split_eq_ok ..).mpr ((split_eq_ok ..).mp parted)
  exact (loadNode_eq_ok ..).mpr ⟨parts, kind, elsewhere, others⟩

/-- A node is loaded under the id of the raw one. -/
theorem NodeLoads.field_id {raw : Value} {n : Node} (loads : NodeLoads raw n) :
    raw.field? "id" = some (.text n.id) := by
  obtain ⟨parts, kind, parted, -, -, built⟩ := (loadNode_eq_ok ..).mp (loads 0)
  obtain ⟨entries, rfl, found, -⟩ := (split_eq_ok ..).mp parted
  obtain ⟨named, -⟩ := (Node.build_eq_value ..).mp built
  rw [Value.field?, found, named]

theorem loadNodes_eq_ok (raws : List Value) (i : Nat) (nodes : List Node) :
    (loadNodes i raws).result = .ok nodes ↔ List.Forall₂ NodeLoads raws nodes := by
  -- The loop counts places, but where a raw node loads at one place it loads at all of them.
  induction raws generalizing i nodes with
  | nil => cases nodes <;> simp [loadNodes]
  | cons raw rest ih =>
    simp only [loadNodes, Logged.result_bind, Logged.result_pure, bind_eq_ok, ih,
      List.forall₂_cons_left_iff]
    constructor
    · rintro ⟨n, first, later, others, ⟨⟩⟩
      exact ⟨n, later, nodeLoads_of_loadNode first, others, rfl⟩
    · rintro ⟨n, later, first, others, rfl⟩
      exact ⟨n, first i, later, others, rfl⟩

/-! ### Edges -/

/-- An edge has the ends and the anchors of a raw one, under the id that they determine. An anchor
is looked for under two names. -/
structure EdgeOf (raw : Value) (e : Edge) : Prop where
  source : raw.field? "source" = some (.text e.source)
  target : raw.field? "target" = some (.text e.target)
  sourceAnchor : ((raw.field? "source_anchor").or (raw.field? "sourceHandle")).getD .null =
    .textOrNull e.sourceAnchor
  targetAnchor : ((raw.field? "target_anchor").or (raw.field? "targetHandle")).getD .null =
    .textOrNull e.targetAnchor
  derived : e.id = Edge.idOf e.source e.target e.sourceAnchor e.targetAnchor

theorem loadEdge_eq_ok (raw : Value) (position : Int) (e : Edge) :
    loadEdge raw position = .ok e ↔ EdgeOf raw e := by
  have found (side? : Option Value) (s : String) :
      side?.getD .null = .text s ↔ side? = some (.text s) := by
    cases side? <;> simp
  cases raw with
  | mapping entries =>
    simp only [loadEdge, mapError_eq_ok, Reading.toExcept_eq_ok, Edge.build_eq_value, found,
      firstOf]
    constructor
    · rintro ⟨source, target, sourceAnchor, targetAnchor, derived⟩
      exact ⟨source, target, sourceAnchor, targetAnchor, derived⟩
    · rintro ⟨source, target, sourceAnchor, targetAnchor, derived⟩
      exact ⟨source, target, sourceAnchor, targetAnchor, derived⟩
  | _ =>
    constructor
    · intro loaded
      cases loaded
    · intro edgeOf
      cases edgeOf.source

/-- Loading raw edges keeps those that are the first between their ends; `seen` are the ends of
edges before these. -/
theorem loadEdges_eq_ok (raws : List Value) (seen : List (String × String)) (i : Nat)
    (edges : List Edge) :
    (loadEdges seen i raws).result = .ok edges ↔
      ∃ all, List.Forall₂ EdgeOf raws all ∧ edges = firstEdges seen all := by
  -- Each raw edge is loaded, whether it is kept or not; what is kept moves between the two sides.
  induction raws generalizing seen i edges with
  | nil =>
    rw [show (loadEdges seen i []).result = .ok [] from rfl]
    simp [firstEdges, eq_comm]
  | cons raw rest ih =>
    rw [loadEdges_cons, bind_eq_ok]
    simp only [loadEdge_eq_ok, List.forall₂_cons_left_iff]
    constructor
    · rintro ⟨e, first, others⟩
      split at others
      next joined =>
        obtain ⟨all, loaded, rfl⟩ := (ih ..).mp others
        exact ⟨e :: all, ⟨e, all, first, loaded, rfl⟩, by rw [firstEdges, if_pos joined]⟩
      next fresh =>
        obtain ⟨later, loadedLater, rfl⟩ := (map_eq_ok ..).mp others
        obtain ⟨all, loaded, rfl⟩ := (ih ..).mp loadedLater
        exact ⟨e :: all, ⟨e, all, first, loaded, rfl⟩, by rw [firstEdges, if_neg fresh]⟩
    · rintro ⟨-, ⟨e, all, first, loaded, rfl⟩, rfl⟩
      refine ⟨e, first, ?_⟩
      rw [firstEdges]
      split
      next => exact (ih ..).mpr ⟨all, loaded, rfl⟩
      next => exact (map_eq_ok ..).mpr ⟨_, (ih ..).mpr ⟨all, loaded, rfl⟩, rfl⟩

/-! ### Flows -/

/-- A saved flow is a mapping with raw nodes and raw edges; a part that is absent or void has no
members. -/
structure HasParts (saved : Value) (rawNodes rawEdges : List Value) : Prop where
  mapping : ∃ entries, saved = .mapping entries
  nodes : members ((saved.field? "nodes").getD .null) = .ok rawNodes
  edges : members ((saved.field? "edges").getD .null) = .ok rawEdges

theorem load_eq_ok (saved : Value) (f : Flow) :
    (load saved).result = .ok f ↔
      ∃ rawNodes rawEdges, HasParts saved rawNodes rawEdges ∧
        (loadNodes 0 rawNodes).result = .ok f.nodes ∧
        (loadEdges [] 0 rawEdges).result = .ok f.edges := by
  cases saved with
  | mapping entries =>
    simp only [load, Logged.result_bind, Logged.result_quiet, Logged.result_note,
      Logged.result_pure, bind_eq_ok, mapError_eq_ok, Reading.toExcept_eq_ok,
      Flow.ofParts_eq_value]
    constructor
    · -- The steps of `load` in their order; the line that it notes at the end gives nothing.
      rintro ⟨rawNodes, nodeParts, nodes, loadedNodes, rawEdges, edgeParts, edges, loadedEdges, g,
        ⟨rfl, rfl⟩, -, -, ⟨⟩⟩
      exact ⟨rawNodes, rawEdges, ⟨⟨entries, rfl⟩, nodeParts, edgeParts⟩, loadedNodes, loadedEdges⟩
    · rintro ⟨rawNodes, rawEdges, parts, loadedNodes, loadedEdges⟩
      exact ⟨rawNodes, parts.nodes, f.nodes, loadedNodes, rawEdges, parts.edges, f.edges,
        loadedEdges, f, ⟨rfl, rfl⟩, (), trivial, rfl⟩
  | _ =>
    constructor
    · intro loaded
      cases loaded
    · rintro ⟨_, _, parts, -⟩
      obtain ⟨_, ⟨⟩⟩ := parts.mapping

end SavedFlow

open SavedFlow in
/-- A flow that is loaded has one node for each raw node, in order and under its id, and no two
nodes of one id. Its edges are those of the raw ones that are the first between their ends, in
order, with the ends and anchors of the raw edge and the id that these determine, so that each pair
of raw ends occurs once; no edge leads from a node to itself. Conversely a mapping whose raw nodes
load under different ids and whose raw edges load is loaded. -/
theorem load_first_edges (saved : Value) :
    (∀ f, (load saved).result = .ok f →
      ∃ rawNodes rawEdges edges, HasParts saved rawNodes rawEdges ∧
        List.Forall₂ NodeLoads rawNodes f.nodes ∧
        List.Forall₂ (fun raw n => raw.field? "id" = some (.text n.id)) rawNodes f.nodes ∧
        (f.nodes.map Node.id).Nodup ∧
        List.Forall₂ EdgeOf rawEdges edges ∧ f.edges = firsts Edge.ends edges ∧
        (∀ e ∈ edges, (f.edges.map Edge.ends).count e.ends = 1) ∧
        ∀ e ∈ f.edges, e.source ≠ e.target) ∧
    ∀ rawNodes rawEdges nodes edges, HasParts saved rawNodes rawEdges →
      List.Forall₂ (fun raw n => ∃ position, (loadNode raw position).result = .ok n) rawNodes nodes →
      (nodes.map Node.id).Nodup →
      List.Forall₂ (fun raw e => ∃ position, loadEdge raw position = .ok e) rawEdges edges →
      ∃ f, (load saved).result = .ok f ∧ f.nodes = nodes ∧ f.edges = firsts Edge.ends edges := by
  constructor
  · intro f loaded
    obtain ⟨rawNodes, rawEdges, parts, loadedNodes, loadedEdges⟩ := (load_eq_ok ..).mp loaded
    have nodes := (loadNodes_eq_ok ..).mp loadedNodes
    obtain ⟨edges, edgesOf, first⟩ := (loadEdges_eq_ok ..).mp loadedEdges
    refine ⟨rawNodes, rawEdges, edges, parts, nodes, nodes.imp fun _ _ loads => loads.field_id,
      f.distinct, edgesOf, ?_, ?_, fun e _ => e.source_ne_target⟩
    · rw [first, firstEdges_nil_eq]
    · intro e member
      rw [first, count_firstEdges member]
  · intro rawNodes rawEdges nodes edges parts nodesLoad distinct edgesLoad
    refine ⟨⟨nodes, firstEdges [] edges, distinct⟩, ?_, rfl, firstEdges_nil_eq edges⟩
    -- Positions matter to failures alone, so the raw parts load wherever they stand.
    refine (load_eq_ok ..).mpr ⟨rawNodes, rawEdges, parts, (loadNodes_eq_ok ..).mpr ?_,
      (loadEdges_eq_ok ..).mpr ⟨edges, ?_, rfl⟩⟩
    · exact nodesLoad.imp fun _ _ ⟨_, loaded⟩ => nodeLoads_of_loadNode loaded
    · exact edgesLoad.imp fun _ _ ⟨_, loaded⟩ => (loadEdge_eq_ok ..).mp loaded

/-- Two raw nodes of different shapes and three raw edges. The second edge repeats the ends of the
first under other anchors; both of these have ids of their own. -/
def sketch : Value :=
  .record [
    ("nodes", .list [
      .record [("id", .text "p"), ("data", .record [("type", .text "plugin"),
        ("config", .record [("name", .text "cors"), ("colour", .text "red")])])],
      .record [("id", .text "s"), ("kind", .text "service")]]),
    ("edges", .list [
      .record [("id", .text "own"), ("source", .text "p"), ("target", .text "s"),
        ("sourceHandle", .text "out")],
      .record [("id", .text "own"), ("source", .text "p"), ("target", .text "s"),
        ("source_anchor", .null)],
      .record [("source", .text "s"), ("target", .text "p")]])]

def sketchNodes : List Node :=
  [⟨"p", .plugin { name := some "cors" }, by decide⟩, ⟨"s", .service {}, by decide⟩]

def sketchEdges : List Edge :=
  [⟨"p-out-s-default", "p", "s", some "out", none, by decide, by decide, by decide⟩,
    ⟨"p-default-s-default", "p", "s", none, none, by decide, by decide, by decide⟩,
    ⟨"s-default-p-default", "s", "p", none, none, by decide, by decide, by decide⟩]

theorem load_first_edges_of_sketch :
    ∃ f, (SavedFlow.load sketch).result = .ok f ∧ f.nodes = sketchNodes ∧
      f.edges = firsts Edge.ends sketchEdges ∧ (f.nodes.map Node.id).Nodup ∧
      ∀ e ∈ f.edges, e.source ≠ e.target := by
  obtain ⟨f, loaded, nodes, edges⟩ := (load_first_edges sketch).2 _ _ sketchNodes sketchEdges
    ⟨⟨_, rfl⟩, rfl, rfl⟩ (.cons ⟨0, rfl⟩ (.cons ⟨1, rfl⟩ .nil)) (by decide)
    (.cons ⟨0, rfl⟩ (.cons ⟨1, rfl⟩ (.cons ⟨2, rfl⟩ .nil)))
  obtain ⟨-, -, -, -, -, -, distinct, -, -, -, apart⟩ := (load_first_edges sketch).1 f loaded
  exact ⟨f, loaded, nodes, edges, distinct, apart⟩

end GatewayFlow
