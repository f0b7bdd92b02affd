import GatewayFlow.Proofs.LoadedConnections

/-!
# The order of connections

Requests to connect nodes, made in any order, lead to the same connections: the ones that were there
and the ones that were asked for between two different nodes. The order decides only which request
for a pair is granted, the first, and so the anchors of the new edge.
-/
namespace GatewayFlow

/-- A request to connect two ids, which may be any values, with texts or nothing as anchors. -/
structure ConnectRequest where
  source : Value
  target : Value
  sourceAnchor : Option String
  targetAnchor : Option String

namespace ConnectRequest

def edit (r : ConnectRequest) : Edit :=
  .connect r.source r.target (.textOrNull r.sourceAnchor) (.textOrNull r.targetAnchor)

/-- The request asks for a connection from one node to another, by their ids. -/
structure Joins (nodes : List Node) (r : ConnectRequest) (source target : String) : Prop where
  source_eq : r.source = .text source
  target_eq : r.target = .text target
  apart : source ≠ target
  anchored : source ∈ nodes.map Node.id ∧ target ∈ nodes.map Node.id

/-- The edge that a request asks for, if there is one to ask for between these nodes. -/
def edge? (nodes : List Node) (r : ConnectRequest) : Option Edge :=
  match r.source, r.target with
  | .text source, .text target =>
    if h : source ≠ target ∧ source ∈ nodes.map Node.id ∧ target ∈ nodes.map Node.id then
      some {
        id := Edge.idOf source target r.sourceAnchor r.targetAnchor
        source, target
        sourceAnchor := r.sourceAnchor
        targetAnchor := r.targetAnchor
        source_nonempty := by
          obtain ⟨n, -, same⟩ := List.mem_map.mp h.2.1
          exact same ▸ n.id_nonempty
        target_nonempty := by
          obtain ⟨n, -, same⟩ := List.mem_map.mp h.2.2
          exact same ▸ n.id_nonempty
        source_ne_target := h.1 }
    else none
  | _, _ => none

variable {nodes : List Node} {r : ConnectRequest} {edge : Edge}

theorem edge?_eq_some : r.edge? nodes = some edge ↔
    r.Joins nodes edge.source edge.target ∧ r.sourceAnchor = edge.sourceAnchor ∧
      r.targetAnchor = edge.targetAnchor ∧ edge.id = edge.derivedId := by
  constructor
  · intro asked
    unfold edge? at asked
    split at asked
    next s t source target =>
      split at asked
      next h =>
        cases asked
        exact ⟨⟨source, target, h.1, h.2⟩, rfl, rfl, rfl⟩
      next => cases asked
    next => cases asked
  · rintro ⟨⟨source, target, apart, anchored⟩, sourceAnchor, targetAnchor, derived⟩
    obtain ⟨id, s, t, sa, ta, _, _, _⟩ := edge
    obtain ⟨_, _, _, _⟩ := r
    simp only at source target sourceAnchor targetAnchor apart anchored
    subst source target sourceAnchor targetAnchor
    rw [edge?]
    simp only [dif_pos (And.intro apart anchored), Option.some.injEq, Edge.mk.injEq, and_true]
    exact derived.symm

theorem exists_edge?_iff {s t : String} :
    (∃ edge, r.edge? nodes = some edge ∧ edge.ends = (s, t)) ↔ r.Joins nodes s t := by
  constructor
  · rintro ⟨edge, asked, ends⟩
    obtain ⟨joins, -⟩ := edge?_eq_some.mp asked
    obtain ⟨rfl, rfl⟩ := Prod.mk.inj ends
    exact joins
  · intro joins
    -- The edge takes its id from its ends, which are ids of nodes and so are not empty.
    have nonempty : ∀ id ∈ nodes.map Node.id, id ≠ "" := by
      intro id member
      obtain ⟨n, -, rfl⟩ := List.mem_map.mp member
      exact n.id_nonempty
    exact ⟨⟨Edge.idOf s t r.sourceAnchor r.targetAnchor, s, t, r.sourceAnchor, r.targetAnchor,
      nonempty s joins.anchored.1, nonempty t joins.anchored.2, joins.apart⟩,
      edge?_eq_some.mpr ⟨joins, rfl, rfl, rfl⟩, rfl⟩

theorem edit_of_edge? (asked : r.edge? nodes = some edge) : r.edit = edge.connection := by
  obtain ⟨joins, sourceAnchor, targetAnchor, -⟩ := edge?_eq_some.mp asked
  rw [edit, joins.source_eq, joins.target_eq, sourceAnchor, targetAnchor]
  rfl

end ConnectRequest
/-! ### First edges of pairs -/

theorem mem_ends_firstEdges {seen : List (String × String)} {edges : List Edge}
    {ends : String × String} : ends ∈ (firstEdges seen edges).map Edge.ends ↔
      ends ∉ seen ∧ ends ∈ edges.map Edge.ends := by
  constructor
  · intro kept
    obtain ⟨edge, member, rfl⟩ := List.mem_map.mp kept
    exact ⟨not_mem_of_mem_firstEdges member,
      List.mem_map_of_mem ((firstEdges_sublist seen edges).subset member)⟩
  · rintro ⟨fresh, asked⟩
    obtain ⟨edge, member, rfl⟩ := List.mem_map.mp asked
    exact ends_mem_firstEdges member fresh

/-- An edge that is kept is the first of its ends among all that are listed. -/
theorem exists_first_of_mem_firstEdges {α : Type} {edge? : α → Option Edge}
    {seen : List (String × String)} {xs : List α} {edge : Edge}
    (member : edge ∈ firstEdges seen (xs.filterMap edge?)) :
    ∃ before x rest, xs = before ++ x :: rest ∧ edge? x = some edge ∧
      ∀ y ∈ before, ∀ other, edge? y = some other → other.ends ≠ edge.ends := by
  induction xs generalizing seen with
  | nil => cases member
  | cons x xs ih =>
    cases asked : edge? x with
    | none =>
      rw [List.filterMap_cons_none asked] at member
      obtain ⟨before, y, rest, rfl, found, first⟩ := ih member
      refine ⟨x :: before, y, rest, rfl, found, List.forall_mem_cons.mpr ⟨?_, first⟩⟩
      simp [asked]
    | some other =>
      rw [List.filterMap_cons_some asked, firstEdges] at member
      -- Whether the edge here is kept or not, its ends count as seen behind it.
      have later : ∀ seen', other.ends ∈ seen' → edge ∈ firstEdges seen' (xs.filterMap edge?) →
          ∃ before y rest, x :: xs = before ++ y :: rest ∧ edge? y = some edge ∧
            ∀ y ∈ before, ∀ other, edge? y = some other → other.ends ≠ edge.ends := by
        intro seen' counted member
        obtain ⟨before, y, rest, rfl, found, first⟩ := ih member
        refine ⟨x :: before, y, rest, rfl, found, List.forall_mem_cons.mpr ⟨?_, first⟩⟩
        rintro _ again same
        cases asked.symm.trans again
        exact not_mem_of_mem_firstEdges member (same ▸ counted)
      split at member
      next joined => exact later seen joined member
      next =>
        rcases List.mem_cons.mp member with rfl | behind
        · exact ⟨[], x, xs, rfl, asked, by simp⟩
        · exact later _ List.mem_cons_self behind

/-! ### Runs of requests -/

namespace Editor

variable {σ : Type} (source : IdSource σ) (e : Editor σ)

/-- A request for which there is no edge to ask for is refused. -/
theorem perform_of_edge?_none {r : ConnectRequest} (none : r.edge? e.nodes = none) :
    ∃ refusal, (e.perform source r.edit).1.result = .ok (.verdict (.refusal refusal)) ∧
      (e.perform source r.edit).2 = e := by
  cases refused : refusal? (e.find? r.source) (e.find? r.target) e.edges with
  | some refusal =>
    have check : checkConnection (e.find? r.source) (e.find? r.target) e.edges =
        .refusal refusal := by
      rw [checkConnection, refused]
    refine ⟨refusal, ?_⟩
    simp only [ConnectRequest.edit, perform, connect, check]
    exact ⟨rfl, rfl⟩
  | none =>
    obtain ⟨s, t, hs, ht, apart, -⟩ := e.find?_of_refusal?_eq_none r.source r.target refused
    obtain ⟨source_eq, hs⟩ := e.find?_eq_some _ s hs
    obtain ⟨target_eq, ht⟩ := e.find?_eq_some _ t ht
    have joins : r.Joins e.nodes s.id t.id :=
      ⟨source_eq, target_eq, apart, List.mem_map_of_mem hs, List.mem_map_of_mem ht⟩
    obtain ⟨edge, asked, -⟩ := ConnectRequest.exists_edge?_iff.mpr joins
    cases none.symm.trans asked

theorem perform_connection_nodes {edge : Edge} (derived : edge.id = edge.derivedId)
    (anchored : edge.source ∈ e.nodes.map Node.id ∧ edge.target ∈ e.nodes.map Node.id) :
    (e.perform source edge.connection).2.nodes = e.nodes := by
  by_cases joined : edge.ends ∈ e.edges.map Edge.ends
  · rw [(e.perform_connection_of_joined source anchored joined).2]
  · rw [(e.perform_connection_of_unjoined source anchored joined derived).2]

/-- Requests that ask for no edge might as well not be made. -/
theorem run_requests_eq (requests : List ConnectRequest) :
    e.run source (requests.map ConnectRequest.edit) =
      e.run source
        ((requests.filterMap (ConnectRequest.edge? e.nodes)).map Edge.connection) := by
  induction requests generalizing e with
  | nil => rfl
  | cons r rest ih =>
    rw [List.map_cons, run_cons]
    cases asked : r.edge? e.nodes with
    | none =>
      obtain ⟨-, -, same⟩ := e.perform_of_edge?_none source asked
      rw [same, List.filterMap_cons_none asked, ih]
    | some edge =>
      obtain ⟨joins, -, -, derived⟩ := ConnectRequest.edge?_eq_some.mp asked
      -- The nodes stay, so the requests that are left ask for the same edges.
      rw [ih, ConnectRequest.edit_of_edge? asked,
        e.perform_connection_nodes source derived joins.anchored,
        List.filterMap_cons_some asked, List.map_cons, run_cons]

theorem run_requests (requests : List ConnectRequest) :
    e.run source (requests.map ConnectRequest.edit) =
      { e with
        edges := e.edges ++ firstEdges (e.edges.map Edge.ends)
          (requests.filterMap (ConnectRequest.edge? e.nodes)) } := by
  rw [run_requests_eq]
  apply run_edge_connections
  · intro edge member
    obtain ⟨r, -, asked⟩ := List.mem_filterMap.mp member
    exact (ConnectRequest.edge?_eq_some.mp asked).1.anchored
  · intro edge member
    obtain ⟨r, -, asked⟩ := List.mem_filterMap.mp member
    exact (ConnectRequest.edge?_eq_some.mp asked).2.2.2
  · exact fun _ => Iff.rfl

theorem mem_ends_run {requests : List ConnectRequest} {s t : String} :
    (s, t) ∈ (e.run source (requests.map ConnectRequest.edit)).edges.map Edge.ends ↔
      (s, t) ∈ e.edges.map Edge.ends ∨ ∃ r ∈ requests, r.Joins e.nodes s t := by
  have asked : (s, t) ∈ (requests.filterMap (ConnectRequest.edge? e.nodes)).map Edge.ends ↔
      ∃ r ∈ requests, r.Joins e.nodes s t := by
    simp only [List.mem_map, List.mem_filterMap, ← ConnectRequest.exists_edge?_iff]
    grind
  rw [run_requests, List.map_append, List.mem_append, mem_ends_firstEdges, asked]
  by_cases joined : (s, t) ∈ e.edges.map Edge.ends <;> simp [joined]

/-- The answer to a request that is made behind others. -/
def answerTo (before : List ConnectRequest) (r : ConnectRequest) : Except Failure Reply :=
  ((e.run source (before.map ConnectRequest.edit)).perform source r.edit).1.result

/-- A request opens a pair behind others: it asks for it, no edge at hand joins it, and none of the
others asks for it. -/
structure Opens (before : List ConnectRequest) (r : ConnectRequest) (s t : String) : Prop where
  joins : r.Joins e.nodes s t
  unjoined : (s, t) ∉ e.edges.map Edge.ends
  first : ∀ other ∈ before, ¬ other.Joins e.nodes s t

theorem opens_iff {before : List ConnectRequest} {r : ConnectRequest} {s t : String} :
    e.Opens before r s t ↔ r.Joins e.nodes s t ∧
      (s, t) ∉ (e.run source (before.map ConnectRequest.edit)).edges.map Edge.ends := by
  rw [mem_ends_run, not_or]
  constructor
  · rintro ⟨joins, unjoined, first⟩
    exact ⟨joins, unjoined, fun ⟨other, member, same⟩ => first other member same⟩
  · rintro ⟨joins, unjoined, first⟩
    exact ⟨joins, unjoined, fun other member same => first ⟨other, member, same⟩⟩

/-- Every request is answered with a verdict, and granted just when it opens a pair. -/
theorem answerTo_eq (before : List ConnectRequest) (r : ConnectRequest) :
    ∃ v, e.answerTo source before r = .ok (.verdict v) ∧
      (v.valid = true ↔ ∃ s t, e.Opens before r s t) := by
  have nodes : (e.run source (before.map ConnectRequest.edit)).nodes = e.nodes := by
    rw [run_requests]
  -- Requests before this one change no node, so they ask for the same edges in either editor.
  simp only [answerTo, e.opens_iff source, ← nodes]
  generalize e.run source (before.map ConnectRequest.edit) = e'
  cases asked : r.edge? e'.nodes with
  | none =>
    obtain ⟨refusal, refused, -⟩ := e'.perform_of_edge?_none source asked
    refine ⟨_, refused, iff_of_false (by simp [Verdict.valid, Verdict.refusal]) ?_⟩
    rintro ⟨s, t, joins, -⟩
    obtain ⟨edge, some, -⟩ := ConnectRequest.exists_edge?_iff.mpr joins
    cases asked.symm.trans some
  | some edge =>
    obtain ⟨joins, -, -, derived⟩ := ConnectRequest.edge?_eq_some.mp asked
    rw [ConnectRequest.edit_of_edge? asked]
    by_cases joined : edge.ends ∈ e'.edges.map Edge.ends
    · -- A request asks for one pair only, and this one is joined already.
      have refused := (e'.perform_connection_of_joined source joins.anchored joined).1
      refine ⟨_, refused, iff_of_false (by simp [Verdict.valid, Verdict.refusal]) ?_⟩
      rintro ⟨s, t, again, unjoined⟩
      cases joins.source_eq.symm.trans again.source_eq
      cases joins.target_eq.symm.trans again.target_eq
      exact unjoined joined
    · obtain ⟨notes, granted⟩ :=
        (e'.perform_connection_of_unjoined source joins.anchored joined derived).1
      exact ⟨_, granted, iff_of_true rfl ⟨edge.source, edge.target, joins, joined⟩⟩

/-- A request is granted behind others. -/
def Grants (before : List ConnectRequest) (r : ConnectRequest) : Prop :=
  ∃ v, e.answerTo source before r = .ok (.verdict v) ∧ v.valid = true

theorem grants_iff (before : List ConnectRequest) (r : ConnectRequest) :
    e.Grants source before r ↔ ∃ s t, e.Opens before r s t := by
  obtain ⟨v, answered, valid⟩ := e.answerTo_eq source before r
  rw [← valid, Grants, answered]
  simp

theorem opens_of_grants {before : List ConnectRequest} {r : ConnectRequest} {s t : String}
    (grants : e.Grants source before r) (joins : r.Joins e.nodes s t) : e.Opens before r s t := by
  obtain ⟨s', t', opens⟩ := (e.grants_iff source before r).mp grants
  cases joins.source_eq.symm.trans opens.joins.source_eq
  cases joins.target_eq.symm.trans opens.joins.target_eq
  exact opens

/-- Of the requests for a new pair exactly one is granted. -/
theorem existsUnique_grants {requests : List ConnectRequest} {s t : String}
    (unjoined : (s, t) ∉ e.edges.map Edge.ends) (asked : ∃ r ∈ requests, r.Joins e.nodes s t) :
    ∃! before, ∃ r rest, requests = before ++ r :: rest ∧ r.Joins e.nodes s t ∧
      e.Grants source before r := by
  classical
  let asks (r : ConnectRequest) : Bool := decide (r.Joins e.nodes s t)
  -- The one that is granted is the first that asks for the pair.
  obtain ⟨r, found⟩ : ∃ r, requests.find? asks = some r := by
    rw [← Option.isSome_iff_exists, List.find?_isSome]
    simpa [asks] using asked
  obtain ⟨joins, before, rest, split, first⟩ := List.find?_eq_some_iff_append.mp found
  have joins : r.Joins e.nodes s t := of_decide_eq_true joins
  refine ⟨before, ⟨r, rest, split, joins, (e.grants_iff source before r).mpr ⟨s, t, joins,
    unjoined, fun other member => by simpa [asks] using first other member⟩⟩, ?_⟩
  have before_eq : before = requests.takeWhile fun r => !asks r := by
    rw [split, List.takeWhile_append_of_pos first, List.takeWhile_cons_of_neg (by simpa [asks]),
      List.append_nil]
  rintro before' ⟨r', rest', split', joins', grants⟩
  have opens := e.opens_of_grants source grants joins'
  rw [before_eq, split', List.takeWhile_append_of_pos fun other member => ?_,
    List.takeWhile_cons_of_neg (by simpa [asks]), List.append_nil]
  simpa [asks] using opens.first other member

/-- The edges that requests add join different pairs, each with the anchors of the request that
opens its pair. -/
theorem run_requests_added (requests : List ConnectRequest) :
    ∃ added, e.run source (requests.map ConnectRequest.edit) =
        { e with edges := e.edges ++ added } ∧
      (added.map Edge.ends).Nodup ∧
      ∀ edge ∈ added, ∃ before r rest, requests = before ++ r :: rest ∧
        e.Opens before r edge.source edge.target ∧ edge.sourceAnchor = r.sourceAnchor ∧
        edge.targetAnchor = r.targetAnchor ∧ edge.id = edge.derivedId := by
  refine ⟨_, e.run_requests source requests, firstEdges_simple _ _, fun edge member => ?_⟩
  obtain ⟨before, r, rest, split, asked, first⟩ := exists_first_of_mem_firstEdges member
  obtain ⟨joins, sourceAnchor, targetAnchor, derived⟩ := ConnectRequest.edge?_eq_some.mp asked
  refine ⟨before, r, rest, split, ⟨joins, not_mem_of_mem_firstEdges member, ?_⟩,
    sourceAnchor.symm, targetAnchor.symm, derived⟩
  intro other earlier again
  obtain ⟨edge', asked', same⟩ := ConnectRequest.exists_edge?_iff.mpr again
  exact first other earlier edge' asked' same

/-- Reordered requests add edges between the same pairs. -/
theorem run_requests_perm {requests others : List ConnectRequest}
    (reordered : others.Perm requests) :
    ((e.run source (others.map ConnectRequest.edit)).edges.map Edge.ends).Perm
      ((e.run source (requests.map ConnectRequest.edit)).edges.map Edge.ends) := by
  rw [run_requests, run_requests, List.map_append, List.map_append]
  apply List.Perm.append_left
  rw [List.perm_ext_iff_of_nodup (firstEdges_simple _ _) (firstEdges_simple _ _)]
  intro ends
  rw [mem_ends_firstEdges, mem_ends_firstEdges]
  exact and_congr_right fun _ => ((reordered.filterMap _).map _).mem_iff

end Editor

/-- Requests to connect nodes, however they are ordered, leave the connections that were there and
those that are asked for between two different nodes. Every request is answered, and granted just
when it is the first for a new pair, so exactly one is for each. The edges that were there keep
their places, and each new edge has the anchors of the first request for its pair. -/
theorem connect_order {σ : Type} (source : IdSource σ) (e : Editor σ)
    (requests : List ConnectRequest) :
    let after := e.run source (requests.map ConnectRequest.edit)
    (∀ s t, (s, t) ∈ after.edges.map Edge.ends ↔
      (s, t) ∈ e.edges.map Edge.ends ∨ ∃ r ∈ requests, r.Joins e.nodes s t) ∧
    (∀ others : List ConnectRequest, others.Perm requests →
      ((e.run source (others.map ConnectRequest.edit)).edges.map Edge.ends).Perm
        (after.edges.map Edge.ends)) ∧
    (∀ before r, ∃ v, e.answerTo source before r = .ok (.verdict v) ∧
      (v.valid = true ↔ ∃ s t, e.Opens before r s t)) ∧
    (∀ s t, (s, t) ∉ e.edges.map Edge.ends → (∃ r ∈ requests, r.Joins e.nodes s t) →
      ∃! before, ∃ r rest, requests = before ++ r :: rest ∧ r.Joins e.nodes s t ∧
        e.Grants source before r) ∧
    ∃ added, after = { e with edges := e.edges ++ added } ∧ (added.map Edge.ends).Nodup ∧
      ∀ edge ∈ added, ∃ before r rest, requests = before ++ r :: rest ∧
        e.Opens before r edge.source edge.target ∧ edge.sourceAnchor = r.sourceAnchor ∧
        edge.targetAnchor = r.targetAnchor ∧ edge.id = edge.derivedId := by
  intro after
  refine ⟨?_, ?_, e.answerTo_eq source, ?_, e.run_requests_added source requests⟩
  · exact fun s t => e.mem_ends_run source
  · exact fun others reordered => e.run_requests_perm source reordered
  · exact fun s t unjoined asked => e.existsUnique_grants source unjoined asked

/-- A limited service that a route is to be connected to. -/
def canvas : Editor IdCounter where
  nodes := [⟨"route", .route {}, by decide⟩, ⟨"service", .service {}, by decide⟩,
    ⟨"valve", .plugin {}, by decide⟩]
  edges := [⟨"e1", "valve", "service", none, none, by decide, by decide, by decide⟩]
  ids := .initial

/-- The pair that is new twice, with different anchors; besides it its reverse, a pair that is
joined, a node with itself and a node that is not there. -/
def canvasRequests : List ConnectRequest :=
  [⟨.text "route", .text "service", some "top", none⟩,
    ⟨.text "service", .text "route", none, none⟩, ⟨.text "valve", .text "service", none, none⟩,
    ⟨.text "route", .text "route", none, none⟩, ⟨.text "route", .text "absent", none, none⟩,
    ⟨.text "route", .text "service", some "", some "left"⟩]

theorem connect_order_reversed_on_canvas :
    canvasRequests.reverse.Perm canvasRequests ∧
      ((canvas.run .counter (canvasRequests.reverse.map ConnectRequest.edit)).edges.map
          Edge.ends).Perm
        ((canvas.run .counter (canvasRequests.map ConnectRequest.edit)).edges.map Edge.ends) ∧
      ("route", "service") ∉ canvas.edges.map Edge.ends ∧
      (∃ r ∈ canvasRequests, r.Joins canvas.nodes "route" "service") ∧
      ∃! before, ∃ r rest, canvasRequests = before ++ r :: rest ∧
        r.Joins canvas.nodes "route" "service" ∧ canvas.Grants .counter before r := by
  obtain ⟨-, reordered, -, granted, -⟩ := connect_order .counter canvas canvasRequests
  have backwards : canvasRequests.reverse.Perm canvasRequests := List.reverse_perm _
  have unjoined : ("route", "service") ∉ canvas.edges.map Edge.ends := by decide
  have asked : ∃ r ∈ canvasRequests, r.Joins canvas.nodes "route" "service" :=
    ⟨_, List.mem_cons_self, rfl, rfl, by decide, by decide⟩
  exact ⟨backwards, reordered _ backwards, unjoined, asked, granted _ _ unjoined asked⟩

end GatewayFlow
