import GatewayFlow.Index
import Mathlib.Data.List.Induction
import Mathlib.Data.List.Nodup

/-!
# The index as scans of the lists

What the tables of an index hold is found in the plain lists as well: the last node of an id, and
the edges of a source in their order. Where ids are distinct the last node of an id is its only one,
so that the index of a flow finds what scans of the flow find.
-/
namespace GatewayFlow.Index

private theorem lookup_cons_eq {β : Type} (key id : String) (value : β)
    (rest : List (String × β)) :
    ((key, value) :: rest).lookup id = if key = id then some value else rest.lookup id := by
  rw [List.lookup_cons]
  by_cases same : key = id
  · simp [same]
  · have apart : (id == key) = false := by simpa using fun eq => same eq.symm
    simp [same, apart]

theorem lookup_putNode (n : Node) (table : List (String × Node)) (id : String) :
    (putNode n table).lookup id = if n.id = id then some n else table.lookup id := by
  induction table with
  | nil => simp [putNode, lookup_cons_eq]
  | cons entry rest ih =>
    obtain ⟨key, m⟩ := entry
    by_cases here : key = n.id
    · by_cases same : n.id = id <;> simp [putNode, lookup_cons_eq, here, same]
    · by_cases same : key = id
      · subst same
        simp [putNode, here, Ne.symm here]
      · simp [putNode, lookup_cons_eq, here, same, ih]

theorem lookup_putEdge (e : Edge) (table : List (String × List Edge)) (id : String) :
    ((putEdge e table).lookup id).getD [] =
      (table.lookup id).getD [] ++ if e.source = id then [e] else [] := by
  induction table with
  | nil => by_cases same : e.source = id <;> simp [putEdge, lookup_cons_eq, same]
  | cons entry rest ih =>
    obtain ⟨key, group⟩ := entry
    by_cases here : key = e.source
    · by_cases same : e.source = id <;> simp [putEdge, lookup_cons_eq, here, same]
    · by_cases same : key = id
      · subst same
        simp [putEdge, here, Ne.symm here]
      · simp [putEdge, lookup_cons_eq, here, same, ih]

/-- The node of an id is the last one that has it. -/
theorem build_node? (nodes : List Node) (edges : List Edge) (id : String) :
    (build nodes edges).node? id = nodes.reverse.find? fun n => n.id == id := by
  -- The table that is built so far holds the earlier nodes, which later ones of their id hide.
  have scan (nodes : List Node) (table : List (String × Node)) :
      (nodes.foldl (fun table n => putNode n table) table).lookup id =
        (nodes.reverse.find? fun n => n.id == id).or (table.lookup id) := by
    induction nodes generalizing table with
    | nil => simp
    | cons n rest ih =>
      rw [List.foldl_cons, ih, lookup_putNode, List.reverse_cons, List.find?_append]
      by_cases same : n.id = id <;> simp [same]
  simpa [node?, build] using scan nodes []

/-- The edges from an id are those of the list that have it as their source, in order. -/
theorem build_edgesFrom (nodes : List Node) (edges : List Edge) (id : String) :
    (build nodes edges).edgesFrom id = edges.filter fun e => e.source == id := by
  -- Groups only grow at their end, so the table so far comes before the edges still to be put.
  have scan (edges : List Edge) (table : List (String × List Edge)) :
      ((edges.foldl (fun table e => putEdge e table) table).lookup id).getD [] =
        (table.lookup id).getD [] ++ edges.filter fun e => e.source == id := by
    induction edges generalizing table with
    | nil => simp
    | cons e rest ih =>
      rw [List.foldl_cons, ih, lookup_putEdge, List.append_assoc]
      by_cases same : e.source = id <;> simp [same]
  simpa [edgesFrom, build] using scan edges []

/-- What a search for a key finds is a member that has the key. -/
theorem mem_of_find?_key {α : Type} {key : α → String} {xs : List α} {k : String} {x : α}
    (found : (xs.find? fun y => key y == k) = some x) : x ∈ xs ∧ key x = k := by
  have same := List.find?_some found
  exact ⟨List.mem_of_find?_eq_some found, by simpa using same⟩

/-- A node that the index finds is one of the list and has the id that was asked for. -/
theorem mem_of_build_node? {nodes : List Node} {edges : List Edge} {id : String} {n : Node}
    (found : (build nodes edges).node? id = some n) : n ∈ nodes ∧ n.id = id := by
  rw [build_node?] at found
  obtain ⟨member, same⟩ := mem_of_find?_key found
  exact ⟨List.mem_reverse.mp member, same⟩

theorem build_node?_eq_none {nodes : List Node} (edges : List Edge) {id : String}
    (absent : id ∉ nodes.map Node.id) : (build nodes edges).node? id = none := by
  cases found : (build nodes edges).node? id with
  | none => rfl
  | some n =>
    obtain ⟨member, rfl⟩ := mem_of_build_node? found
    exact absurd (List.mem_map_of_mem member) absent

/-- Of two lists of nodes the second is searched first. -/
theorem build_node?_append (nodes₁ nodes₂ : List Node) (edges edges₁ edges₂ : List Edge)
    (id : String) : (build (nodes₁ ++ nodes₂) edges).node? id =
      ((build nodes₂ edges₂).node? id).or ((build nodes₁ edges₁).node? id) := by
  simp only [build_node?, List.reverse_append, List.find?_append]

/-! ### Distinct ids -/

/-- Where keys are distinct, a search for a key finds the one member that has it. -/
theorem find?_key_eq_some {α : Type} {key : α → String} {xs : List α}
    (distinct : (xs.map key).Nodup) (k : String) (x : α) :
    (xs.find? fun y => key y == k) = some x ↔ x ∈ xs ∧ key x = k := by
  constructor
  · exact mem_of_find?_key
  · rintro ⟨member, rfl⟩
    cases found : xs.find? fun y => key y == key x with
    | none => simpa using List.find?_eq_none.mp found x member
    | some y =>
      obtain ⟨there, same⟩ := mem_of_find?_key found
      exact congrArg some (List.inj_on_of_nodup_map distinct there member same)

theorem find?_id_eq_some {nodes : List Node} (distinct : (nodes.map Node.id).Nodup) (id : String)
    (n : Node) : (nodes.find? fun m => m.id == id) = some n ↔ n ∈ nodes ∧ n.id = id :=
  find?_key_eq_some distinct id n

theorem build_node?_eq_some {nodes : List Node} (distinct : (nodes.map Node.id).Nodup)
    (edges : List Edge) (id : String) (n : Node) :
    (build nodes edges).node? id = some n ↔ n ∈ nodes ∧ n.id = id := by
  have reversed : (nodes.reverse.map Node.id).Nodup := by
    rw [List.map_reverse]
    exact List.nodup_reverse.mpr distinct
  rw [build_node?, find?_id_eq_some reversed, List.mem_reverse]

/-- Where ids are distinct, the node of an id is also the first one that has it. -/
theorem build_node?_of_distinct {nodes : List Node} (distinct : (nodes.map Node.id).Nodup)
    (edges : List Edge) (id : String) :
    (build nodes edges).node? id = nodes.find? fun n => n.id == id := by
  ext n
  rw [build_node?_eq_some distinct, find?_id_eq_some distinct]

theorem putNode_of_fresh {n : Node} {table : List (String × Node)}
    (fresh : n.id ∉ table.map Prod.fst) : putNode n table = table ++ [(n.id, n)] := by
  induction table with
  | nil => rfl
  | cons entry rest ih =>
    obtain ⟨key, m⟩ := entry
    rw [List.map_cons, List.mem_cons, not_or] at fresh
    obtain ⟨apart, later⟩ := fresh
    rw [putNode, if_neg (Ne.symm apart), ih later, List.cons_append]

/-- Where ids are distinct, the nodes stand in the table one by one and in their order. -/
theorem build_nodes_of_distinct {nodes : List Node} (distinct : (nodes.map Node.id).Nodup)
    (edges : List Edge) : (build nodes edges).nodes = nodes.map fun n => (n.id, n) := by
  -- From the last node on: it is put into a table that holds the earlier ones, none with its id.
  induction nodes using List.reverseRecOn with
  | nil => rfl
  | append_singleton earlier n ih =>
    rw [List.map_append, List.map_singleton, List.nodup_append] at distinct
    obtain ⟨before, -, apart⟩ := distinct
    have keys : (earlier.map fun m => (m.id, m)).map Prod.fst = earlier.map Node.id :=
      List.map_map
    have fresh : n.id ∉ (earlier.map fun m => (m.id, m)).map Prod.fst := by
      rw [keys]
      exact fun member => apart n.id member n.id (List.mem_singleton_self _) rfl
    have put : (build (earlier ++ [n]) edges).nodes = putNode n (build earlier edges).nodes :=
      List.foldl_concat ..
    rw [put, ih before, putNode_of_fresh fresh, List.map_append, List.map_singleton]

/-! ### Flows -/

/-- What the index of a flow finds for an id is what scans of the flow find: the edges that leave
it in the order of the flow, and its node with the kind of it, or nothing where no node has the id.
The table of the nodes alone finds the same node, and holds each node once in the order of the
flow. -/
theorem agrees_with_scans (f : Flow) (id : String) :
    (build f.nodes f.edges).edgesFrom id = f.outgoing id ∧
      (build f.nodes f.edges).kindOf? id = (f.node? id).map Node.kind ∧
      ((build f.nodes f.edges).kindOf? id = none ↔ f.node? id = none) ∧
      (build f.nodes f.edges).node? id = f.node? id ∧
      f.nodeIndex.lookup id = f.node? id ∧
      f.nodeIndex = f.nodes.map fun n => (n.id, n) := by
  have node : (build f.nodes f.edges).node? id = f.node? id :=
    build_node?_of_distinct f.distinct f.edges id
  have kind : (build f.nodes f.edges).kindOf? id = (f.node? id).map Node.kind := by
    rw [kindOf?, node]
  have absent : (build f.nodes f.edges).kindOf? id = none ↔ f.node? id = none := by
    rw [kind, Option.map_eq_none_iff]
  have table : f.nodeIndex = (build f.nodes f.edges).nodes := rfl
  refine ⟨build_edgesFrom f.nodes f.edges id, kind, absent, node, ?_, ?_⟩
  · rw [table]
    exact node
  · rw [table]
    exact build_nodes_of_distinct f.distinct f.edges

end GatewayFlow.Index
