import GatewayFlow.Proofs.EdgeTargets

/-!
# Independent flows

Two flows without a common id, whose edges stay among their own nodes, do not see each other: put
side by side, with their edges mixed in any way, they are lowered and validated as each of them is
alone.
-/
namespace GatewayFlow

/-- A list that has the elements of two lists, those of each in their order. -/
inductive Interleaves {α : Type} : List α → List α → List α → Prop
  | nil : Interleaves [] [] []
  | left {x : α} {xs ys zs : List α} (rest : Interleaves xs ys zs) :
      Interleaves (x :: xs) ys (x :: zs)
  | right {y : α} {xs ys zs : List α} (rest : Interleaves xs ys zs) :
      Interleaves xs (y :: ys) (y :: zs)

namespace Interleaves

variable {α : Type} {xs ys zs : List α}

theorem symm (mixed : Interleaves xs ys zs) : Interleaves ys xs zs := by
  induction mixed with
  | nil => exact .nil
  | left _ ih => exact .right ih
  | right _ ih => exact .left ih

/-- Where only one list has elements of a kind, these are in the mixed list as in that one. -/
theorem filter_eq (mixed : Interleaves xs ys zs) {p : α → Bool}
    (foreign : ∀ y ∈ ys, p y = false) : zs.filter p = xs.filter p := by
  induction mixed with
  | nil => rfl
  | left _ ih => rw [List.filter_cons, List.filter_cons, ih foreign]
  | right _ ih =>
    obtain ⟨first, rest⟩ := List.forall_mem_cons.mp foreign
    rw [List.filter_cons_of_neg (by simp [first]), ih rest]

end Interleaves

/-- Two flows without a common id. The edges of each stay among its nodes. -/
structure Independent (nodes₁ : List Node) (edges₁ : List Edge) (nodes₂ : List Node)
    (edges₂ : List Edge) : Prop where
  disjoint : ∀ m ∈ nodes₁, ∀ n ∈ nodes₂, m.id ≠ n.id
  closed₁ : ∀ e ∈ edges₁, e.source ∈ nodes₁.map Node.id ∧ e.target ∈ nodes₁.map Node.id
  closed₂ : ∀ e ∈ edges₂, e.source ∈ nodes₂.map Node.id ∧ e.target ∈ nodes₂.map Node.id

namespace Independent

variable {nodes₁ nodes₂ : List Node} {edges₁ edges₂ edges : List Edge}

theorem symm (apart : Independent nodes₁ edges₁ nodes₂ edges₂) :
    Independent nodes₂ edges₂ nodes₁ edges₁ where
  disjoint m there n here := (apart.disjoint n here m there).symm
  closed₁ := apart.closed₂
  closed₂ := apart.closed₁

theorem not_mem_of_mem (apart : Independent nodes₁ edges₁ nodes₂ edges₂) {id : String}
    (here : id ∈ nodes₁.map Node.id) : id ∉ nodes₂.map Node.id := by
  obtain ⟨m, member, rfl⟩ := List.mem_map.mp here
  intro there
  obtain ⟨n, other, same⟩ := List.mem_map.mp there
  exact apart.disjoint m member n other same.symm

/-- The targets of a node are those that its own flow gives it. -/
theorem targetsFrom_eq (apart : Independent nodes₁ edges₁ nodes₂ edges₂)
    (mixed : Interleaves edges₁ edges₂ edges) {n : Node} (member : n ∈ nodes₁) :
    targetsFrom edges n.id = targetsFrom edges₁ n.id := by
  rw [targetsFrom, targetsFrom, mixed.filter_eq]
  intro e foreign
  refine beq_false_of_ne fun leaving => ?_
  exact apart.not_mem_of_mem (List.mem_map_of_mem member) (leaving ▸ (apart.closed₂ e foreign).1)

/-- Targets stay in the flow of their edges, so the other flow has no node that they could find. -/
theorem target_not_mem (apart : Independent nodes₁ edges₁ nodes₂ edges₂) {id target : String}
    (leads : target ∈ targetsFrom edges₁ id) : target ∉ nodes₂.map Node.id := by
  obtain ⟨e, leaving, rfl⟩ := List.mem_map.mp leads
  exact apart.not_mem_of_mem (apart.closed₁ e (List.mem_of_mem_filter leaving)).2

/-! ### The index of both flows -/

theorem agreeOn_left (apart : Independent nodes₁ edges₁ nodes₂ edges₂)
    (mixed : Interleaves edges₁ edges₂ edges) (n : Node) (member : n ∈ nodes₁) :
    (Index.build (nodes₁ ++ nodes₂) edges).AgreeOn (Index.build nodes₁ edges₁) n := by
  refine Index.build_agreeOn (fun _ => apart.targetsFrom_eq mixed member) fun id leads => ?_
  -- The nodes of the other flow are searched first and would hide a node of the same id.
  have unknown := Index.build_node?_eq_none edges₂ (apart.target_not_mem leads)
  rw [Index.build_node?_append nodes₁ nodes₂ edges edges₁ edges₂, unknown, Option.none_or]

theorem agreeOn_right (apart : Independent nodes₁ edges₁ nodes₂ edges₂)
    (mixed : Interleaves edges₁ edges₂ edges) (n : Node) (member : n ∈ nodes₂) :
    (Index.build (nodes₁ ++ nodes₂) edges).AgreeOn (Index.build nodes₂ edges₂) n := by
  refine Index.build_agreeOn (fun _ => apart.symm.targetsFrom_eq mixed.symm member)
    fun id leads => ?_
  have unknown := Index.build_node?_eq_none edges₁ (apart.symm.target_not_mem leads)
  rw [Index.build_node?_append nodes₁ nodes₂ edges edges₁ edges₂, unknown, Option.or_none]

end Independent

/-- Every section of a document is that of one document followed by that of another. -/
structure Document.Joins (d₁ d₂ d : Document) : Prop where
  services : d.services = d₁.services ++ d₂.services
  routes : d.routes = d₁.routes ++ d₂.routes
  plugins : d.plugins = d₁.plugins ++ d₂.plugins
  consumers : d.consumers = d₁.consumers ++ d₂.consumers
  upstreams : d.upstreams = d₁.upstreams ++ d₂.upstreams

section

variable {nodes₁ nodes₂ : List Node} {edges₁ edges₂ edges : List Edge}

/-- Over one index, the entries of two lists of nodes follow each other in each section. -/
theorem Lowering.extended_append (index : Index) (settings : Settings) (version : String)
    (nodes₁ nodes₂ : List Node) :
    Document.Joins (extended index settings { formatVersion := version } nodes₁)
      (extended index settings { formatVersion := version } nodes₂)
      (extended index settings { formatVersion := version } (nodes₁ ++ nodes₂)) := by
  constructor <;> simp [extended]

theorem Independent.document_joins (apart : Independent nodes₁ edges₁ nodes₂ edges₂)
    (mixed : Interleaves edges₁ edges₂ edges) (settings : Settings) :
    Document.Joins (Lowering.document nodes₁ edges₁ settings)
      (Lowering.document nodes₂ edges₂ settings)
      (Lowering.document (nodes₁ ++ nodes₂) edges settings) := by
  rw [Lowering.document, Lowering.document, Lowering.document,
    ← Lowering.extended_congr (apart.agreeOn_left mixed),
    ← Lowering.extended_congr (apart.agreeOn_right mixed)]
  exact Lowering.extended_append _ settings _ nodes₁ nodes₂

theorem Independent.errors_append (apart : Independent nodes₁ edges₁ nodes₂ edges₂)
    (mixed : Interleaves edges₁ edges₂ edges) (settings : Settings) (present₁ : nodes₁ ≠ [])
    (present₂ : nodes₂ ≠ []) :
    Validation.errors (nodes₁ ++ nodes₂) edges settings =
      Validation.errors nodes₁ edges₁ settings ++ Validation.errors nodes₂ edges₂ settings := by
  simp only [Validation.errors, List.isEmpty_iff, List.append_eq_nil_iff, present₁, present₂,
    and_self, if_false, List.flatMap_append]
  congr 1
  · exact List.flatMap_congr fun n member =>
      Validation.nodeErrors_congr (apart.agreeOn_left mixed n member)
  · exact List.flatMap_congr fun n member =>
      Validation.nodeErrors_congr (apart.agreeOn_right mixed n member)

/-- Names are refused node by node, whatever the edges. -/
theorem lower_append_succeeds (nodes₁ nodes₂ : List Node) (edges₁ edges₂ edges : List Edge)
    (settings : Settings) :
    (∃ d, (lower (nodes₁ ++ nodes₂) edges settings).result = .ok d) ↔
      (∃ d, (lower nodes₁ edges₁ settings).result = .ok d) ∧
      ∃ d, (lower nodes₂ edges₂ settings).result = .ok d := by
  simp only [lower_eq_ok, exists_and_left, exists_eq, and_true, List.forall_mem_append]

end

/-- Independent flows compile independently. Side by side they are lowered when each of them is, to
the sections of the first followed by those of the second; and what is wrong with them is what is
wrong with the first followed by what is wrong with the second. -/
theorem independent_flows {nodes₁ nodes₂ : List Node} {edges₁ edges₂ edges : List Edge}
    (apart : Independent nodes₁ edges₁ nodes₂ edges₂) (mixed : Interleaves edges₁ edges₂ edges)
    (settings : Settings) :
    ((∃ d, (lower (nodes₁ ++ nodes₂) edges settings).result = .ok d) ↔
      (∃ d₁, (lower nodes₁ edges₁ settings).result = .ok d₁) ∧
      ∃ d₂, (lower nodes₂ edges₂ settings).result = .ok d₂) ∧
    (∀ d d₁ d₂, (lower (nodes₁ ++ nodes₂) edges settings).result = .ok d →
      (lower nodes₁ edges₁ settings).result = .ok d₁ →
      (lower nodes₂ edges₂ settings).result = .ok d₂ → Document.Joins d₁ d₂ d) ∧
    (nodes₁ ≠ [] → nodes₂ ≠ [] →
      (validate (nodes₁ ++ nodes₂) edges settings).errors =
        (validate nodes₁ edges₁ settings).errors ++ (validate nodes₂ edges₂ settings).errors) := by
  refine ⟨lower_append_succeeds nodes₁ nodes₂ edges₁ edges₂ edges settings, ?_,
    apart.errors_append mixed settings⟩
  intro d d₁ d₂ lowered lowered₁ lowered₂
  obtain ⟨-, rfl⟩ := (lower_eq_ok _ _ _ d).mp lowered
  obtain ⟨-, rfl⟩ := (lower_eq_ok _ _ _ d₁).mp lowered₁
  obtain ⟨-, rfl⟩ := (lower_eq_ok _ _ _ d₂).mp lowered₂
  exact apart.document_joins mixed settings

/-- A shop and its users, each with a plugin. A route of the users leads to no service. -/
def shopNodes : List Node :=
  [⟨"cap", .plugin {}, by decide⟩, ⟨"shop", .route {}, by decide⟩,
    ⟨"carts", .service { name := some "api", host := some "api.local" }, by decide⟩]

def shopEdges : List Edge :=
  [⟨"e1", "shop", "carts", none, none, by decide, by decide, by decide⟩,
    ⟨"e2", "cap", "shop", none, none, by decide, by decide, by decide⟩,
    ⟨"e3", "cap", "carts", none, none, by decide, by decide, by decide⟩]

def userNodes : List Node :=
  [⟨"hosts", .upstream {}, by decide⟩, ⟨"login", .route {}, by decide⟩,
    ⟨"alice", .consumer {}, by decide⟩, ⟨"keys", .plugin {}, by decide⟩]

def userEdges : List Edge :=
  [⟨"e1", "keys", "alice", none, none, by decide, by decide, by decide⟩,
    ⟨"e2", "login", "hosts", none, none, by decide, by decide, by decide⟩]

def mixedEdges : List Edge :=
  [⟨"e1", "keys", "alice", none, none, by decide, by decide, by decide⟩,
    ⟨"e1", "shop", "carts", none, none, by decide, by decide, by decide⟩,
    ⟨"e2", "cap", "shop", none, none, by decide, by decide, by decide⟩,
    ⟨"e2", "login", "hosts", none, none, by decide, by decide, by decide⟩,
    ⟨"e3", "cap", "carts", none, none, by decide, by decide, by decide⟩]

theorem independent_flows_of_shop_and_users :
    Independent shopNodes shopEdges userNodes userEdges ∧
      Interleaves shopEdges userEdges mixedEdges ∧
      (∃ d d₁ d₂, (lower (shopNodes ++ userNodes) mixedEdges {}).result = .ok d ∧
        (lower shopNodes shopEdges {}).result = .ok d₁ ∧
        (lower userNodes userEdges {}).result = .ok d₂ ∧
        d₁.plugins.length = 2 ∧ d₂.plugins.length = 1 ∧ Document.Joins d₁ d₂ d) ∧
      (validate shopNodes shopEdges {}).valid = true ∧
      (validate (shopNodes ++ userNodes) mixedEdges {}).errors =
        (validate shopNodes shopEdges {}).errors ++ (validate userNodes userEdges {}).errors := by
  have apart : Independent shopNodes shopEdges userNodes userEdges :=
    ⟨by decide, by decide, by decide⟩
  have mixed : Interleaves shopEdges userEdges mixedEdges :=
    .right (.left (.left (.right (.left .nil))))
  obtain ⟨succeeds, joins, errors⟩ := independent_flows apart mixed {}
  have lowered₁ : (lower shopNodes shopEdges {}).result =
      .ok (Lowering.document shopNodes shopEdges {}) := rfl
  have lowered₂ : (lower userNodes userEdges {}).result =
      .ok (Lowering.document userNodes userEdges {}) := rfl
  obtain ⟨d, lowered⟩ := succeeds.mpr ⟨⟨_, lowered₁⟩, ⟨_, lowered₂⟩⟩
  refine ⟨apart, mixed, ⟨d, _, _, lowered, lowered₁, lowered₂, by decide, by decide,
    joins d _ _ lowered lowered₁ lowered₂⟩, by decide, ?_⟩
  exact errors (by simp [shopNodes]) (by simp [userNodes])

end GatewayFlow
