import GatewayFlow.Generation
import GatewayFlow.Proofs.IndexScans

/-!
# Empty attributes

An empty text, list or mapping among the attributes of a node says as much as null: clearing all of
them leaves every verdict, every document, every text and every line of the log as it is. Each field
that is read through a fallback forgets the difference, and names and kinds are all that other nodes
see of a node.
-/
namespace GatewayFlow

/-- Whether a value is an empty text, list or mapping. Null, zero and false are not. -/
def Value.isEmptyPart : Value → Bool
  | .text s => s.isEmpty
  | .scalar _ => false
  | .list items => items.isEmpty
  | .mapping entries => entries.isEmpty

open Lowering (nonEmpty?)

/-- The attributes with null in place of everything empty. -/
def Attributes.cleared : Attributes → Attributes
  | .service a => .service { a with
      name := given? a.name, protocol := given? a.protocol, host := given? a.host,
      path := given? a.path }
  | .route a => .route { a with
      name := given? a.name, protocols := nonEmpty? a.protocols, methods := nonEmpty? a.methods,
      paths := nonEmpty? a.paths, hosts := nonEmpty? a.hosts }
  | .plugin a => .plugin { a with name := given? a.name, config := nonEmpty? a.config }
  | .consumer a => .consumer ⟨given? a.username, given? a.customId⟩
  | .upstream a => .upstream { a with
      name := given? a.name, algorithm := given? a.algorithm, hashOn := given? a.hashOn,
      hashFallback := given? a.hashFallback }
  | .target a => .target { a with target := given? a.target }
  | .certificate a => .certificate ⟨given? a.cert, given? a.key⟩
  | .sni a => .sni ⟨given? a.name⟩

def Node.cleared (n : Node) : Node :=
  { n with attributes := n.attributes.cleared }

/-! ### Fallbacks -/

@[simp] theorem given?_given? (s : Option String) : given? (given? s) = given? s := by
  cases s with
  | none => rfl
  | some s => by_cases empty : s.isEmpty <;> simp [given?, empty]

@[simp] theorem givenOr_given? (s : Option String) (other : String) :
    givenOr (given? s) other = givenOr s other := by
  rw [givenOr, givenOr, given?_given?]

namespace Lowering

@[simp] theorem nonEmpty?_nonEmpty? {α : Type} (xs : Option (List α)) :
    nonEmpty? (nonEmpty? xs) = nonEmpty? xs := by
  rcases xs with _ | _ | _ <;> rfl

/-- A list without items keeps none. -/
@[simp] theorem nonEmpty?_map_filter {α : Type} (keep : α → Bool) (xs : Option (List α)) :
    nonEmpty? ((nonEmpty? xs).map fun items => items.filter keep) =
      nonEmpty? (xs.map fun items => items.filter keep) := by
  rcases xs with _ | _ | _ <;> rfl

end Lowering

/-! ### What clearing leaves -/

namespace Attributes

@[simp] theorem filled_int (name : String) (a : Option Int) :
    ((entry name .int a).filter fun e => !e.2.isEmptyPart) = entry name .int a := by
  cases a <;> rfl

@[simp] theorem filled_bool (name : String) (a : Option Bool) :
    ((entry name .bool a).filter fun e => !e.2.isEmptyPart) = entry name .bool a := by
  cases a <;> rfl

@[simp] theorem filled_text (name : String) (a : Option String) :
    ((entry name .text a).filter fun e => !e.2.isEmptyPart) = entry name .text (given? a) := by
  cases a with
  | none => rfl
  | some s =>
    by_cases empty : s.isEmpty <;> simp [entry, given?, Value.isEmptyPart, empty]

@[simp] theorem filled_texts (name : String) (a : Option (List String)) :
    ((entry name .texts a).filter fun e => !e.2.isEmptyPart) =
      entry name .texts (nonEmpty? a) := by
  rcases a with _ | _ | _ <;> rfl

@[simp] theorem filled_config (name : String) (a : Option Config) :
    ((entry name Config.toValue a).filter fun e => !e.2.isEmptyPart) =
      entry name Config.toValue (nonEmpty? a) := by
  rcases a with _ | _ | _ <;> rfl

@[simp] theorem cleared_kind (a : Attributes) : a.cleared.kind = a.kind := by
  cases a <;> rfl

theorem cleared_entries (a : Attributes) :
    a.cleared.entries = a.entries.filter fun e => !e.2.isEmptyPart := by
  cases a <;> simp [cleared, entries]

end Attributes

namespace Node

variable (n : Node)

@[simp] theorem cleared_id : n.cleared.id = n.id := rfl

@[simp] theorem cleared_attributes : n.cleared.attributes = n.attributes.cleared := rfl

@[simp] theorem cleared_kind : n.cleared.kind = n.kind := n.attributes.cleared_kind

@[simp] theorem cleared_displayName : n.cleared.displayName = n.displayName := by
  cases attributes : n.attributes <;>
    simp [displayName, Attributes.cleared, Attributes.name?, attributes]

end Node

/-! ### The index over cleared nodes -/

section

variable (nodes : List Node) (edges : List Edge) (id : String)

@[simp] theorem Index.cleared_node? :
    (build (nodes.map Node.cleared) edges).node? id =
      ((build nodes edges).node? id).map Node.cleared := by
  rw [build_node?, build_node?, ← List.map_reverse, List.find?_map]
  rfl

@[simp] theorem Index.cleared_edgesFrom :
    (build (nodes.map Node.cleared) edges).edgesFrom id = (build nodes edges).edgesFrom id := by
  rw [build_edgesFrom, build_edgesFrom]

@[simp] theorem Index.cleared_kindOf? :
    (build (nodes.map Node.cleared) edges).kindOf? id = (build nodes edges).kindOf? id := by
  simp [kindOf?, Function.comp_def]

end

/-! ### Entries -/

namespace Lowering

variable (nodes : List Node) (edges : List Edge) (settings : Settings)

@[simp] theorem limited_cleared (entry : PluginEntry) (target : Node) :
    limited entry target.cleared = limited entry target := by
  cases attributes : target.attributes <;>
    simp [limited, Attributes.cleared, attributes]

/-- A consumer without a user name and without an id of its own goes by the id of the node. -/
theorem consumer_cleared (id : String) (a : ConsumerAttributes) :
    consumer id ⟨given? a.username, given? a.customId⟩ = consumer id a := by
  simp [consumer]

theorem serviceReference_cleared (id : String) :
    serviceReference (Index.build (nodes.map Node.cleared) edges) settings id =
      serviceReference (Index.build nodes edges) settings id := by
  simp [serviceReference, routeEdge?, Function.comp_def]

theorem addNode_cleared (d : Document) (n : Node) :
    addNode (Index.build (nodes.map Node.cleared) edges) settings d n.cleared =
      addNode (Index.build nodes edges) settings d n := by
  cases attributes : n.attributes with
  | service a => simp [addNode, attributes, Attributes.cleared, service, serviceEntry]
  | route a =>
    simp [addNode, attributes, Attributes.cleared, route, routeEntry, serviceReference_cleared]
  | plugin a =>
    simp [addNode, attributes, Attributes.cleared, plugin, unscoped, Function.comp_def]
  | consumer a => simp [addNode, attributes, Attributes.cleared, consumer_cleared]
  | upstream a => simp [addNode, attributes, Attributes.cleared, upstream]
  | _ => simp [addNode, attributes, Attributes.cleared]

theorem pluginLines_cleared (n : Node) :
    pluginLines (Index.build (nodes.map Node.cleared) edges) n.cleared =
      pluginLines (Index.build nodes edges) n := by
  simp only [pluginLines, Node.cleared_id, Index.cleared_edgesFrom, Index.cleared_node?]
  apply List.flatMap_congr
  intro e _
  cases (Index.build nodes edges).node? e.target with
  | none => rfl
  | some target => simp only [Option.map_some, Node.cleared_kind, Node.cleared_id]

theorem nodeLines_cleared (n : Node) :
    nodeLines (Index.build (nodes.map Node.cleared) edges) n.cleared =
      nodeLines (Index.build nodes edges) n := by
  simp only [nodeLines, Node.cleared_kind, Node.cleared_id, pluginLines_cleared]

theorem addNodes_cleared (d : Document) (part : List Node) :
    addNodes (Index.build (nodes.map Node.cleared) edges) settings d (part.map Node.cleared) =
      addNodes (Index.build nodes edges) settings d part := by
  -- The index stays that of the whole flow while the nodes are added one by one.
  induction part generalizing d with
  | nil => rfl
  | cons n rest ih => simp only [List.map_cons, addNodes, addNode_cleared, nodeLines_cleared, ih]

end Lowering

theorem lower_cleared (nodes : List Node) (edges : List Edge) (settings : Settings) :
    lower (nodes.map Node.cleared) edges settings = lower nodes edges settings := by
  simp only [lower, Lowering.addNodes_cleared, List.length_map]

/-! ### Violations -/

namespace Validation

variable (nodes : List Node) (edges : List Edge) (settings : Settings)

theorem nodeErrors_cleared (n : Node) :
    nodeErrors (Index.build (nodes.map Node.cleared) edges) settings n.cleared =
      nodeErrors (Index.build nodes edges) settings n := by
  cases attributes : n.attributes with
  | route a => simp [nodeErrors, attributes, Attributes.cleared, routeErrors]
  | service a => simp [nodeErrors, attributes, Attributes.cleared, serviceErrors]
  | consumer a => simp [nodeErrors, attributes, Attributes.cleared, consumerErrors]
  | _ => simp [nodeErrors, attributes, Attributes.cleared]

theorem errors_cleared :
    errors (nodes.map Node.cleared) edges settings = errors nodes edges settings := by
  simp only [errors, List.isEmpty_map, List.flatMap_map, nodeErrors_cleared]

end Validation

theorem generate_cleared (nodes : List Node) (edges : List Edge) (format : Value)
    (settings : Settings) :
    generate (nodes.map Node.cleared) edges format settings =
      generate nodes edges format settings := by
  simp only [generate, Validation.errors_cleared, Validation.lines, List.isEmpty_map,
    List.length_map, lower_cleared]

/-- Empty means absent. A node keeps its id, its kind and all attributes that are not empty when it
is cleared, and clearing the nodes of a flow changes neither its verdict nor its document or failure
nor its text, in any format. -/
theorem empty_means_absent :
    (∀ n : Node, n.cleared.id = n.id ∧ n.cleared.kind = n.kind ∧
      n.cleared.attributes.entries = n.attributes.entries.filter fun e => !e.2.isEmptyPart) ∧
    ∀ (nodes : List Node) (edges : List Edge) (settings : Settings),
      validate (nodes.map Node.cleared) edges settings = validate nodes edges settings ∧
      lower (nodes.map Node.cleared) edges settings = lower nodes edges settings ∧
      ∀ format, generate (nodes.map Node.cleared) edges format settings =
        generate nodes edges format settings := by
  constructor
  · intro n
    exact ⟨rfl, n.cleared_kind, n.attributes.cleared_entries⟩
  · intro nodes edges settings
    refine ⟨?_, lower_cleared nodes edges settings, fun format => ?_⟩
    · rw [validate, validate, Validation.errors_cleared]
    · exact generate_cleared nodes edges format settings

example : (Attributes.route { name := some "", hosts := some [], stripPath := some false }).cleared =
    .route { stripPath := some false } := rfl

end GatewayFlow
