import GatewayFlow.Proofs.LoweredDocuments
import GatewayFlow.Proofs.NodeRules
import GatewayFlow.Proofs.RenderedData

/-!
# Rendered entries of nodes

The sections of services, routes and consumers have one entry for each node of their kind, in the
order of the nodes. What an entry holds once it is rendered is read off its node.
-/
namespace GatewayFlow

/-- Where each item of interest gives one result and every other none, the results are those of the
items of interest. -/
theorem map_flatMap_eq_map_filter {α β γ : Type} {wanted : α → Bool} {results : α → List β}
    {field : β → γ} {expected : α → γ} {xs : List α}
    (either : ∀ x ∈ xs, (wanted x = true ∧ ∃ y, results x = [y] ∧ field y = expected x) ∨
      wanted x = false ∧ results x = []) :
    (xs.flatMap results).map field = (xs.filter wanted).map expected := by
  induction xs with
  | nil => rfl
  | cons x rest ih =>
    obtain ⟨here, later⟩ := List.forall_mem_cons.mp either
    rw [List.flatMap_cons, List.map_append, ih later]
    rcases here with ⟨kept, y, result, same⟩ | ⟨skipped, nothing⟩
    · simp [kept, result, same]
    · simp [skipped, nothing]

/-! ### Fields of rendered entries -/

namespace Sanitize

theorem value_text (s : String) : value (.text s) = .text (text s) := by
  rw [Value.text, value, scalar]

theorem value_texts (items : List String) : value (.texts items) = .texts (items.map text) := by
  simp only [Value.texts, value, items_eq_map, List.map_map, Function.comp_def]
  simp only [scalar]

/-- A text that sanitizing trimmed is blank only when nothing is left of it. -/
theorem isVisible_text (s : String) : Lowering.isVisible (text s) = true ↔ ¬Vanishes s := by
  rw [← text_eq_empty_iff, text, ← String.toList_inj, String.toList_ofList, String.toList_empty,
    Lowering.isVisible, String.toList_ofList, Bool.not_eq_true', List.isEmpty_eq_false_iff,
    not_iff_not, Text.trim_eq_nil_iff]
  constructor
  · intro blank
    -- The last character of a trimmed text is not blank.
    rw [chars, Text.trim, Text.trimBy, Text.dropEndWhile] at blank ⊢
    generalize List.dropWhile Text.isBlank (withoutMarker _) = cs at blank ⊢
    have last := List.head?_dropWhile_not Text.isBlank cs.reverse
    cases dropped : cs.reverse.dropWhile Text.isBlank with
    | nil => rfl
    | cons c rest =>
      rw [dropped] at last blank
      have stays : Text.isBlank c = false := last
      rw [blank c (by simp)] at stays
      cases stays
  · intro empty
    simp [empty]

end Sanitize

theorem ServiceEntry.field?_rendered (e : ServiceEntry) (name : String) :
    (Sanitize.value e.toValue).field? name = (e.toValue.field? name).map Sanitize.value :=
  Sanitize.field?_value (by decide) (by decide) e.isRecord name

theorem RouteEntry.field?_rendered (e : RouteEntry) (name : String) :
    (Sanitize.value e.toValue).field? name = (e.toValue.field? name).map Sanitize.value :=
  Sanitize.field?_value (by decide) (by decide) e.isRecord name

theorem ConsumerEntry.field?_rendered (e : ConsumerEntry) (name : String) :
    (Sanitize.value e.toValue).field? name = (e.toValue.field? name).map Sanitize.value :=
  Sanitize.field?_value (by decide) (by decide) e.isRecord name

theorem ServiceEntry.field?_host (e : ServiceEntry) :
    e.toValue.field? "host" = some (.text e.host) := by
  simp [toValue, Value.field?]

theorem RouteEntry.field?_paths (e : RouteEntry) :
    e.toValue.field? "paths" = e.paths.map .texts := by
  simp [toValue, Value.field?]

theorem ConsumerEntry.field?_username (e : ConsumerEntry) :
    e.toValue.field? "username" = e.username.map .text := by
  simp [toValue, Value.field?]

theorem ConsumerEntry.field?_custom_id (e : ConsumerEntry) :
    e.toValue.field? "custom_id" = e.customId.map .text := by
  simp [toValue, Value.field?]

/-! ### Sections -/

namespace Lowering

variable {nodes : List Node} {edges : List Edge} {settings : Settings} {γ : Type}
  {field : Value → γ} {expected : Node → γ}

/-- What the entries of a section hold once they are rendered, when each comes from a node of one
kind. -/
theorem map_section {α : Type} (name : String) (kind : Kind) (toValue : α → Value)
    (entries : Node → List α)
    (member : (name, (nodes.flatMap entries).map toValue) ∈
      (document nodes edges settings).allSections)
    (either : ∀ n ∈ nodes,
      (n.kind = kind ∧ ∃ e, entries n = [e] ∧ field (Sanitize.value (toValue e)) = expected n) ∨
        n.kind ≠ kind ∧ entries n = []) :
    ((document nodes edges settings).rendered.sectionOf name).map field =
      (nodes.filter fun n => n.kind == kind).map expected := by
  rw [Document.sectionOf_rendered _ name _ member, List.map_map, List.map_map]
  -- A node of another kind adds nothing to the section, one of this kind a single entry.
  refine map_flatMap_eq_map_filter fun n there => (either n there).imp ?_ ?_
  · exact And.imp_left beq_iff_eq.mpr
  · exact And.imp_left beq_eq_false_iff_ne.mpr

/-- Where what the entries hold is known from their nodes, a condition on all entries is one on all
nodes of the kind. -/
theorem forall_section_iff {P : γ → Prop} {entries : List Value} {kind : Kind}
    (rendered : entries.map field = (nodes.filter fun n => n.kind == kind).map expected) :
    (∀ v ∈ entries, P (field v)) ↔ ∀ n ∈ nodes, n.kind = kind → P (expected n) := by
  rw [← List.forall_mem_map, rendered, List.forall_mem_map]
  simp only [List.mem_filter, beq_iff_eq, and_imp]

theorem map_services (same : ∀ n ∈ nodes, ∀ a, n.attributes = .service a →
      field (Sanitize.value (serviceEntry settings (givenOr a.name n.id) a).toValue) = expected n) :
    ((document nodes edges settings).rendered.sectionOf "services").map field =
      (nodes.filter fun n => n.kind == .service).map expected := by
  refine map_section "services" .service ServiceEntry.toValue (serviceEntries settings)
    (by simp [Document.allSections, document, extended]) fun n member => ?_
  rw [serviceEntries, Node.kind]
  cases attributes : n.attributes with
  | service a => exact .inl ⟨rfl, _, rfl, same n member a attributes⟩
  | _ => exact .inr ⟨by simp [Attributes.kind], rfl⟩

theorem map_routes (same : ∀ n ∈ nodes, ∀ a, n.attributes = .route a →
      field (Sanitize.value (routeEntry (Index.build nodes edges) settings n.id
        (givenOr a.name n.id) a).toValue) = expected n) :
    ((document nodes edges settings).rendered.sectionOf "routes").map field =
      (nodes.filter fun n => n.kind == .route).map expected := by
  refine map_section "routes" .route RouteEntry.toValue
    (routeEntries (Index.build nodes edges) settings)
    (by simp [Document.allSections, document, extended]) fun n member => ?_
  rw [routeEntries, Node.kind]
  cases attributes : n.attributes with
  | route a => exact .inl ⟨rfl, _, rfl, same n member a attributes⟩
  | _ => exact .inr ⟨by simp [Attributes.kind], rfl⟩

theorem map_consumers (same : ∀ n ∈ nodes, ∀ a, n.attributes = .consumer a →
      field (Sanitize.value (consumer n.id a).toValue) = expected n) :
    ((document nodes edges settings).rendered.sectionOf "consumers").map field =
      (nodes.filter fun n => n.kind == .consumer).map expected := by
  refine map_section "consumers" .consumer ConsumerEntry.toValue consumerEntries
    (by simp [Document.allSections, document, extended]) fun n member => ?_
  rw [consumerEntries, Node.kind]
  cases attributes : n.attributes with
  | consumer a => exact .inl ⟨rfl, _, rfl, same n member a attributes⟩
  | _ => exact .inr ⟨by simp [Attributes.kind], rfl⟩

end Lowering
end GatewayFlow
