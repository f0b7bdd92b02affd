import GatewayFlow.Proofs.EmptyAttributes
import GatewayFlow.Proofs.NodeRules
import GatewayFlow.Proofs.References
import GatewayFlow.Proofs.RenderedData

/-!
# Omitted fields

A document has no place that says nothing. A section is there when some node adds an entry to it,
and a field of an entry when there is something to say: null, empty lists, empty configurations and
empty texts are left out, each by the rule that lowers its field. Only the texts that every entry of
its sort has to have may be empty.
-/
namespace GatewayFlow

/-- The texts that entries have to have, and that are written even when they are empty. -/
def requiredTexts : List String :=
  ["name", "protocol", "host"]

/-- A field is not null, and not empty unless it is a required text. -/
def Value.SaysMore (name : String) (v : Value) : Prop :=
  v.isNull = false ∧ (v.isEmptyPart = true → v = .text "" ∧ name ∈ requiredTexts)

/-- All fields of an entry say something. -/
def Value.IsConcise : Value → Prop
  | .mapping es => ∀ e ∈ es, ∃ name, e.1 = .text name ∧ e.2.SaysMore name
  | _ => False

namespace Document

/-- The fields of the entries of each section, in the order in which they are written. -/
def fieldOrder : List (String × List String) :=
  [("services", ["name", "protocol", "host", "port", "path", "retries", "connect_timeout",
      "write_timeout", "read_timeout"]),
    ("routes", ["name", "service", "protocols", "methods", "paths", "hosts", "strip_path",
      "preserve_host"]),
    ("plugins", ["name", "enabled", "config", "service", "route", "consumer"]),
    ("consumers", ["username", "custom_id"]),
    ("upstreams", ["name", "algorithm", "slots", "hash_on", "hash_fallback"])]

/-- The data of a document has its keys in their order, and nothing in it says nothing. -/
structure LeavesOutEmpty (d : Document) : Prop where
  keys : ∃ rest, d.toValue = .mapping ((.text "_format_version", .text d.formatVersion) :: rest) ∧
    rest.map Prod.fst = d.sections.map .text
  ordered : d.sections.Sublist sectionOrder
  filled : ∀ name ∈ d.sections, ∃ vs, d.toValue.field? name = some (.list vs) ∧ vs ≠ []
  entries : ∀ part ∈ fieldOrder, ∀ v ∈ d.toValue.sectionOf part.1,
    v.IsRecord part.2 ∧ v.IsConcise
  counted : d.entryCount = (d.sections.map fun name => (d.toValue.sectionOf name).length).sum

end Document

/-- The section that nodes of a kind add entries to. -/
def Kind.section? : Kind → Option String
  | .service => some "services"
  | .route => some "routes"
  | .plugin => some "plugins"
  | .consumer => some "consumers"
  | .upstream => some "upstreams"
  | .target | .certificate | .sni => none

/-- A node adds an entry to a section: the one of its kind, and a plugin only where no edge leaves
it or some edge leads from it to a node. -/
@[mk_iff emits_iff]
structure Node.Emits (nodes : List Node) (edges : List Edge) (n : Node) (name : String) :
    Prop where
  kind : n.kind.section? = some name
  plugin : n.kind = .plugin → (∀ e ∈ edges, e.source ≠ n.id) ∨
    ∃ e ∈ edges, e.source = n.id ∧ e.target ∈ nodes.map Node.id

/-! ### Fields that say something -/

theorem Entries.put_ne_nil (k : Scalar) (v : Value) (es : Entries) : put k v es ≠ [] := by
  cases es with
  | nil => exact List.cons_ne_nil _ _
  | cons e rest =>
    rw [put]
    split <;> exact List.cons_ne_nil _ _

namespace Value

variable (name : String)

@[simp] theorem saysMore_text (s : String) :
    (Value.text s).SaysMore name ↔ (s = "" → name ∈ requiredTexts) := by
  simp only [SaysMore, isNull, isEmptyPart, String.isEmpty_iff, true_and]
  exact forall_congr' fun empty => by simp [empty]

@[simp] theorem saysMore_int (i : Int) : (Value.int i).SaysMore name := by
  simp [SaysMore, isNull, isEmptyPart]

@[simp] theorem saysMore_bool (b : Bool) : (Value.bool b).SaysMore name := by
  simp [SaysMore, isNull, isEmptyPart]

@[simp] theorem saysMore_texts (items : List String) :
    (Value.texts items).SaysMore name ↔ items ≠ [] := by
  simp [SaysMore, texts, isNull, isEmptyPart]

theorem plainEntries_ne_nil (done es : Entries) (given : done ≠ [] ∨ es ≠ []) :
    plainEntries done es ≠ [] := by
  induction es generalizing done with
  | nil => simpa [plainEntries] using given
  | cons e rest ih =>
    obtain ⟨k, v⟩ := e
    rw [plainEntries]
    exact ih _ (.inl (Entries.put_ne_nil _ _ _))

/-- Options of a configuration may become one entry when it is made plain, but not none. -/
@[simp] theorem saysMore_config (config : Config) :
    (Config.toValue config).plain.SaysMore name ↔ config ≠ [] := by
  have empty : (plainEntries [] (config.map fun field => (Scalar.text field.1, field.2))) = [] ↔
      config = [] := by
    constructor
    · intro nothing
      by_contra given
      exact plainEntries_ne_nil [] _ (.inr (by simpa using given)) nothing
    · rintro rfl
      rfl
  simp [SaysMore, Config.toValue, record, plain, isNull, isEmptyPart, empty]

end Value

theorem Attributes.entry_isConcise {α : Type} (name : String) (f : α → Value) (a : Option α) :
    (∀ e ∈ entry name f a, ∃ s, e.1 = .text s ∧ e.2.SaysMore s) ↔
      ∀ x ∈ a, (f x).SaysMore name := by
  cases a <;> simp [entry]

/-! ### Entries -/

theorem givenOr_ne_empty (text : Option String) {other : String} (nonempty : other ≠ "") :
    givenOr text other ≠ "" := by
  rw [givenOr]
  cases given : given? text with
  | none => exact nonempty
  | some s => exact ((given?_eq_some text s).mp given).2

namespace Lowering

theorem nonEmpty?_eq_some {α : Type} (xs : Option (List α)) (ys : List α) :
    nonEmpty? xs = some ys ↔ xs = some ys ∧ ys ≠ [] := by
  rcases xs with _ | _ | ⟨x, rest⟩
  · simp [nonEmpty?]
  · simp +contextual [nonEmpty?, eq_comm]
  · simp +contextual [nonEmpty?, eq_comm]

variable {index : Index} {settings : Settings}

theorem serviceReference_ne_empty {id s : String}
    (reference : serviceReference index settings id = some s) : s ≠ "" := by
  obtain ⟨e, -, rfl⟩ := Option.map_eq_some_iff.mp reference
  split
  · exact e.target_nonempty
  · cases index.node? e.target with
    | none => exact e.target_nonempty
    | some n => exact givenOr_ne_empty _ n.id_nonempty

theorem serviceEntry_isConcise (name : String) (a : ServiceAttributes) :
    (serviceEntry settings name a).toValue.IsConcise := by
  simp only [ServiceEntry.toValue, Value.IsConcise, List.forall_mem_append,
    List.forall_mem_cons, Attributes.entry_isConcise]
  simp [serviceEntry, requiredTexts, given?_eq_some]

theorem routeEntry_isConcise (id name : String) (a : RouteAttributes) :
    (routeEntry index settings id name a).toValue.IsConcise := by
  have service : ∀ s, serviceReference index settings id = some s → s ≠ "" :=
    fun _ => serviceReference_ne_empty
  simp only [RouteEntry.toValue, Value.IsConcise, List.forall_mem_append, List.cons_append,
    List.forall_mem_cons, Attributes.entry_isConcise]
  simpa [routeEntry, requiredTexts, nonEmpty?_eq_some] using service

/-- A plugin is limited to a node by a name or an id, neither of which is empty. -/
theorem plugin_isConcise {id : String} {a : PluginAttributes} {p : PluginEntry}
    (emitted : p ∈ plugin index settings id a) : p.toValue.IsConcise := by
  simp only [PluginEntry.toValue, Value.IsConcise, List.forall_mem_append, List.cons_append,
    List.forall_mem_cons, Attributes.entry_isConcise]
  rcases mem_plugin emitted with rfl | ⟨-, -, target, -, rfl⟩
  · simp [unscoped, requiredTexts, nonEmpty?_eq_some]
  · have named (text : Option String) : givenOr text target.id ≠ "" :=
      givenOr_ne_empty text target.id_nonempty
    cases attributes : target.attributes <;>
      simp [limited, attributes, unscoped, requiredTexts, nonEmpty?_eq_some, named]

/-- A consumer without user name and id of its own goes by the id of its node. -/
theorem consumer_isConcise {id : String} (nonempty : id ≠ "") (a : ConsumerAttributes) :
    (consumer id a).toValue.IsConcise := by
  simp only [ConsumerEntry.toValue, Value.IsConcise, List.forall_mem_append,
    Attributes.entry_isConcise, consumer]
  split <;> simp [requiredTexts, given?_eq_some, nonempty]

theorem upstream_isConcise (id : String) (a : UpstreamAttributes) :
    (upstream id a).toValue.IsConcise := by
  simp only [UpstreamEntry.toValue, Value.IsConcise, List.forall_mem_append, List.cons_append,
    List.forall_mem_cons, Attributes.entry_isConcise]
  simp [upstream, requiredTexts, given?_eq_some]

end Lowering

/-! ### Sections -/

theorem Document.mem_sections {d : Document} {name : String} :
    name ∈ d.sections ↔ (name = "services" ∧ d.services ≠ []) ∨ (name = "routes" ∧ d.routes ≠ []) ∨
      (name = "plugins" ∧ d.plugins ≠ []) ∨ (name = "consumers" ∧ d.consumers ≠ []) ∨
      (name = "upstreams" ∧ d.upstreams ≠ []) := by
  have named (other : String) {α : Type} (f : α → Value) (entries : List α) :
      (∃ vs, (name = other ∧ vs = entries.map f) ∧ vs ≠ []) ↔ name = other ∧ entries ≠ [] := by
    simp
  simp only [sections, presentSections, allSections, List.mem_map, List.mem_filter, Prod.exists,
    exists_and_right, exists_eq_right, List.mem_cons, Prod.mk.injEq, List.not_mem_nil, or_false,
    Bool.not_eq_true', List.isEmpty_eq_false_iff, or_and_right, exists_or, named]

namespace Lowering

variable {nodes : List Node} {edges : List Edge} {settings : Settings}

/-- A document has the sections that its nodes give it one by one. -/
theorem mem_sections_document {name : String} :
    name ∈ (document nodes edges settings).sections ↔
      ∃ n ∈ nodes, name ∈ (extended (Index.build nodes edges) settings {} [n]).sections := by
  have given {α : Type} (f : Node → List α) : nodes.flatMap f ≠ [] ↔ ∃ n ∈ nodes, f n ≠ [] := by
    simp
  simp only [Document.mem_sections, document, extended, List.nil_append, List.flatMap_singleton,
    given, ← exists_and_left, ← exists_or]
  refine exists_congr fun n => ?_
  by_cases member : n ∈ nodes <;> simp [member]

/-- A plugin adds no entry just when edges leave it and all of them dangle. -/
theorem plugin_ne_nil (id : String) (a : PluginAttributes) :
    plugin (Index.build nodes edges) settings id a ≠ [] ↔ (∀ e ∈ edges, e.source ≠ id) ∨
      ∃ e ∈ edges, e.source = id ∧ e.target ∈ nodes.map Node.id := by
  have leaving : (edges.filter fun e => e.source == id).isEmpty = true ↔
      ∀ e ∈ edges, e.source ≠ id := by
    simp
  have found (id : String) :
      (Index.build nodes edges).node? id ≠ none ↔ id ∈ nodes.map Node.id := by
    simp [Index.build_node?]
  simp only [plugin, Index.build_edgesFrom, leaving]
  by_cases alone : ∀ e ∈ edges, e.source ≠ id
  · rw [if_pos alone]
    exact iff_of_true (List.cons_ne_nil _ _) (.inl alone)
  · rw [if_neg alone, or_iff_right alone, Ne, List.filterMap_eq_nil_iff]
    simp only [List.mem_filter, beq_iff_eq, Option.map_eq_none_iff, ← found]
    push Not
    simp only [and_assoc]

/-- What a node gives a document on its own is an entry in the section of its kind, if anything. -/
theorem mem_sections_node {name : String} (n : Node) :
    name ∈ (extended (Index.build nodes edges) settings {} [n]).sections ↔
      n.Emits nodes edges name := by
  simp only [Document.mem_sections, extended, List.flatMap_singleton, List.nil_append,
    Node.emits_iff, Node.kind]
  cases attributes : n.attributes with
  | plugin a =>
    simp only [serviceEntries, routeEntries, pluginEntries, consumerEntries, upstreamEntries,
      attributes, Attributes.kind, Kind.section?, plugin_ne_nil]
    simp [eq_comm]
  | _ =>
    simp [serviceEntries, routeEntries, pluginEntries, consumerEntries, upstreamEntries,
      attributes, Attributes.kind, Kind.section?, eq_comm]

/-- Every entry of a document has the fields of its section and says something in each of them. -/
theorem entries_of_document :
    ∀ part ∈ Document.fieldOrder, ∀ v ∈ (document nodes edges settings).toValue.sectionOf part.1,
      v.IsRecord part.2 ∧ v.IsConcise := by
  generalize document_eq : document nodes edges settings = d
  -- A section that is looked up has the entries that were lowered for it, so these are enough.
  have listed {α : Type} (entries : List α) {toValue : α → Value} {name : String}
      {names : List String} (member : (name, entries.map toValue) ∈ d.allSections)
      (each : ∀ e ∈ entries, (toValue e).IsRecord names ∧ (toValue e).IsConcise) :
      ∀ v ∈ d.toValue.sectionOf name, v.IsRecord names ∧ v.IsConcise := by
    rw [d.sectionOf_toValue name _ member]
    exact List.forall_mem_map.mpr each
  simp only [Document.fieldOrder, List.forall_mem_cons]
  refine ⟨listed d.services (by simp [Document.allSections]) fun e member => ⟨e.isRecord, ?_⟩,
    listed d.routes (by simp [Document.allSections]) fun e member => ⟨e.isRecord, ?_⟩,
    listed d.plugins (by simp [Document.allSections]) fun e member => ⟨e.isRecord, ?_⟩,
    listed d.consumers (by simp [Document.allSections]) fun e member => ⟨e.isRecord, ?_⟩,
    listed d.upstreams (by simp [Document.allSections]) fun e member => ⟨e.isRecord, ?_⟩, by simp⟩
  all_goals subst document_eq
  · obtain ⟨n, -, a, -, rfl⟩ := mem_services.mp member
    exact serviceEntry_isConcise _ a
  · obtain ⟨n, -, a, -, rfl⟩ := mem_routes.mp member
    exact routeEntry_isConcise _ _ a
  · obtain ⟨n, -, a, -, emitted⟩ := mem_plugins.mp member
    exact plugin_isConcise emitted
  · obtain ⟨n, -, a, -, rfl⟩ := mem_consumers.mp member
    exact consumer_isConcise n.id_nonempty a
  · obtain ⟨n, -, a, -, rfl⟩ := mem_upstreams.mp member
    exact upstream_isConcise _ a

end Lowering

namespace Document

theorem sectionOf_present (d : Document) :
    ∀ part ∈ d.presentSections, d.toValue.sectionOf part.1 = part.2 :=
  fun part member => d.sectionOf_toValue part.1 part.2 (List.mem_of_mem_filter member)

/-- The sections hold all entries, each section as many as it has. -/
theorem entryCount_eq_sum (d : Document) :
    d.entryCount = (d.sections.map fun name => (d.toValue.sectionOf name).length).sum := by
  rw [← d.sum_presentSections, sections, List.map_map]
  congr 1
  refine List.map_congr_left fun part member => ?_
  rw [Function.comp_apply, d.sectionOf_present part member]

theorem filled_of_mem_sections (d : Document) {name : String} (member : name ∈ d.sections) :
    ∃ vs, d.toValue.field? name = some (.list vs) ∧ vs ≠ [] := by
  obtain ⟨part, present, rfl⟩ := List.mem_map.mp member
  have nonempty : d.toValue.sectionOf part.1 ≠ [] := by
    rw [d.sectionOf_present part present]
    exact (d.presentSections_named.1 part present).2
  -- Only a list that is there has items.
  unfold Value.sectionOf at nonempty
  cases found : d.toValue.field? part.1 with
  | none => simp [found] at nonempty
  | some v =>
    cases v with
    | list vs => exact ⟨vs, rfl, by simpa [found, Value.items] using nonempty⟩
    | _ => simp [found, Value.items] at nonempty

theorem leavesOutEmpty_of_entries (d : Document)
    (entries : ∀ part ∈ fieldOrder, ∀ v ∈ d.toValue.sectionOf part.1,
      v.IsRecord part.2 ∧ v.IsConcise) : d.LeavesOutEmpty where
  keys := ⟨_, rfl, by simp [sections, Function.comp_def]⟩
  ordered := d.presentSections_named.2
  filled _ := d.filled_of_mem_sections
  entries := entries
  counted := d.entryCount_eq_sum

end Document

/-- A lowered document leaves out whatever says nothing: it has the format marker and then, in their
order, the sections that some node adds an entry to; the fields of entries are in their order; and
no field is null, nor is any empty but for a required text. -/
theorem lowered_documents_leave_out_empty {nodes : List Node} {edges : List Edge}
    {settings : Settings} {d : Document}
    (lowered : (lower nodes edges settings).result = .ok d) :
    d.LeavesOutEmpty ∧ d.formatVersion = settings.formatVersion ∧
      ∀ name, name ∈ d.sections ↔ ∃ n ∈ nodes, n.Emits nodes edges name := by
  obtain ⟨-, rfl⟩ := (lower_eq_ok nodes edges settings d).mp lowered
  refine ⟨Document.leavesOutEmpty_of_entries _ Lowering.entries_of_document, rfl, fun name => ?_⟩
  simp only [Lowering.mem_sections_document, Lowering.mem_sections_node]

/-- Nodes of all kinds with nothing but empty attributes. The edges of the plugin dangle, so it adds
no entry. -/
def blankNodes : List Node :=
  [⟨"mute", .plugin { name := some "", config := some [] }, by decide⟩,
    ⟨"page", .route { methods := some [], paths := some [" ", ""], stripPath := some false },
      by decide⟩,
    ⟨"bay", .service { host := some "", path := some "", retries := some 0 }, by decide⟩,
    ⟨"caller", .consumer { username := some "", customId := some "" }, by decide⟩,
    ⟨"leaf", .certificate {}, by decide⟩,
    ⟨"cistern", .upstream { algorithm := some "", hashOn := some "ip" }, by decide⟩]

def blankEdges : List Edge :=
  [⟨"m1", "mute", "unplaced", none, none, by decide, by decide, by decide⟩,
    ⟨"m2", "page", "bay", none, none, by decide, by decide, by decide⟩]

theorem lowered_documents_leave_out_empty_of_blank :
    (lower blankNodes blankEdges {}).result = .ok (Lowering.document blankNodes blankEdges {}) ∧
      (Lowering.document blankNodes blankEdges {}).sections =
        ["services", "routes", "consumers", "upstreams"] ∧
      (Lowering.document blankNodes blankEdges {}).LeavesOutEmpty ∧
      ∀ name, name ∈ (Lowering.document blankNodes blankEdges {}).sections ↔
        ∃ n ∈ blankNodes, n.Emits blankNodes blankEdges name := by
  have lowered : (lower blankNodes blankEdges {}).result =
      .ok (Lowering.document blankNodes blankEdges {}) := rfl
  obtain ⟨leavesOut, -, emitted⟩ := lowered_documents_leave_out_empty lowered
  exact ⟨lowered, rfl, leavesOut, emitted⟩

end GatewayFlow
