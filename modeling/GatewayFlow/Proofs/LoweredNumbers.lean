import GatewayFlow.Proofs.References

/-!
# Numbers and flags of entries

The entries of a node have its whole numbers and its flags, zero and false included, and a default
stands in only for what is null. There is one exception: a service with port zero is lowered with
the default port, as if it had none.
-/
namespace GatewayFlow

namespace Value

def isNumberOrFlag : Value → Bool
  | .int _ | .bool _ => true
  | _ => false

/-- The whole numbers and the flags of a mapping, under their names. -/
def numbersAndFlags : Value → Entries
  | .mapping entries => entries.filter fun entry => entry.2.isNumberOrFlag
  | _ => []

end Value

namespace Attributes

/-- The whole numbers and the flags that are set. -/
def numbersAndFlags (a : Attributes) : Entries :=
  (Value.mapping a.entries).numbersAndFlags

/-- The port, for the kind that has one. -/
def port? : Attributes → Option Int
  | .service a => a.port
  | _ => none

end Attributes

/-- The entries of all sections of a document as data. -/
def Document.entryValues (d : Document) : List Value :=
  d.allSections.flatMap Prod.snd

namespace Lowering

/-- The entries that a node is lowered to, as data. -/
def entriesOf (index : Index) (settings : Settings) (n : Node) : List Value :=
  match addNode index settings {} n with
  | .ok d => d.entryValues
  | .error _ => []

/-- What stands in for a number or a flag that is null. -/
def standIn? (settings : Settings) : Kind → String → Option Value
  | .service, "port" => some (.int settings.defaultServicePort)
  | .plugin, "enabled" => some (.bool true)
  | _, _ => none

/-- The number or flag that the entries of a node have under a name. Port zero counts as no port. -/
def number? (settings : Settings) (n : Node) (name : String) : Option Value :=
  if name = "port" ∧ n.attributes.port? = some 0 then standIn? settings n.kind name
  else (n.attributes.numbersAndFlags.get? name).or (standIn? settings n.kind name)

end Lowering

/-! ### Numbers and flags among fields -/

namespace Value

@[simp] theorem isNumberOrFlag_int (i : Int) : (Value.int i).isNumberOrFlag = true := rfl

@[simp] theorem isNumberOrFlag_bool (b : Bool) : (Value.bool b).isNumberOrFlag = true := rfl

@[simp] theorem isNumberOrFlag_text (s : String) : (Value.text s).isNumberOrFlag = false := rfl

@[simp] theorem numbersAndFlags_mapping (entries : Entries) :
    (Value.mapping entries).numbersAndFlags = entries.filter fun e => e.2.isNumberOrFlag := rfl

end Value

namespace Attributes

@[simp] theorem numbers_int (name : String) (a : Option Int) :
    ((entry name .int a).filter fun e => e.2.isNumberOrFlag) = entry name .int a := by
  cases a <;> rfl

@[simp] theorem numbers_bool (name : String) (a : Option Bool) :
    ((entry name .bool a).filter fun e => e.2.isNumberOrFlag) = entry name .bool a := by
  cases a <;> rfl

@[simp] theorem numbers_text (name : String) (a : Option String) :
    ((entry name .text a).filter fun e => e.2.isNumberOrFlag) = [] := by
  cases a <;> rfl

@[simp] theorem numbers_texts (name : String) (a : Option (List String)) :
    ((entry name .texts a).filter fun e => e.2.isNumberOrFlag) = [] := by
  cases a <;> rfl

@[simp] theorem numbers_config (name : String) (a : Option Config) :
    ((entry name Config.toValue a).filter fun e => e.2.isNumberOrFlag) = [] := by
  cases a <;> rfl

@[simp] theorem numbers_plainConfig (name : String) (a : Option Config) :
    ((entry name (fun config => (Config.toValue config).plain) a).filter fun e =>
      e.2.isNumberOrFlag) = [] := by
  cases a <;> rfl

theorem entry_some {α : Type} (name : String) (f : α → Value) (a : α) :
    entry name f (some a) = [(.text name, f a)] := rfl

theorem numbersAndFlags_service (a : ServiceAttributes) :
    (service a).numbersAndFlags =
      entry "port" .int a.port ++ entry "retries" .int a.retries ++
        entry "connect_timeout" .int a.connectTimeout ++
        entry "write_timeout" .int a.writeTimeout ++ entry "read_timeout" .int a.readTimeout := by
  simp [numbersAndFlags, entries]

theorem numbersAndFlags_route (a : RouteAttributes) :
    (route a).numbersAndFlags =
      entry "strip_path" .bool a.stripPath ++ entry "preserve_host" .bool a.preserveHost := by
  simp [numbersAndFlags, entries]

theorem numbersAndFlags_plugin (a : PluginAttributes) :
    (plugin a).numbersAndFlags = entry "enabled" .bool a.enabled := by
  simp [numbersAndFlags, entries]

theorem numbersAndFlags_upstream (a : UpstreamAttributes) :
    (upstream a).numbersAndFlags = entry "slots" .int a.slots := by
  simp [numbersAndFlags, entries]

end Attributes

open Attributes (entry)

theorem ServiceEntry.numbersAndFlags (e : ServiceEntry) :
    e.toValue.numbersAndFlags =
      entry "port" .int (some e.port) ++ entry "retries" .int e.retries ++
        entry "connect_timeout" .int e.connectTimeout ++
        entry "write_timeout" .int e.writeTimeout ++ entry "read_timeout" .int e.readTimeout := by
  simp [toValue, Attributes.entry_some, List.filter_cons]

theorem RouteEntry.numbersAndFlags (e : RouteEntry) :
    e.toValue.numbersAndFlags =
      entry "strip_path" .bool e.stripPath ++ entry "preserve_host" .bool e.preserveHost := by
  simp [toValue]

theorem PluginEntry.numbersAndFlags (e : PluginEntry) :
    e.toValue.numbersAndFlags = entry "enabled" .bool (some e.enabled) := by
  simp [toValue, Attributes.entry_some, List.filter_cons]

theorem UpstreamEntry.numbersAndFlags (e : UpstreamEntry) :
    e.toValue.numbersAndFlags = entry "slots" .int e.slots := by
  simp [toValue]

/-! ### The entries of a node -/

theorem Document.mem_entryValues {d : Document} {v : Value} :
    v ∈ d.entryValues ↔ (∃ e ∈ d.services, e.toValue = v) ∨ (∃ e ∈ d.routes, e.toValue = v) ∨
      (∃ e ∈ d.plugins, e.toValue = v) ∨ (∃ e ∈ d.consumers, e.toValue = v) ∨
      ∃ e ∈ d.upstreams, e.toValue = v := by
  simp [entryValues, allSections]

namespace Lowering

variable {index : Index} {settings : Settings} {n : Node} {v : Value}

theorem entriesOf_of_accepted (index : Index) (accepted : nameFailure? settings n = none) :
    entriesOf index settings n = (extended index settings {} [n]).entryValues := by
  rw [entriesOf, addNode_eq, accepted]

theorem mem_entriesOf (accepted : nameFailure? settings n = none) :
    v ∈ entriesOf index settings n ↔ (∃ e ∈ serviceEntries settings n, e.toValue = v) ∨
      (∃ e ∈ routeEntries index settings n, e.toValue = v) ∨
      (∃ e ∈ pluginEntries index settings n, e.toValue = v) ∨
      (∃ e ∈ consumerEntries n, e.toValue = v) ∨ ∃ e ∈ upstreamEntries n, e.toValue = v := by
  rw [entriesOf_of_accepted index accepted, Document.mem_entryValues]
  simp [extended]

/-- The entries of a document are those of its nodes. -/
theorem mem_entryValues_document {nodes : List Node} {edges : List Edge}
    (accepted : ∀ n ∈ nodes, nameFailure? settings n = none) :
    v ∈ (document nodes edges settings).entryValues ↔
      ∃ n ∈ nodes, v ∈ entriesOf (Index.build nodes edges) settings n := by
  have single : (∃ n ∈ nodes, v ∈ entriesOf (Index.build nodes edges) settings n) ↔ _ :=
    exists_congr fun n => and_congr_right fun member => mem_entriesOf (accepted n member)
  rw [single, Document.mem_entryValues]
  -- Each section lists the entries of the nodes one after the other.
  have gathered {α : Type} (f : Node → List α) (toValue : α → Value) :
      (∃ e ∈ nodes.flatMap f, toValue e = v) ↔ ∃ n ∈ nodes, ∃ e ∈ f n, toValue e = v := by
    simp only [List.mem_flatMap]
    grind
  simp only [document, extended, List.nil_append, gathered, ← exists_or, ← and_or_left]

theorem standIn?_service (name : String) (other : name ≠ "port") :
    standIn? settings .service name = none := by
  unfold standIn?
  split <;> simp_all

theorem standIn?_plugin (name : String) (other : name ≠ "enabled") :
    standIn? settings .plugin name = none := by
  unfold standIn?
  split <;> simp_all

/-- The numbers of a service reach its entry, but for port zero. -/
theorem get?_serviceEntry {a : ServiceAttributes} (kind : n.attributes = .service a)
    (name : String) :
    (serviceEntry settings (givenOr a.name n.id) a).toValue.numbersAndFlags.get? name =
      number? settings n name := by
  rw [ServiceEntry.numbersAndFlags, number?, kind, Attributes.numbersAndFlags_service, Node.kind,
    kind, Attributes.kind, Attributes.port?]
  by_cases port : name = "port"
  · subst port
    cases given : a.port with
    | none => simp [serviceEntry, given, nonZero?, standIn?]
    | some p => by_cases zero : p = 0 <;> simp [serviceEntry, given, nonZero?, standIn?, zero]
  · simp [serviceEntry, port, Ne.symm port, standIn?_service name port]

theorem get?_routeEntry {a : RouteAttributes} (kind : n.attributes = .route a) (name : String) :
    (routeEntry index settings n.id (givenOr a.name n.id) a).toValue.numbersAndFlags.get? name =
      number? settings n name := by
  rw [RouteEntry.numbersAndFlags, number?, Node.kind, kind, Attributes.numbersAndFlags_route]
  simp [routeEntry, Attributes.port?, Attributes.kind, standIn?]

/-- A scope has no number and no flag. -/
theorem limited_enabled (entry : PluginEntry) (target : Node) :
    (limited entry target).enabled = entry.enabled := by
  unfold limited
  split <;> rfl

theorem get?_pluginEntry {a : PluginAttributes} (kind : n.attributes = .plugin a) {e : PluginEntry}
    (emitted : e ∈ plugin index settings n.id a) (name : String) :
    e.toValue.numbersAndFlags.get? name = number? settings n name := by
  have enabled : e.enabled = a.enabled.getD true := by
    rcases mem_plugin emitted with rfl | ⟨-, -, target, -, rfl⟩
    · rfl
    · exact limited_enabled _ target
  rw [PluginEntry.numbersAndFlags, number?, Node.kind, kind, Attributes.numbersAndFlags_plugin,
    enabled]
  by_cases flag : name = "enabled"
  · subst flag
    cases a.enabled <;> simp [Attributes.kind, standIn?]
  · simp [Attributes.port?, Attributes.kind, Ne.symm flag, standIn?_plugin name flag]

theorem get?_upstream {a : UpstreamAttributes} (kind : n.attributes = .upstream a) (name : String) :
    (upstream n.id a).toValue.numbersAndFlags.get? name = number? settings n name := by
  rw [UpstreamEntry.numbersAndFlags, number?, Node.kind, kind, Attributes.numbersAndFlags_upstream]
  simp [upstream, Attributes.port?, Attributes.kind, standIn?]

/-- The entries of a node by its kind. -/
theorem mem_entriesOf_kind (accepted : nameFailure? settings n = none) :
    v ∈ entriesOf index settings n ↔
      match n.attributes with
      | .service a => v = (serviceEntry settings (givenOr a.name n.id) a).toValue
      | .route a => v = (routeEntry index settings n.id (givenOr a.name n.id) a).toValue
      | .plugin a => ∃ e ∈ plugin index settings n.id a, v = e.toValue
      | .consumer a => v = (consumer n.id a).toValue
      | .upstream a => v = (upstream n.id a).toValue
      | .target _ | .certificate _ | .sni _ => False := by
  rw [mem_entriesOf accepted]
  cases kind : n.attributes <;>
    simp [kind, serviceEntries, routeEntries, pluginEntries, consumerEntries, upstreamEntries,
      eq_comm]

/-- The numbers and flags of a node reach each of its entries. -/
theorem get?_numbersAndFlags (accepted : nameFailure? settings n = none)
    (member : v ∈ entriesOf index settings n) (name : String) :
    v.numbersAndFlags.get? name = number? settings n name := by
  rw [mem_entriesOf_kind accepted] at member
  cases kind : n.attributes with
  | service a =>
    obtain rfl : v = _ := by simpa only [kind] using member
    exact get?_serviceEntry kind name
  | route a =>
    obtain rfl : v = _ := by simpa only [kind] using member
    exact get?_routeEntry kind name
  | plugin a =>
    obtain ⟨e, emitted, rfl⟩ : ∃ e ∈ plugin index settings n.id a, v = e.toValue := by
      simpa only [kind] using member
    exact get?_pluginEntry kind emitted name
  | consumer a =>
    obtain rfl : v = _ := by simpa only [kind] using member
    simp [ConsumerEntry.toValue, number?, kind, Attributes.port?, Attributes.numbersAndFlags,
      Attributes.entries, Node.kind, Attributes.kind, standIn?]
  | upstream a =>
    obtain rfl : v = _ := by simpa only [kind] using member
    exact get?_upstream kind name
  | _ => simp [kind] at member

theorem exists_entriesOf_eq (accepted : nameFailure? settings n = none)
    (kind : n.kind = .service ∨ n.kind = .route ∨ n.kind = .upstream) :
    ∃ v, entriesOf index settings n = [v] := by
  rw [entriesOf_of_accepted index accepted]
  cases attributes : n.attributes <;>
    simp [Node.kind, Attributes.kind, attributes] at kind <;>
    simp [Document.entryValues, Document.allSections, extended, attributes, serviceEntries,
      routeEntries, pluginEntries, consumerEntries, upstreamEntries]

end Lowering

theorem Node.port_of_port? {n : Node} {p : Int} (port : n.attributes.port? = some p) :
    n.kind = .service ∧ n.attributes.numbersAndFlags.get? "port" = some (.int p) := by
  cases attributes : n.attributes with
  | service a =>
    have given : a.port = some p := by simpa [Attributes.port?, attributes] using port
    exact ⟨congrArg Attributes.kind attributes, by simp [Attributes.numbersAndFlags_service, given]⟩
  | _ => simp [Attributes.port?, attributes] at port

/-- Every number and every flag that is set reaches the entries just where no port is zero, or the
default port is zero as well. -/
theorem Lowering.keeps_numbers_iff (settings : Settings) (n : Node) :
    (∀ name x, n.attributes.numbersAndFlags.get? name = some x →
        number? settings n name = some x) ↔
      (n.attributes.port? = some 0 → settings.defaultServicePort = 0) := by
  constructor
  · intro kept zero
    obtain ⟨kind, own⟩ := Node.port_of_port? zero
    have shown := kept "port" _ own
    rw [number?, if_pos ⟨rfl, zero⟩, kind] at shown
    simpa [standIn?] using shown
  · intro harmless name x own
    rw [number?]
    split
    next port =>
      obtain ⟨rfl, zero⟩ := port
      obtain ⟨kind, zeroShown⟩ := Node.port_of_port? zero
      obtain rfl : x = .int 0 := Option.some.inj (own.symm.trans zeroShown)
      rw [kind, standIn?, harmless zero]
    next => rw [own, Option.some_or]

/-- The entries of a lowered flow are those of its nodes, and every entry has the numbers and flags
of its node, zero and false included; a default stands in only for what is null. Port zero alone
counts as null: it gives way to the default port. -/
theorem numbers_and_flags_lowered (nodes : List Node) (edges : List Edge) (settings : Settings)
    (d : Document) (lowered : (lower nodes edges settings).result = .ok d) :
    let entriesOf := Lowering.entriesOf (Index.build nodes edges) settings
    (∀ v, v ∈ d.entryValues ↔ ∃ n ∈ nodes, v ∈ entriesOf n) ∧
    ∀ n ∈ nodes,
      (n.kind = .service ∨ n.kind = .route ∨ n.kind = .upstream → ∃ v, entriesOf n = [v]) ∧
      ∀ v ∈ entriesOf n,
        (∀ name, v.numbersAndFlags.get? name = Lowering.number? settings n name) ∧
        ((∀ name x, n.attributes.numbersAndFlags.get? name = some x →
            v.numbersAndFlags.get? name = some x) ↔
          (n.attributes.port? = some 0 → settings.defaultServicePort = 0)) := by
  obtain ⟨accepted, rfl⟩ := (lower_eq_ok nodes edges settings d).mp lowered
  refine ⟨fun v => Lowering.mem_entryValues_document accepted, fun n there => ⟨?_, ?_⟩⟩
  · intro kind
    exact Lowering.exists_entriesOf_eq (accepted n there) kind
  · intro v member
    have numbers := Lowering.get?_numbersAndFlags (accepted n there) member
    refine ⟨numbers, ?_⟩
    simp only [numbers]
    exact Lowering.keeps_numbers_iff settings n

/-- A flow whose numbers are zero, but for the port, and whose flags are false. -/
def idleNodes : List Node :=
  [⟨"ledger", .service { host := some "ledger.local", port := some 8080, retries := some 0 },
      by decide⟩,
    ⟨"ledger-route", .route { stripPath := some false }, by decide⟩,
    ⟨"brake", .plugin { enabled := some false }, by decide⟩,
    ⟨"basin", .upstream { slots := some 0 }, by decide⟩]

def idleEdges : List Edge :=
  [⟨"e1", "ledger-route", "ledger", none, none, by decide, by decide, by decide⟩,
    ⟨"e2", "brake", "ledger", none, none, by decide, by decide, by decide⟩,
    ⟨"e3", "brake", "ledger-route", none, none, by decide, by decide, by decide⟩]

theorem numbers_and_flags_lowered_for_idle :
    (lower idleNodes idleEdges {}).result = .ok (Lowering.document idleNodes idleEdges {}) ∧
      ∀ n ∈ idleNodes, ∀ v ∈ Lowering.entriesOf (Index.build idleNodes idleEdges) {} n,
        ∀ name x, n.attributes.numbersAndFlags.get? name = some x →
          v.numbersAndFlags.get? name = some x := by
  have lowered : (lower idleNodes idleEdges {}).result =
      .ok (Lowering.document idleNodes idleEdges {}) := rfl
  have noZeroPort : ∀ n ∈ idleNodes, n.attributes.port? ≠ some 0 := by decide
  refine ⟨lowered, fun n there v member => ?_⟩
  obtain ⟨-, entries⟩ := numbers_and_flags_lowered idleNodes idleEdges {} _ lowered
  exact (((entries n there).2 v member).2).mpr fun zero => absurd zero (noZeroPort n there)

/-- A service with port zero, in a valid flow. -/
def closedService : Node :=
  ⟨"s1", .service { name := some "a", host := some "a.local", port := some 0, retries := some 0 },
    by decide⟩

theorem zero_port_is_lowered_to_default :
    (validate [closedService] [] {}).valid = true ∧
      ∃ d v, (lower [closedService] [] {}).result = .ok d ∧ d.entryValues = [v] ∧
        closedService.attributes.numbersAndFlags =
          [(.text "port", .int 0), (.text "retries", .int 0)] ∧
        v.numbersAndFlags = [(.text "port", .int 80), (.text "retries", .int 0)] := by
  exact ⟨by decide, _, _, rfl, rfl, rfl, rfl⟩

end GatewayFlow
