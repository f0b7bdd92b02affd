import GatewayFlow.Proofs.NodeRules
import GatewayFlow.Proofs.PluginFanOut
import GatewayFlow.Proofs.References

/-!
# Scopes of consumers

A plugin that is limited to a consumer names it by its username, or by its id where it has none. The
entry of a consumer in a valid flow has its username and its custom id, but not its id. So the scope
of a consumer without a username resolves only where its id happens to be the name of some consumer.
-/
namespace GatewayFlow

/-- A consumer entry of the document has a text as its username or as its custom id. -/
def Document.NamesConsumer (d : Document) (s : String) : Prop :=
  ∃ c ∈ d.consumers, c.username = some s ∨ c.customId = some s

instance (d : Document) (s : String) : Decidable (d.NamesConsumer s) :=
  inferInstanceAs (Decidable (∃ c ∈ d.consumers, _))

/-- What it takes to name a consumer in a scope: a username or, since its id stands in for one, some
consumer whose username or custom id this id is. -/
def Node.HasScope (nodes : List Node) (n : Node) : Prop :=
  ¬Absent n.attributes.username? ∨
    ∃ m ∈ nodes, m.attributes.username? = some n.id ∨ m.attributes.customId? = some n.id

/-- An edge from a plugin of the flow leads to a node. -/
def Guarded (nodes : List Node) (edges : List Edge) (n : Node) : Prop :=
  ∃ plugin ∈ nodes, plugin.kind = .plugin ∧ ∃ e ∈ edges, e.source = plugin.id ∧
    (Index.build nodes edges).node? e.target = some n

variable {nodes : List Node} {edges : List Edge} {settings : Settings}

/-! ### Consumers of a valid flow -/

namespace Lowering

theorem namesConsumer_iff (valid : Validation.errors nodes edges settings = []) {s : String}
    (nonempty : s ≠ "") :
    (document nodes edges settings).NamesConsumer s ↔
      ∃ m ∈ nodes, m.attributes.username? = some s ∨ m.attributes.customId? = some s := by
  constructor
  · rintro ⟨c, emitted, named⟩
    obtain ⟨m, member, a, attributes, rfl⟩ := mem_consumers.mp emitted
    rw [consumer_of_valid valid member attributes, given?_eq_some, given?_eq_some] at named
    refine ⟨m, member, ?_⟩
    rw [attributes]
    exact named.imp And.left And.left
  · rintro ⟨m, member, named⟩
    cases attributes : m.attributes with
    | consumer a =>
      rw [attributes] at named
      refine ⟨_, mem_consumers.mpr ⟨m, member, a, attributes, rfl⟩, ?_⟩
      rw [consumer_of_valid valid member attributes, given?_eq_some, given?_eq_some]
      exact named.imp (⟨·, nonempty⟩) (⟨·, nonempty⟩)
    | _ => simp [attributes, Attributes.username?, Attributes.customId?] at named

/-- The scope that stands for a consumer names some consumer entry exactly when there is one for its
username or for its id. -/
theorem namesConsumer_scopeName_iff (valid : Validation.errors nodes edges settings = []) {n : Node}
    (member : n ∈ nodes) (kind : n.kind = .consumer) :
    (document nodes edges settings).NamesConsumer n.scopeName ↔ n.HasScope nodes := by
  cases attributes : n.attributes with
  | consumer a =>
    have scope : n.scopeName = (given? n.attributes.username?).getD n.id := by
      rw [Node.scopeName, attributes]
      rfl
    rw [Node.HasScope, ← given?_eq_none, scope]
    cases given : given? n.attributes.username? with
    | none =>
      -- The entry of the consumer lacks its id, which is a name only if some consumer is given it.
      rw [Option.getD_none, namesConsumer_iff valid n.id_nonempty]
      simp
    | some username =>
      obtain ⟨own, nonempty⟩ := (given?_eq_some _ _).mp given
      rw [Option.getD_some, namesConsumer_iff valid nonempty]
      simp only [reduceCtorEq, not_false_eq_true, true_or, iff_true]
      exact ⟨n, member, .inl own⟩
  | _ => simp [Node.kind, Attributes.kind, attributes] at kind

/-! ### Entries that are limited to consumers -/

theorem limited_mem_plugin {index : Index} {id : String} (a : PluginAttributes) {e : Edge}
    {target : Node} (leaving : e ∈ index.edgesFrom id) (there : index.node? e.target = some target) :
    limited (unscoped settings a) target ∈ plugin index settings id a := by
  -- A plugin that an edge leaves has no entry without scope, only those for its edges.
  have connected : (index.edgesFrom id).isEmpty = false := by
    rw [List.isEmpty_eq_false_iff]
    exact List.ne_nil_of_mem leaving
  simp only [plugin, connected, Bool.false_eq_true, if_false]
  exact List.mem_filterMap.mpr ⟨e, leaving, by rw [there, Option.map_some]⟩

/-- An entry has the scope of a consumer when the node that it is limited to is one. -/
theorem limited_consumer_iff (a : PluginAttributes) (target : Node) (scope : String) :
    (limited (unscoped settings a) target).consumer = some scope ↔
      target.kind = .consumer ∧ target.scopeName = scope := by
  have field : (limited (unscoped settings a) target).consumer = target.scopeField .consumer := by
    rw [limited_unscoped]
    rfl
  rw [field, Node.scopeField]
  by_cases kind : target.kind = .consumer <;> simp [kind]

/-- The scopes of consumers in a document are those of the consumers that plugins lead to. -/
theorem exists_consumer_scope_iff {scope : String} :
    (∃ p ∈ (document nodes edges settings).plugins, p.consumer = some scope) ↔
      ∃ n ∈ nodes, Guarded nodes edges n ∧ n.kind = .consumer ∧ n.scopeName = scope := by
  constructor
  · rintro ⟨p, emitted, limits⟩
    obtain ⟨q, member, a, attributes, entry⟩ := mem_plugins.mp emitted
    -- An entry that is limited to a consumer is one of an edge, which leads to that consumer.
    rcases mem_plugin entry with rfl | ⟨e, leaving, n, there, rfl⟩
    · cases limits
    · rw [Index.build_edgesFrom, List.mem_filter, beq_iff_eq] at leaving
      exact ⟨n, (Index.mem_of_build_node? there).1,
        ⟨q, member, congrArg Attributes.kind attributes, e, leaving.1, leaving.2, there⟩,
        (limited_consumer_iff a n scope).mp limits⟩
  · rintro ⟨n, -, ⟨q, member, plugin, e, drawn, source, there⟩, kind, rfl⟩
    cases attributes : q.attributes with
    | plugin a =>
      have leaving : e ∈ (Index.build nodes edges).edgesFrom q.id := by
        rw [Index.build_edgesFrom, List.mem_filter, beq_iff_eq]
        exact ⟨drawn, source⟩
      exact ⟨_, mem_plugins.mpr ⟨q, member, a, attributes, limited_mem_plugin a leaving there⟩,
        (limited_consumer_iff a n n.scopeName).mpr ⟨kind, rfl⟩⟩
    | _ => simp [Node.kind, Attributes.kind, attributes] at plugin

end Lowering

/-- A valid flow is lowered to a document in which the scopes of consumers stand for the consumers
that plugins lead to. Such a scope names a consumer entry exactly when its consumer has a username
or an id that is the username or the custom id of some consumer, so all of them do exactly when this
holds of every consumer that a plugin leads to. -/
theorem consumer_scopes_resolve (nodes : List Node) (edges : List Edge) (settings : Settings)
    (valid : (validate nodes edges settings).valid = true) :
    ∃ d, (lower nodes edges settings).result = .ok d ∧
      (∀ p ∈ d.plugins, ∀ scope, p.consumer = some scope →
        ∃ n ∈ nodes, Guarded nodes edges n ∧ n.kind = .consumer ∧ n.scopeName = scope ∧
          (d.NamesConsumer scope ↔ n.HasScope nodes)) ∧
      ((∀ p ∈ d.plugins, ∀ scope, p.consumer = some scope → d.NamesConsumer scope) ↔
        ∀ n ∈ nodes, Guarded nodes edges n → n.kind = .consumer → n.HasScope nodes) := by
  have clean := (validate_valid nodes edges settings).mp valid
  refine ⟨_, lower_of_valid clean, fun p emitted scope limits => ?_, fun named n member guarded
    kind => ?_, fun reachable p emitted scope limits => ?_⟩
  · obtain ⟨n, member, guarded, kind, rfl⟩ :=
      Lowering.exists_consumer_scope_iff.mp ⟨p, emitted, limits⟩
    exact ⟨n, member, guarded, kind, rfl, Lowering.namesConsumer_scopeName_iff clean member kind⟩
  · obtain ⟨p, emitted, limits⟩ : ∃ p ∈ (Lowering.document nodes edges settings).plugins,
        p.consumer = some n.scopeName :=
      Lowering.exists_consumer_scope_iff.mpr ⟨n, member, guarded, kind, rfl⟩
    exact (Lowering.namesConsumer_scopeName_iff clean member kind).mp (named p emitted _ limits)
  · obtain ⟨n, member, guarded, kind, rfl⟩ :=
      Lowering.exists_consumer_scope_iff.mp ⟨p, emitted, limits⟩
    exact (Lowering.namesConsumer_scopeName_iff clean member kind).mpr
      (reachable n member guarded kind)

/-- A plugin on four consumers: one with a username, one with both names, one whose id is the
username of the first, and one whose id is the name of none. -/
def quotaNodes : List Node :=
  [⟨"per-user", .plugin {}, by decide⟩,
    ⟨"u1", .consumer { username := some "dora" }, by decide⟩,
    ⟨"u2", .consumer { username := some "bob", customId := some "7" }, by decide⟩,
    ⟨"dora", .consumer { username := some "", customId := some "8" }, by decide⟩,
    ⟨"u4", .consumer { customId := some "9" }, by decide⟩]

def quotaEdges : List Edge :=
  [⟨"e1", "per-user", "u1", none, none, by decide, by decide, by decide⟩,
    ⟨"e2", "per-user", "u2", none, none, by decide, by decide, by decide⟩,
    ⟨"e3", "per-user", "dora", none, none, by decide, by decide, by decide⟩,
    ⟨"e4", "per-user", "u4", none, none, by decide, by decide, by decide⟩]

theorem consumer_scopes_resolve_over_quota :
    (validate quotaNodes quotaEdges {}).valid = true ∧
      ∃ d, (lower quotaNodes quotaEdges {}).result = .ok d ∧
        (d.plugins.map fun p => (p.consumer, decide (d.NamesConsumer (p.consumer.getD "")))) =
          [(some "dora", true), (some "bob", true), (some "dora", true), (some "u4", false)] ∧
        (∀ p ∈ d.plugins, ∀ scope, p.consumer = some scope →
          ∃ n ∈ quotaNodes, Guarded quotaNodes quotaEdges n ∧ n.kind = .consumer ∧
            n.scopeName = scope ∧ (d.NamesConsumer scope ↔ n.HasScope quotaNodes)) ∧
        ((∀ p ∈ d.plugins, ∀ scope, p.consumer = some scope → d.NamesConsumer scope) ↔
          ∀ n ∈ quotaNodes, Guarded quotaNodes quotaEdges n → n.kind = .consumer →
            n.HasScope quotaNodes) := by
  have valid : (validate quotaNodes quotaEdges {}).valid = true := by decide
  obtain ⟨d, lowered, scopes⟩ := consumer_scopes_resolve quotaNodes quotaEdges {} valid
  have same : (lower quotaNodes quotaEdges {}).result =
      .ok (Lowering.document quotaNodes quotaEdges {}) := rfl
  obtain rfl := Except.ok.inj (lowered.symm.trans same)
  exact ⟨valid, _, lowered, by decide, scopes⟩

/-- A plugin on a consumer that has a custom id alone. -/
def keyedNodes : List Node :=
  [⟨"limit", .plugin { name := some "rate-limiting" }, by decide⟩,
    ⟨"c1", .consumer { customId := some "42" }, by decide⟩]

def keyedEdges : List Edge :=
  [⟨"limit-default-c1-default", "limit", "c1", none, none, by decide, by decide, by decide⟩]

/-- The scope of a consumer without a username names no consumer of the document. -/
theorem scope_of_keyed_consumer_dangles :
    (validate keyedNodes keyedEdges {}).valid = true ∧
      ∃ d, (lower keyedNodes keyedEdges {}).result = .ok d ∧
        d.plugins.map PluginEntry.consumer = [some "c1"] ∧ d.consumers = [⟨none, some "42"⟩] ∧
        ¬d.NamesConsumer "c1" := by
  refine ⟨by decide, Lowering.document keyedNodes keyedEdges {}, rfl, by decide, by decide, ?_⟩
  decide

end GatewayFlow
