import GatewayFlow.Proofs.AttributeUpdates
import GatewayFlow.Proofs.FreshIds
import GatewayFlow.Proofs.IndexScans

/-!
# Seeded plugins

A new plugin starts with a name and the configuration that the catalog provides for it. What is
given for the new node is written over both, so a name among the given attributes takes the place of
the first one and leaves the configuration as it is.
-/
namespace GatewayFlow

namespace Catalog

/-- What the catalog provides for a name: the configuration of the plugin that it lists under it,
and the empty one for any other name. -/
inductive Provides (name : String) : Config → Prop
  | listed {plugin : CatalogPlugin} (member : plugin ∈ plugins) (named : plugin.name = name) :
    Provides name plugin.config
  | unlisted (absent : ∀ plugin ∈ plugins, plugin.name ≠ name) : Provides name []

theorem plugins_distinct : (plugins.map CatalogPlugin.name).Nodup := by decide

theorem provides_iff (name : String) (config : Config) :
    Provides name config ↔ configOf name = config := by
  constructor
  · intro provided
    rw [configOf]
    cases provided with
    | listed member named =>
      -- No two plugins of the catalogue have one name, so the one that is found is the listed one.
      have found := (Index.find?_key_eq_some plugins_distinct name _).mpr ⟨member, named⟩
      rw [plugin?, found]
      rfl
    | unlisted absent =>
      have missing : plugin? name = none :=
        List.find?_eq_none.mpr fun plugin member => by simpa using absent plugin member
      rw [missing]
      rfl
  · rintro rfl
    rw [configOf]
    cases found : plugin? name with
    | none =>
      have absent := List.find?_eq_none.mp found
      exact .unlisted fun plugin member => by simpa using absent plugin member
    | some plugin =>
      obtain ⟨member, named⟩ := (Index.find?_key_eq_some plugins_distinct name plugin).mp found
      exact .listed member named

/-- The attributes that a new plugin starts with, under a name or under that of the default plugin
where there is none. -/
def seed (pluginName : Option String) : PluginAttributes :=
  let name := givenOr pluginName defaultPlugin
  { name := some name, enabled := some true, config := some (configOf name) }

end Catalog

namespace Editor

variable {σ : Type}

/-- A plugin that is added is what its seed becomes when the given attributes are written over. -/
theorem seed_becomes (source : IdSource σ) (e : Editor σ) {pluginName : Option String}
    {given : Entries} {n : Node}
    (added : (e.add source (.text "plugin") given true (.textOrNull pluginName)).1.result = .ok n) :
    (Attributes.plugin (Catalog.seed pluginName)).Becomes given n.attributes := by
  have result := e.add_result source .plugin given true (.textOrNull pluginName)
  rw [show Kind.plugin.name = "plugin" from rfl, added, eq_comm, bind_eq_ok] at result
  -- An id was found, and the node was built under it.
  obtain ⟨id, -, built⟩ := result
  obtain ⟨-, read⟩ := (Node.build_mapping_eq_value ..).mp ((Reading.orFail_eq_ok ..).mp built)
  rwa [startingAttributes, if_pos rfl, Catalog.defaults_plugin] at read

end Editor

namespace Attributes

theorem Becomes.config_of_unwritten {a b : PluginAttributes} {given : Entries}
    (becomes : (plugin a).Becomes given (plugin b)) (unwritten : given.get? "config" = none) :
    b.config = a.config := by
  have kept := becomes.get?_of_unwritten unwritten
  simp only [entries, Entries.get?_append, Entries.get?_entry, String.reduceEq, if_false, if_true,
    Option.none_or] at kept
  exact Option.map_injective Field.restores_config.injective kept

theorem Becomes.name_of_unwritten {a b : PluginAttributes} {given : Entries}
    (becomes : (plugin a).Becomes given (plugin b)) (unwritten : given.get? "name" = none) :
    b.name = a.name := by
  have kept := becomes.get?_of_unwritten unwritten
  simp only [entries, Entries.get?_append, Entries.get?_entry, String.reduceEq, if_false, if_true,
    Option.or_none] at kept
  exact Option.map_injective Field.restores_text.injective kept

end Attributes

/-- A plugin that is added without a configuration of its own gets the one that the catalog provides
for the name that it starts with. It keeps that name where none is given; where one is, the
configuration is that of its own name just when the catalog has the same for both. -/
theorem seeded_plugin_configs {σ : Type} (source : IdSource σ) (e : Editor σ)
    (pluginName : Option String) (given : Entries) (unset : given.get? "config" = none) (n : Node)
    (added : (e.add source (.text "plugin") given true (.textOrNull pluginName)).1.result = .ok n) :
    let first := givenOr pluginName Catalog.defaultPlugin
    ∃ a config, n.attributes = .plugin a ∧ a.config = some config ∧
      Catalog.Provides first config ∧
      (given.get? "name" = none → a.name = some first) ∧
      ∀ own, a.name = some own →
        (Catalog.Provides own config ↔ Catalog.configOf own = Catalog.configOf first) := by
  intro first
  have becomes := e.seed_becomes source added
  have kind := becomes.kind_eq
  -- The node is of the kind that was asked for, so the other cases do not arise.
  cases attributes : n.attributes with
  | plugin a =>
    rw [attributes] at becomes
    have config : a.config = some (Catalog.configOf first) := becomes.config_of_unwritten unset
    exact ⟨a, _, rfl, config, (Catalog.provides_iff ..).mpr rfl, becomes.name_of_unwritten,
      fun own _ => Catalog.provides_iff own _⟩
  | _ =>
    rw [attributes] at kind
    cases kind

/-- A plugin named for key authentication, switched off, over a flow with other nodes. -/
theorem seeded_plugin_configs_of_keyAuth :
    let e := (Editor.empty IdCounter.initial).load Editor.routedFlow
    let given : Entries := [(.text "enabled", .int 0)]
    given.get? "config" = none ∧
      ∃ n, (e.add .counter (.text "plugin") given true
          (.textOrNull (some "key-auth"))).1.result = .ok n ∧
        ∃ a config, n.attributes = .plugin a ∧ a.config = some config ∧ a.name = some "key-auth" ∧
          Catalog.Provides "key-auth" config := by
  intro e given
  have unset : given.get? "config" = none := rfl
  obtain ⟨n, added⟩ : ∃ n, (e.add .counter (.text "plugin") given true
      (.textOrNull (some "key-auth"))).1.result = .ok n := ⟨_, rfl⟩
  obtain ⟨a, config, attributes, has, provided, named, -⟩ :=
    seeded_plugin_configs .counter e (some "key-auth") given unset n added
  exact ⟨unset, n, added, a, config, attributes, has, named rfl, provided⟩

/-- A plugin that is given a name of its own has the configuration of another plugin. -/
theorem named_plugin_has_other_config :
    ∃ n a, ((Editor.empty IdCounter.initial).add .counter (.text "plugin")
        [(.text "name", .text "cors")] true .null).1.result = .ok n ∧
      n.attributes = .plugin a ∧ a.name = some "cors" ∧
      a.config = some (Catalog.configOf "rate-limiting") ∧
      ∀ config ∈ a.config, ¬Catalog.Provides "cors" config := by
  refine ⟨_, _, rfl, rfl, rfl, rfl, ?_⟩
  rintro config ⟨⟩ provided
  -- The two plugins have options of different names.
  have same := congrArg (List.map Prod.fst) ((Catalog.provides_iff ..).mp provided)
  exact absurd same (by decide)

end GatewayFlow
