import GatewayFlow.Proofs.AttributeUpdates
import GatewayFlow.Proofs.RenderedData

/-!
# Documents that are read back

The data of a document is read as a document again: fields that were left out are absent, sections
that were left out are empty, and everything else is read as it was written. Only configurations of
plugins may be read as something else, where they are no plain data; writing makes them plain, so
what is read is written like the document itself.
-/
namespace GatewayFlow

/-! ### Fields that are always written -/

namespace Field

variable {α : Type} {read : Value → Reading α} {write : α → Value} {es : Entries} {name : String}

end Field

/-! ### Plain configurations -/

namespace Config

/-- The named entries of a mapping. -/
def ofEntries (es : Entries) : Config :=
  es.filterMap fun
    | (.text name, v) => some (name, v)
    | _ => none

theorem toValue_ofEntries {es : Entries} (texts : ∀ k ∈ es.map Prod.fst, ∃ s, k = .text s) :
    (ofEntries es).toValue = .mapping es := by
  suffices (ofEntries es).map (fun field => (Scalar.text field.1, field.2)) = es by
    rw [toValue, Value.record, this]
  induction es with
  | nil => rfl
  | cons e rest ih =>
    obtain ⟨k, v⟩ := e
    obtain ⟨s, rfl⟩ := texts k List.mem_cons_self
    have later := ih fun k member => texts k (List.mem_cons_of_mem _ member)
    rw [ofEntries] at later ⊢
    simp [later]

/-- The configuration that is written for a configuration. -/
def plain (config : Config) : Config :=
  match config.toValue.plain with
  | .mapping es => ofEntries es
  | _ => []

theorem toValue_plain (config : Config) : config.plain.toValue = config.toValue.plain := by
  obtain ⟨es, eq⟩ : ∃ es, config.toValue.plain = .mapping es := by
    rw [toValue, Value.record, Value.plain]
    exact ⟨_, rfl⟩
  have isPlain := Value.isPlain_plain config.toValue
  rw [eq, Value.isPlain_mapping] at isPlain
  rw [plain, eq]
  exact toValue_ofEntries isPlain.1.texts

theorem plain_eq_iff (config : Config) : config.plain = config ↔ config.toValue.IsPlain := by
  rw [← Field.restores_config.injective.eq_iff, toValue_plain]
  constructor
  · intro same
    exact same ▸ Value.isPlain_plain config.toValue
  · exact Value.IsPlain.plain_eq

end Config

/-! ### Entries -/

open GatewayFlow.Field

namespace PluginEntry

def plain (e : PluginEntry) : PluginEntry :=
  { e with config := e.config.map Config.plain }

theorem toValue_plain (e : PluginEntry) : e.plain.toValue = e.toValue := by
  cases config : e.config with
  | none => simp [toValue, plain, config, Attributes.entry]
  | some c =>
    have again : c.plain.toValue.plain = c.toValue.plain := by
      rw [c.toValue_plain, (Value.isPlain_plain c.toValue).plain_eq]
    simp [toValue, plain, config, Attributes.entry, again]

theorem plain_eq_iff (e : PluginEntry) :
    e.plain = e ↔ ∀ config ∈ e.config, (Config.toValue config).IsPlain := by
  rcases e with ⟨name, enabled, config, service, route, consumer⟩
  cases config <;> simp [plain, Config.plain_eq_iff]

end PluginEntry

/-! ### Documents -/

namespace Document

/-- Every configuration of a plugin is plain data. -/
def IsPlain (d : Document) : Prop :=
  ∀ p ∈ d.plugins, ∀ config ∈ p.config, (Config.toValue config).IsPlain

def plain (d : Document) : Document :=
  { d with plugins := d.plugins.map PluginEntry.plain }

theorem toValue_plain (d : Document) : d.plain.toValue = d.toValue := by
  have same : (d.plugins.map PluginEntry.plain).map PluginEntry.toValue =
      d.plugins.map PluginEntry.toValue := by
    rw [List.map_map]
    exact List.map_congr_left fun p _ => p.toValue_plain
  simp only [toValue, presentSections, allSections, plain, same]

theorem plain_eq_iff (d : Document) : d.plain = d ↔ d.IsPlain := by
  have plugins : d.plain = d ↔ d.plugins.map PluginEntry.plain = d.plugins.map id := by
    rw [List.map_id, plain]
    constructor
    · exact congrArg Document.plugins
    · intro same
      rw [same]
  rw [plugins, List.map_inj_left]
  exact forall₂_congr fun p _ => p.plain_eq_iff

end Document

/-- Nulls in a configuration are kept, those of a field are not. -/
example :
    let plugin : PluginEntry :=
      { name := "acl", config := some [("allow", .list [.null, .record [("group", .null)]])] }
    Document.read (Document.toValue { plugins := [plugin] }) = .value { plugins := [plugin] } := by
  rfl

end GatewayFlow
