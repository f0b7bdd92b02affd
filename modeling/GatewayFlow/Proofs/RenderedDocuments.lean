import GatewayFlow.Proofs.Mappings
import GatewayFlow.Rendering
import Mathlib.Algebra.GroupWithZero.Nat

/-!
# Rendered documents

The data that is rendered for a document has the document's own shape: sanitizing keeps the names of
sections and fields, so each section holds its entries in order, with every value sanitized.
-/
namespace GatewayFlow

namespace Value

/-- The value under a text key of a mapping. -/
def field? (name : String) : Value → Option Value
  | .mapping entries => Entries.get? name entries
  | _ => none

/-- The items of a list. -/
def items : Value → List Value
  | .list vs => vs
  | _ => []

/-- The entries of a section of a document's data; a section that is absent has none. -/
def sectionOf (data : Value) (name : String) : List Value :=
  ((data.field? name).map items).getD []

/-- A mapping with some of the named fields, in their order. -/
def IsRecord (names : List String) (v : Value) : Prop :=
  ∃ es, v = .mapping es ∧ (es.map Prod.fst).Sublist (names.map .text)

end Value

/-! ### Sanitized records -/

namespace Sanitize

theorem items_eq_map (vs : List Value) : items vs = vs.map value := by
  induction vs with
  | nil => rfl
  | cons v rest ih => rw [items, ih, List.map_cons]

theorem entries_eq_merge (done es : Entries) :
    entries done es = done.merge (es.map fun e => (scalar e.1, value e.2)) := by
  induction es generalizing done with
  | nil => rfl
  | cons e rest ih =>
    obtain ⟨k, v⟩ := e
    rw [entries, ih]
    rfl

/-- Sanitizing a record under names that it keeps sanitizes the values alone. -/
theorem value_mapping (names : List String) (kept : ∀ name ∈ names, text name = name)
    (distinct : names.Nodup) (es : Entries)
    (among : (es.map Prod.fst).Sublist (names.map .text)) :
    value (.mapping es) = .mapping (es.map fun e => (e.1, value e.2)) := by
  have same : (es.map fun e => (scalar e.1, value e.2)) = es.map fun e => (e.1, value e.2) := by
    refine List.map_congr_left fun e member => ?_
    obtain ⟨name, named, eq⟩ := List.mem_map.mp (among.subset (List.mem_map_of_mem member))
    rw [← eq, scalar, kept name named]
  have keys : (es.map fun e => (e.1, value e.2)).map Prod.fst = es.map Prod.fst := by
    simp [List.map_map, Function.comp_def]
  have labelled : Entries.Labelled (es.map fun e => (e.1, value e.2)) :=
    Entries.labelled_of_sublist names (keys ▸ among) distinct
  rw [value, entries_eq_merge, same, labelled.merge_nil]

theorem field?_value {names : List String} (kept : ∀ name ∈ names, text name = name)
    (distinct : names.Nodup) {v : Value} (isRecord : v.IsRecord names) (name : String) :
    (value v).field? name = (v.field? name).map value := by
  obtain ⟨es, rfl, among⟩ := isRecord
  rw [value_mapping names kept distinct es among]
  exact Entries.get?_map name value es

theorem sectionOf_value {names : List String} (kept : ∀ name ∈ names, text name = name)
    (distinct : names.Nodup) {v : Value} (isRecord : v.IsRecord names) (name : String) :
    (value v).sectionOf name = (v.sectionOf name).map value := by
  rw [Value.sectionOf, Value.sectionOf, field?_value kept distinct isRecord]
  cases v.field? name with
  | none => rfl
  | some w => cases w <;> simp [Value.items, value, items_eq_map]

end Sanitize

/-! ### Entries -/

theorem ServiceEntry.isRecord (e : ServiceEntry) :
    e.toValue.IsRecord ["name", "protocol", "host", "port", "path", "retries", "connect_timeout",
      "write_timeout", "read_timeout"] := by
  refine ⟨_, rfl, ?_⟩
  simp only [List.append_assoc, List.cons_append, List.nil_append]
  repeat' first
    | exact Attributes.entry_keys ..
    | apply Attributes.entry_append_keys
    | apply Entries.cons_keys

theorem RouteEntry.isRecord (e : RouteEntry) :
    e.toValue.IsRecord ["name", "service", "protocols", "methods", "paths", "hosts", "strip_path",
      "preserve_host"] := by
  refine ⟨_, rfl, ?_⟩
  simp only [List.append_assoc, List.cons_append]
  repeat' first
    | exact Attributes.entry_keys ..
    | apply Attributes.entry_append_keys
    | apply Entries.cons_keys

theorem PluginEntry.isRecord (e : PluginEntry) :
    e.toValue.IsRecord ["name", "enabled", "config", "service", "route", "consumer"] := by
  refine ⟨_, rfl, ?_⟩
  simp only [List.append_assoc, List.cons_append, List.nil_append]
  repeat' first
    | exact Attributes.entry_keys ..
    | apply Attributes.entry_append_keys
    | apply Entries.cons_keys

theorem ServiceEntry.field?_name (e : ServiceEntry) :
    e.toValue.field? "name" = (some e.name).map .text := by
  simp [toValue, Value.field?]

theorem RouteEntry.field?_name (e : RouteEntry) :
    e.toValue.field? "name" = (some e.name).map .text := by
  simp [toValue, Value.field?]

theorem RouteEntry.field?_service (e : RouteEntry) :
    e.toValue.field? "service" = e.service.map .text := by
  simp [toValue, Value.field?]

theorem PluginEntry.field?_service (e : PluginEntry) :
    e.toValue.field? "service" = e.service.map .text := by
  simp [toValue, Value.field?]

theorem PluginEntry.field?_route (e : PluginEntry) :
    e.toValue.field? "route" = e.route.map .text := by
  simp [toValue, Value.field?]

/-! ### Sections -/

namespace Document

theorem isRecord (d : Document) : d.toValue.IsRecord ("_format_version" :: sectionOrder) := by
  refine ⟨_, rfl, ?_⟩
  rw [List.map_cons, List.map_cons, List.map_map]
  refine List.Sublist.cons_cons _ ?_
  have names : sectionOrder.map Scalar.text =
      d.allSections.map fun part => Scalar.text part.1 := rfl
  rw [names]
  exact List.filter_sublist.map _

/-- The present sections have entries and stand in the order of all sections. -/
theorem presentSections_named (d : Document) :
    (∀ part ∈ d.presentSections, part.1 ∈ sectionOrder ∧ part.2 ≠ []) ∧
      d.sections.Sublist sectionOrder := by
  have names : d.allSections.map Prod.fst = sectionOrder := rfl
  refine ⟨fun part member => ?_, names ▸ List.filter_sublist.map Prod.fst⟩
  obtain ⟨there, nonempty⟩ := List.mem_filter.mp member
  exact ⟨names ▸ List.mem_map_of_mem there, by simpa using nonempty⟩

theorem sum_presentSections (d : Document) :
    (d.presentSections.map fun part => part.2.length).sum = d.entryCount := by
  -- A section that is left out has no entries.
  have kept (parts : List (String × List Value)) :
      ((parts.filter fun part => !part.2.isEmpty).map fun part => part.2.length).sum =
        (parts.map fun part => part.2.length).sum := by
    induction parts with
    | nil => rfl
    | cons part rest ih =>
      cases empty : part.2 <;> simp [empty, ih]
  rw [presentSections, kept]
  simp [allSections, entryCount, Nat.add_assoc]

/-- Leaving out empty sections changes no section that is looked up. -/
private theorem items_of_section (parts : List (String × List Value))
    (distinct : (parts.map Prod.fst).Nodup) (name : String) (entries : List Value)
    (member : (name, entries) ∈ parts) :
    ((Entries.get? name ((parts.filter fun part => !part.2.isEmpty).map fun part =>
      (Scalar.text part.1, Value.list part.2))).map Value.items).getD [] = entries := by
  induction parts with
  | nil => cases member
  | cons part rest ih =>
    obtain ⟨other, own⟩ := part
    obtain ⟨apart, distinct⟩ := List.nodup_cons.mp distinct
    rcases List.mem_cons.mp member with here | later
    · cases here
      cases entries with
      | nil =>
        -- An empty section is left out, and no other section has its name.
        have absent : Entries.get? name ((rest.filter fun part => !part.2.isEmpty).map fun part =>
            (Scalar.text part.1, Value.list part.2)) = none := by
          rw [Entries.get?_eq_none]
          simp only [List.map_map, List.mem_map, List.mem_filter, Function.comp_apply,
            Scalar.text.injEq]
          rintro ⟨part, ⟨there, -⟩, rfl⟩
          exact apart (List.mem_map.mpr ⟨part, there, rfl⟩)
        simp [absent]
      | cons v vs => simp [Value.items]
    · -- The section that is looked for comes later, whether this one is left out or not.
      have ne : other ≠ name := by
        rintro rfl
        exact apart (List.mem_map.mpr ⟨_, later, rfl⟩)
      have below := ih distinct later
      cases own with
      | nil => simpa using below
      | cons v vs => simpa [ne] using below

/-- A section of a document's data holds its entries, whether there are any or not. -/
theorem sectionOf_toValue (d : Document) (name : String) (entries : List Value)
    (member : (name, entries) ∈ d.allSections) : d.toValue.sectionOf name = entries := by
  have apart : Scalar.text "_format_version" ≠ .text name := by
    have named : name ∈ d.allSections.map Prod.fst := List.mem_map.mpr ⟨_, member, rfl⟩
    rintro ⟨⟩
    exact absurd named (show "_format_version" ∉ sectionOrder by decide)
  rw [toValue, Value.sectionOf, Value.field?, Entries.get?_cons, if_neg apart]
  exact items_of_section d.allSections (show sectionOrder.Nodup by decide) name entries member

/-- A section of the rendered data holds the entries of the document, sanitized. -/
theorem sectionOf_rendered (d : Document) (name : String) (entries : List Value)
    (member : (name, entries) ∈ d.allSections) :
    d.rendered.sectionOf name = entries.map Sanitize.value := by
  rw [rendered, Sanitize.sectionOf_value (by decide) (by decide) d.isRecord,
    sectionOf_toValue d name entries member]

/-- A field keeps its texts in the rendered section when sanitizing keeps each of them. -/
theorem field?_rendered {α : Type} (d : Document) (name field : String) (entries : List α)
    (toValue : α → Value) (names : List String) (texts : α → Option String)
    (member : (name, entries.map toValue) ∈ d.allSections)
    (kept : ∀ name ∈ names, Sanitize.text name = name) (distinct : names.Nodup)
    (records : ∀ e, (toValue e).IsRecord names)
    (holds : ∀ e, (toValue e).field? field = (texts e).map .text)
    (harmless : ∀ e ∈ entries, ∀ s, texts e = some s → Sanitize.text s = s) :
    (d.rendered.sectionOf name).map (Value.field? field) =
      entries.map fun e => (texts e).map .text := by
  rw [sectionOf_rendered d name _ member, List.map_map, List.map_map]
  refine List.map_congr_left fun e there => ?_
  rw [Function.comp_apply, Function.comp_apply,
    Sanitize.field?_value kept distinct (records e), holds]
  cases given : texts e with
  | none => rfl
  | some s =>
    have same := harmless e there s given
    simp [Value.text, Sanitize.value, Sanitize.scalar, same]

theorem services_rendered (d : Document) (field : String) (texts : ServiceEntry → Option String)
    (holds : ∀ s : ServiceEntry, s.toValue.field? field = (texts s).map .text)
    (harmless : ∀ s ∈ d.services, ∀ name, texts s = some name → Sanitize.text name = name) :
    (d.rendered.sectionOf "services").map (Value.field? field) =
      d.services.map fun s => (texts s).map .text :=
  d.field?_rendered "services" field d.services ServiceEntry.toValue _ texts (by simp [allSections])
    (by decide) (by decide) ServiceEntry.isRecord holds harmless

theorem routes_rendered (d : Document) (field : String) (texts : RouteEntry → Option String)
    (holds : ∀ r : RouteEntry, r.toValue.field? field = (texts r).map .text)
    (harmless : ∀ r ∈ d.routes, ∀ name, texts r = some name → Sanitize.text name = name) :
    (d.rendered.sectionOf "routes").map (Value.field? field) =
      d.routes.map fun r => (texts r).map .text :=
  d.field?_rendered "routes" field d.routes RouteEntry.toValue _ texts (by simp [allSections])
    (by decide) (by decide) RouteEntry.isRecord holds harmless

theorem plugins_rendered (d : Document) (field : String) (texts : PluginEntry → Option String)
    (holds : ∀ p : PluginEntry, p.toValue.field? field = (texts p).map .text)
    (harmless : ∀ p ∈ d.plugins, ∀ name, texts p = some name → Sanitize.text name = name) :
    (d.rendered.sectionOf "plugins").map (Value.field? field) =
      d.plugins.map fun p => (texts p).map .text :=
  d.field?_rendered "plugins" field d.plugins PluginEntry.toValue _ texts (by simp [allSections])
    (by decide) (by decide) PluginEntry.isRecord holds harmless

end Document
end GatewayFlow
