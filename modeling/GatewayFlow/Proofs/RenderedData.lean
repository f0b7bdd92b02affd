import GatewayFlow.Proofs.PlainData
import GatewayFlow.Proofs.RenderedDocuments
import GatewayFlow.Proofs.SanitizedText

/-!
# The data that is rendered

Whatever a document holds, what is rendered for it is plain data whose texts, keys included, have
been sanitized. Configurations of plugins are made plain before they enter a document, and
sanitizing keeps plain data plain: where it makes two keys equal they become one entry.
-/
namespace GatewayFlow

/-! ### Data whose scalars are of a kind -/

/-- Texts are written unlike all other scalars. -/
theorem Scalar.text_or (s : Scalar) : (∃ t, s = .text t) ∨ ∀ t, s ≠ .text t :=
  (em (∃ t, s = .text t)).imp_right not_exists.mp

/-- Every key satisfies the one property and every other scalar the other. -/
inductive Value.Throughout (key leaf : Scalar → Prop) : Value → Prop
  | scalar {s : Scalar} (here : leaf s) : Throughout key leaf (.scalar s)
  | list {vs : List Value} (items : ∀ v ∈ vs, Throughout key leaf v) :
    Throughout key leaf (.list vs)
  | mapping {es : Entries} (keys : ∀ e ∈ es, key e.1)
    (values : ∀ e ∈ es, Throughout key leaf e.2) : Throughout key leaf (.mapping es)

namespace Value

/-- What holds of scalars, and of lists and mappings when it holds of their parts, holds of all
data. -/
theorem byParts {motive : Value → Prop} (scalar : ∀ s, motive (.scalar s))
    (list : ∀ vs, (∀ v ∈ vs, motive v) → motive (.list vs))
    (mapping : ∀ es : Entries, (∀ e ∈ es, motive e.2) → motive (.mapping es)) (v : Value) :
    motive v :=
  match v with
  | .scalar s => scalar s
  | .list vs => list vs fun w _ => byParts scalar list mapping w
  | .mapping es => mapping es fun e _ => byParts scalar list mapping e.2
termination_by v
decreasing_by
  · decreasing_tactic
  · next member =>
    have entry := List.sizeOf_lt_of_mem member
    obtain ⟨k, w⟩ := e
    simp only [Prod.mk.sizeOf_spec, Value.mapping.sizeOf_spec] at entry ⊢
    omega

variable {key leaf : Scalar → Prop}

@[simp] theorem throughout_scalar (s : Scalar) : (Value.scalar s).Throughout key leaf ↔ leaf s := by
  constructor
  · intro h
    cases h with
    | scalar here => exact here
  · exact .scalar

@[simp] theorem throughout_list (vs : List Value) :
    (Value.list vs).Throughout key leaf ↔ ∀ v ∈ vs, v.Throughout key leaf := by
  constructor
  · intro h
    cases h with
    | list items => exact items
  · exact .list

@[simp] theorem throughout_mapping (es : Entries) : (Value.mapping es).Throughout key leaf ↔
    (∀ e ∈ es, key e.1) ∧ ∀ e ∈ es, e.2.Throughout key leaf := by
  constructor
  · intro h
    cases h with
    | mapping keys values => exact ⟨keys, values⟩
  · rintro ⟨keys, values⟩
    exact .mapping keys values

theorem Throughout.imp {key' leaf' : Scalar → Prop} {v : Value} (holds : v.Throughout key leaf)
    (keys : ∀ k, key k → key' k) (leaves : ∀ s, leaf s → leaf' s) : v.Throughout key' leaf' := by
  induction holds with
  | scalar here => exact .scalar (leaves _ here)
  | list items ih => exact .list ih
  | mapping named values ih => exact .mapping (fun e member => keys _ (named e member)) ih

theorem Throughout.and {key' leaf' : Scalar → Prop} {v : Value} (holds : v.Throughout key leaf)
    (further : v.Throughout key' leaf') :
    v.Throughout (fun k => key k ∧ key' k) (fun s => leaf s ∧ leaf' s) := by
  induction holds with
  | scalar here => exact .scalar ⟨here, (throughout_scalar _).mp further⟩
  | list items ih =>
    rw [throughout_list] at further ⊢
    exact fun v member => ih v member (further v member)
  | mapping named values ih =>
    rw [throughout_mapping] at further ⊢
    exact ⟨fun e member => ⟨named e member, further.1 e member⟩,
      fun e member => ih e member (further.2 e member)⟩

theorem IsPlain.throughout {v : Value} (isPlain : v.IsPlain) (holds : v.Throughout key leaf) :
    v.Throughout (fun k => (∃ t, k = .text t) ∧ key k) (fun s => s.IsPlain ∧ leaf s) := by
  induction isPlain with
  | scalar isPlain =>
    rw [throughout_scalar] at holds ⊢
    exact ⟨isPlain, holds⟩
  | list items ih =>
    rw [throughout_list] at holds ⊢
    exact fun v member => ih v member (holds v member)
  | mapping labelled values ih =>
    rw [throughout_mapping] at holds ⊢
    exact ⟨fun e member => ⟨labelled.texts e.1 (List.mem_map_of_mem member), holds.1 e member⟩,
      fun e member => ih e member (holds.2 e member)⟩

/-! ### Checking scalars -/

section Checking

variable [DecidablePred key] [DecidablePred leaf]

mutual

def decideThroughout (v : Value) : Decidable (v.Throughout key leaf) :=
  match v with
  | .scalar s => decidable_of_iff (leaf s) (throughout_scalar s).symm
  | .list vs =>
    have := decideItems vs
    decidable_of_iff (∀ v ∈ vs, v.Throughout key leaf) (throughout_list vs).symm
  | .mapping es =>
    have := decideEntries es
    decidable_of_iff (∀ e ∈ es, key e.1 ∧ e.2.Throughout key leaf)
      (by simp only [throughout_mapping, forall_and])

def decideItems (vs : List Value) : Decidable (∀ v ∈ vs, v.Throughout key leaf) :=
  match vs with
  | [] => isTrue (by simp)
  | v :: rest =>
    have := decideThroughout v
    have := decideItems rest
    decidable_of_iff _ List.forall_mem_cons.symm

def decideEntries (es : List (Scalar × Value)) :
    Decidable (∀ e ∈ es, key e.1 ∧ e.2.Throughout key leaf) :=
  match es with
  | [] => isTrue (by simp)
  | (k, v) :: rest =>
    have := decideThroughout v
    have := decideEntries rest
    decidable_of_iff
      ((key k ∧ v.Throughout key leaf) ∧ ∀ e ∈ rest, key e.1 ∧ e.2.Throughout key leaf)
      (by simp only [List.forall_mem_cons])

end

instance (v : Value) : Decidable (v.Throughout key leaf) := decideThroughout v

end Checking

/-! ### Writing into plain data -/

theorem IsPlain.put {es : Entries} (isPlain : (Value.mapping es).IsPlain) (s : String) {v : Value}
    (new : v.IsPlain) : (Value.mapping (Entries.put (.text s) v es)).IsPlain := by
  rw [isPlain_mapping] at isPlain ⊢
  refine ⟨isPlain.1.put s v, fun e member => ?_⟩
  rcases Entries.mem_put member with old | ⟨rfl, -⟩
  · exact isPlain.2 e old
  · exact new

theorem Throughout.put {es : Entries} (holds : (Value.mapping es).Throughout key leaf) {k : Scalar}
    {v : Value} (named : key k) (new : v.Throughout key leaf) :
    (Value.mapping (Entries.put k v es)).Throughout key leaf := by
  rw [throughout_mapping] at holds ⊢
  refine ⟨fun e member => ?_, fun e member => ?_⟩
  · rcases Entries.mem_put member with old | ⟨-, rfl | old⟩
    · exact holds.1 e old
    · exact named
    · obtain ⟨e', there, same⟩ := List.mem_map.mp old
      exact same ▸ holds.1 e' there
  · rcases Entries.mem_put member with old | ⟨rfl, -⟩
    · exact holds.2 e old
    · exact new

theorem IsPlain.merge {es more : Entries} (isPlain : (Value.mapping es).IsPlain)
    (texts : ∀ e ∈ more, ∃ s, e.1 = .text s) (values : ∀ e ∈ more, e.2.IsPlain) :
    (Value.mapping (es.merge more)).IsPlain := by
  induction more generalizing es with
  | nil => exact isPlain
  | cons e rest ih =>
    obtain ⟨k, v⟩ := e
    obtain ⟨⟨s, rfl⟩, further⟩ := List.forall_mem_cons.mp texts
    obtain ⟨value, values⟩ := List.forall_mem_cons.mp values
    exact ih (isPlain.put s value) further values

theorem Throughout.merge {es more : Entries} (holds : (Value.mapping es).Throughout key leaf)
    (further : (Value.mapping more).Throughout key leaf) :
    (Value.mapping (es.merge more)).Throughout key leaf := by
  rw [throughout_mapping] at further
  obtain ⟨keys, values⟩ := further
  induction more generalizing es with
  | nil => exact holds
  | cons e rest ih =>
    obtain ⟨k, v⟩ := e
    obtain ⟨named, keys⟩ := List.forall_mem_cons.mp keys
    obtain ⟨value, values⟩ := List.forall_mem_cons.mp values
    exact ih (holds.put named value) keys values

theorem isPlain_nil : (Value.mapping []).IsPlain :=
  .mapping ⟨by simp, List.nodup_nil⟩ (by simp)

/-! ### Data made plain -/

mutual

/-- Made plain, any data is plain. -/
theorem isPlain_plain (v : Value) : v.plain.IsPlain := by
  match v with
  | .scalar s =>
    rw [plain, isPlain_scalar]
    cases s with
    | float x => cases x <;> simp [Scalar.plain, Scalar.IsPlain]
    | _ => trivial
  | .list vs =>
    rw [plain, isPlain_list]
    exact isPlain_plainItems vs
  | .mapping es =>
    rw [plain]
    exact isPlain_plainEntries [] es isPlain_nil

theorem isPlain_plainItems (vs : List Value) : ∀ v ∈ plainItems vs, v.IsPlain := by
  match vs with
  | [] => simp [plainItems]
  | v :: rest =>
    rw [plainItems]
    exact List.forall_mem_cons.mpr ⟨isPlain_plain v, isPlain_plainItems rest⟩

theorem isPlain_plainEntries (done es : Entries) (before : (Value.mapping done).IsPlain) :
    (Value.mapping (plainEntries done es)).IsPlain := by
  match es with
  | [] => exact before
  | (k, v) :: rest =>
    rw [plainEntries]
    exact isPlain_plainEntries _ rest (before.put k.keyText (isPlain_plain v))

end

end Value

/-! ### Sanitized data -/

namespace Sanitize

/-- No text holds a control character. -/
def IsClean : Scalar → Prop
  | .text s => ∀ c ∈ s.toList, isControl c = false
  | _ => True

theorem mem_of_mem_chars {c : Char} {cs : List Char} (member : c ∈ chars cs) :
    c ∈ cs ∧ isControl c = false := by
  have kept := (chars_sublist cs).subset member
  simp only [List.mem_filter, Bool.and_eq_true, Bool.not_eq_true'] at kept
  exact ⟨kept.1, kept.2.1⟩

theorem isClean_scalar (s : Scalar) : IsClean (scalar s) := by
  cases s with
  | text s =>
    intro c member
    rw [text, String.toList_ofList] at member
    exact (mem_of_mem_chars member).2
  | _ => trivial

theorem isPlain_scalar {s : Scalar} (isPlain : s.IsPlain) : (scalar s).IsPlain := by
  cases s with
  | text s => trivial
  | _ => exact isPlain

/-- Sanitized plain data is plain. -/
theorem isPlain_value {v : Value} (isPlain : v.IsPlain) : (value v).IsPlain := by
  induction isPlain with
  | scalar isPlain =>
    rw [value, Value.isPlain_scalar]
    exact isPlain_scalar isPlain
  | list items ih =>
    rw [value, items_eq_map, Value.isPlain_list]
    exact List.forall_mem_map.mpr ih
  | @mapping es labelled values ih =>
    rw [value, entries_eq_merge]
    -- Sanitized texts stay texts, but two may become one: the entries are written one over another.
    refine Value.isPlain_nil.merge (List.forall_mem_map.mpr fun e member => ?_)
      (List.forall_mem_map.mpr ih)
    obtain ⟨s, name⟩ := labelled.texts e.1 (List.mem_map_of_mem member)
    exact ⟨text s, by rw [name, scalar]⟩

/-- What holds of all sanitized scalars holds throughout sanitized data. -/
theorem throughout_value {key leaf : Scalar → Prop} (keys : ∀ k, key (scalar k))
    (leaves : ∀ s, leaf (scalar s)) (v : Value) : (value v).Throughout key leaf := by
  induction v using Value.byParts with
  | scalar s =>
    rw [value, Value.throughout_scalar]
    exact leaves s
  | list vs ih =>
    rw [value, items_eq_map, Value.throughout_list]
    exact List.forall_mem_map.mpr ih
  | mapping es ih =>
    rw [value, entries_eq_merge]
    refine Value.Throughout.merge (.mapping (by simp) (by simp)) ?_
    rw [Value.throughout_mapping]
    exact ⟨List.forall_mem_map.mpr fun e _ => keys e.1, List.forall_mem_map.mpr ih⟩

end Sanitize

/-! ### Documents -/

namespace Value

theorem IsRecord.isPlain {names : List String} {es : Entries}
    (isRecord : (Value.mapping es).IsRecord names) (distinct : names.Nodup)
    (values : ∀ e ∈ es, e.2.IsPlain) : (Value.mapping es).IsPlain := by
  obtain ⟨_, ⟨⟩, among⟩ := isRecord
  exact .mapping (Entries.labelled_of_sublist names among distinct) values

theorem isPlain_texts (items : List String) : (texts items).IsPlain := by
  simp [texts, Scalar.IsPlain]

end Value

theorem ConsumerEntry.isRecord (e : ConsumerEntry) :
    e.toValue.IsRecord ["username", "custom_id"] := by
  refine ⟨_, rfl, ?_⟩
  exact Attributes.entry_append_keys _ _ _ (Attributes.entry_keys ..)

theorem UpstreamEntry.isRecord (e : UpstreamEntry) :
    e.toValue.IsRecord ["name", "algorithm", "slots", "hash_on", "hash_fallback"] := by
  refine ⟨_, rfl, ?_⟩
  simp only [List.append_assoc, List.cons_append]
  repeat' first
    | exact Attributes.entry_keys ..
    | apply Attributes.entry_append_keys
    | apply Entries.cons_keys

/-- The property holds of what fields may be: texts, whole numbers, booleans and lists of texts. -/
structure Value.HoldsOfFields (P : Value → Prop) : Prop where
  text : ∀ s, P (.text s)
  int : ∀ i, P (.int i)
  bool : ∀ b, P (.bool b)
  texts : ∀ items, P (.texts items)

section

variable {P : Value → Prop} {es : Entries}

theorem ServiceEntry.forall_fields (holds : Value.HoldsOfFields P) (e : ServiceEntry)
    (fields : e.toValue = .mapping es) : ∀ f ∈ es, P f.2 := by
  cases fields
  simp only [List.forall_mem_append, List.forall_mem_cons, Attributes.forall_entry]
  simp [holds.text, holds.int]

theorem RouteEntry.forall_fields (holds : Value.HoldsOfFields P) (e : RouteEntry)
    (fields : e.toValue = .mapping es) : ∀ f ∈ es, P f.2 := by
  cases fields
  simp only [List.forall_mem_append, List.forall_mem_cons, List.cons_append,
    Attributes.forall_entry]
  simp [holds.text, holds.bool, holds.texts]

/-- Of all fields only the configuration of a plugin is open data. -/
theorem PluginEntry.forall_fields_iff (holds : Value.HoldsOfFields P) (e : PluginEntry)
    (fields : e.toValue = .mapping es) :
    (∀ f ∈ es, P f.2) ↔ ∀ config ∈ e.config, P (Config.toValue config).plain := by
  cases fields
  simp only [List.forall_mem_append, List.forall_mem_cons, Attributes.forall_entry]
  simp [holds.text, holds.bool]

theorem ConsumerEntry.forall_fields (holds : Value.HoldsOfFields P) (e : ConsumerEntry)
    (fields : e.toValue = .mapping es) : ∀ f ∈ es, P f.2 := by
  cases fields
  simp only [List.forall_mem_append, Attributes.forall_entry]
  simp [holds.text]

theorem UpstreamEntry.forall_fields (holds : Value.HoldsOfFields P) (e : UpstreamEntry)
    (fields : e.toValue = .mapping es) : ∀ f ∈ es, P f.2 := by
  cases fields
  simp only [List.forall_mem_append, List.forall_mem_cons, List.cons_append,
    Attributes.forall_entry]
  simp [holds.text, holds.int]

end

theorem Value.holdsOfFields_isPlain : Value.HoldsOfFields Value.IsPlain where
  text _ := .scalar trivial
  int _ := .scalar trivial
  bool _ := .scalar trivial
  texts := Value.isPlain_texts

theorem ServiceEntry.isPlain (e : ServiceEntry) : e.toValue.IsPlain :=
  e.isRecord.isPlain (by decide) (e.forall_fields Value.holdsOfFields_isPlain rfl)

theorem RouteEntry.isPlain (e : RouteEntry) : e.toValue.IsPlain :=
  e.isRecord.isPlain (by decide) (e.forall_fields Value.holdsOfFields_isPlain rfl)

theorem PluginEntry.isPlain (e : PluginEntry) : e.toValue.IsPlain :=
  e.isRecord.isPlain (by decide)
    ((e.forall_fields_iff Value.holdsOfFields_isPlain rfl).mpr fun _ _ => Value.isPlain_plain _)

theorem ConsumerEntry.isPlain (e : ConsumerEntry) : e.toValue.IsPlain :=
  e.isRecord.isPlain (by decide) (e.forall_fields Value.holdsOfFields_isPlain rfl)

theorem UpstreamEntry.isPlain (e : UpstreamEntry) : e.toValue.IsPlain :=
  e.isRecord.isPlain (by decide) (e.forall_fields Value.holdsOfFields_isPlain rfl)

namespace Document

theorem isPlain_of_mem_allSections (d : Document) :
    ∀ part ∈ d.allSections, ∀ v ∈ part.2, v.IsPlain := by
  simp only [allSections, List.forall_mem_cons, List.forall_mem_map]
  simp [ServiceEntry.isPlain, RouteEntry.isPlain, PluginEntry.isPlain, ConsumerEntry.isPlain,
    UpstreamEntry.isPlain]

theorem isPlain_toValue (d : Document) : d.toValue.IsPlain := by
  refine d.isRecord.isPlain (by decide) (List.forall_mem_cons.mpr ⟨by simp [Scalar.IsPlain], ?_⟩)
  refine List.forall_mem_map.mpr fun part member => ?_
  exact .list (d.isPlain_of_mem_allSections part (List.mem_of_mem_filter member))

theorem isPlain_rendered (d : Document) : d.rendered.IsPlain :=
  Sanitize.isPlain_value d.isPlain_toValue

theorem isClean_rendered (d : Document) :
    d.rendered.Throughout Sanitize.IsClean Sanitize.IsClean :=
  Sanitize.throughout_value Sanitize.isClean_scalar Sanitize.isClean_scalar d.toValue

/-- The rendered data holds the sanitized format marker and then the sections that have entries,
each entry sanitized. -/
theorem rendered_eq (d : Document) : d.rendered =
    .mapping ((.text "_format_version", .text (Sanitize.text d.formatVersion)) ::
      d.presentSections.map fun part => (.text part.1, .list (part.2.map Sanitize.value))) := by
  obtain ⟨es, eq, among⟩ := d.isRecord
  rw [rendered, eq, Sanitize.value_mapping _ (by decide) (by decide) es among]
  cases eq
  simp [Sanitize.value, Sanitize.scalar, Sanitize.items_eq_map]

end Document
end GatewayFlow
