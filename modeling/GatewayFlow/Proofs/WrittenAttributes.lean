import GatewayFlow.Proofs.PlainData
import GatewayFlow.Proofs.Readings

/-!
# Written attributes

Attributes as the entries of a mapping: what the entries of every kind have in common, and that
reading them gives the attributes back.
-/
namespace GatewayFlow

/-! ### Reading what was written -/

namespace Reading

variable {α β : Type}

theorem fmap_value {r : Reading α} {a : α} (f : α → β) (read : r = .value a) :
    f <$> r = .value (f a) :=
  (fmap_eq_value f r (f a)).mpr ⟨a, read, rfl⟩

theorem seq_value {f : Reading (α → β)} {r : Reading α} {g : α → β} {a : α} (first : f = .value g)
    (second : r = .value a) : f <*> r = .value (g a) :=
  (seq_eq_value f r (g a)).mpr ⟨g, a, first, second, rfl⟩

/-- A list is read when each of its items is. -/
theorem atPositions_map {γ : Type} {read : γ → Reading α} {write : β → γ} {back : β → α}
    (reads : ∀ b, read (write b) = .value (back b)) (i : Nat) (bs : List β) :
    atPositions read i (bs.map write) = .value (bs.map back) := by
  induction bs generalizing i with
  | nil => rfl
  | cons b rest ih =>
    rw [List.map_cons, atPositions, reads, ih]
    rfl

end Reading

namespace Field

variable {α : Type}

/-- Reading gives back what was written, and nothing is written as null. -/
structure Restores (read : Value → Reading α) (write : α → Value) : Prop where
  read_write : ∀ a, read (write a) = .value a
  present : ∀ a, write a ≠ .null

theorem restores_text : Restores readText .text where
  read_write s := rfl
  present s := by simp

theorem restores_integer : Restores readInteger .int where
  read_write i := rfl
  present i := by simp

theorem restores_boolean : Restores readBoolean .bool where
  read_write b := rfl
  present b := by simp

theorem restores_texts : Restores readTexts .texts where
  read_write ss := by
    rw [Value.texts, readTexts, Reading.atPositions_map restores_text.read_write, List.map_id']
  present ss := by simp [Value.texts]

theorem readNamed_record (config : Config) :
    readNamed (config.map fun field => (.text field.1, field.2)) = .value config := by
  induction config with
  | nil => rfl
  | cons field rest ih =>
    rw [List.map_cons, readNamed, ih]
    rfl

theorem restores_config : Restores readConfig Config.toValue where
  read_write config := readNamed_record config
  present config := by simp [Config.toValue, Value.record]

theorem nullable_write {read : Value → Reading α} {write : α → Value}
    (restores : Restores read write) (a : α) : nullable read (write a) = .value (some a) := by
  unfold nullable
  split
  next null => exact absurd null (restores.present a)
  next => rw [restores.read_write a, Reading.map]

/-- A field that was written when it was present is read back. -/
theorem optional_of_get? {read : Value → Reading α} {write : α → Value}
    (restores : Restores read write) {es : Entries} {name : String} {a : Option α}
    (found : es.get? name = a.map write) : optional es name read = .value a := by
  cases a with
  | none => simp [optional, found]
  | some a => simp [optional, found, nullable_write restores a]

end Field

namespace Attributes

open GatewayFlow.Field

/-! ### The entries of every kind -/

/-- The open configuration, for the kind that has one. -/
def config? : Attributes → Option Config
  | .plugin a => a.config
  | _ => none

/-- The keys of the entries are names that the kind defines, in their order. -/
theorem entries_keys (a : Attributes) :
    (a.entries.map Prod.fst).Sublist (a.kind.attributeNames.map .text) := by
  cases a <;> simp only [entries, List.append_assoc, kind, Kind.attributeNames]
  all_goals
    repeat' first
      | exact entry_keys ..
      | apply entry_append_keys

theorem readFields_entries (a : Attributes) : readFields a.kind a.entries = .value a := by
  -- Each field is found under its own name among the entries and read by its own coercion.
  rcases a with ⟨⟨⟩⟩ | ⟨⟨⟩⟩ | ⟨⟨⟩⟩ | ⟨⟨⟩⟩ | ⟨⟨⟩⟩ | ⟨⟨⟩⟩ | ⟨⟨⟩⟩ | ⟨⟨⟩⟩
  all_goals
    rw [kind, readFields]
    repeat' with_reducible first
      | refine Reading.fmap_value _ ?_
      | refine Reading.seq_value ?_ ?_
    all_goals with_reducible first
      | exact optional_of_get? restores_text (by simp [entries])
      | exact optional_of_get? restores_integer (by simp [entries])
      | exact optional_of_get? restores_boolean (by simp [entries])
      | exact optional_of_get? restores_texts (by simp [entries])
      | exact optional_of_get? restores_config (by simp [entries])

theorem isKnown_of_mem (a : Attributes) (e : Scalar × Value) (member : e ∈ a.entries) :
    (a.kind.attributeNames.any fun name => e.1 == .text name) = true := by
  obtain ⟨name, named, eq⟩ :=
    List.mem_map.mp (a.entries_keys.subset (List.mem_map_of_mem member))
  exact List.any_eq_true.mpr ⟨name, named, by simp [eq]⟩

theorem onlyFields_entries (a : Attributes) :
    onlyFields a.kind.attributeNames a.entries = .value () := by
  have none : (a.entries.filter fun e =>
      !a.kind.attributeNames.any fun name => e.1 == .text name) = [] := by
    rw [List.filter_eq_nil_iff]
    intro e member
    simp [a.isKnown_of_mem e member]
  rw [onlyFields, none]

/-- Reading the entries of attributes gives the attributes back. -/
theorem read_entries (a : Attributes) : read a.kind (.mapping a.entries) = .value a := by
  rw [read, readFields_entries, onlyFields_entries]
  rfl

end Attributes
end GatewayFlow
