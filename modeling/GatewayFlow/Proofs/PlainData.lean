import GatewayFlow.Proofs.Mappings

/-!
# Plain data

The values that can be written down as they are: null, booleans, whole numbers, finite doubles,
texts, lists, and mappings under different texts. Making them plain changes nothing, and each agrees
with itself.
-/
namespace GatewayFlow

def Scalar.IsPlain : Scalar → Prop
  | .null | .bool _ | .int _ | .text _ => True
  | .float x => ∃ negative rank, x = .finite negative rank
  | .date _ | .instant _ => False

inductive Value.IsPlain : Value → Prop
  | scalar {s : Scalar} (isPlain : s.IsPlain) : IsPlain (.scalar s)
  | list {vs : List Value} (items : ∀ v ∈ vs, IsPlain v) : IsPlain (.list vs)
  | mapping {es : Entries} (labelled : Entries.Labelled es) (values : ∀ e ∈ es, IsPlain e.2) :
    IsPlain (.mapping es)

namespace Scalar.IsPlain

theorem plain_eq {s : Scalar} (isPlain : s.IsPlain) : s.plain = s := by
  cases s with
  | float x =>
    obtain ⟨negative, rank, rfl⟩ := isPlain
    rfl
  | date d => cases isPlain
  | instant t => cases isPlain
  | _ => rfl

end Scalar.IsPlain

namespace Value

@[simp] theorem isPlain_scalar (s : Scalar) : (Value.scalar s).IsPlain ↔ s.IsPlain := by
  constructor
  · intro h
    cases h with
    | scalar isPlain => exact isPlain
  · exact .scalar

@[simp] theorem isPlain_list (vs : List Value) :
    (Value.list vs).IsPlain ↔ ∀ v ∈ vs, v.IsPlain := by
  constructor
  · intro h
    cases h with
    | list items => exact items
  · exact .list

@[simp] theorem isPlain_mapping (es : Entries) :
    (Value.mapping es).IsPlain ↔ Entries.Labelled es ∧ ∀ e ∈ es, e.2.IsPlain := by
  constructor
  · intro h
    cases h with
    | mapping labelled values => exact ⟨labelled, values⟩
  · rintro ⟨labelled, values⟩
    exact .mapping labelled values

/-! ### Making data plain -/

theorem plainItems_eq_map (vs : List Value) : plainItems vs = vs.map plain := by
  induction vs with
  | nil => rfl
  | cons v rest ih => rw [plainItems, ih, List.map_cons]

theorem plainEntries_eq_merge (done es : Entries) :
    plainEntries done es = done.merge (es.map fun e => (.text e.1.keyText, e.2.plain)) := by
  induction es generalizing done with
  | nil => rfl
  | cons e rest ih =>
    obtain ⟨k, v⟩ := e
    rw [plainEntries, ih]
    rfl

theorem keyText_text (s : String) : (Scalar.text s).keyText = s := by
  simp [Scalar.keyText, Scalar.display]

/-- Plain data stays as it is, to the order of its entries. -/
theorem IsPlain.plain_eq {v : Value} (isPlain : v.IsPlain) : v.plain = v := by
  induction isPlain with
  | scalar isPlain => rw [plain, isPlain.plain_eq]
  | list items ih => rw [plain, plainItems_eq_map, List.map_congr_left ih, List.map_id']
  | @mapping es labelled values ih =>
    -- Keys are texts already and values are plain by induction; writing them again appends them.
    have same : (es.map fun e => (Scalar.text e.1.keyText, e.2.plain)) = es := by
      rw [List.map_congr_left (g := id), List.map_id]
      rintro ⟨k, v⟩ member
      obtain ⟨s, rfl⟩ := labelled.texts k (List.mem_map_of_mem member)
      rw [keyText_text, ih _ member, id]
    rw [plain, plainEntries_eq_merge, same, labelled.merge_nil]

/-! ### Agreeing with itself -/

end Value
end GatewayFlow
