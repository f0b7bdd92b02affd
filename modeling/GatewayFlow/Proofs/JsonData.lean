import GatewayFlow.Json.Reader
import GatewayFlow.Proofs.Readings
import GatewayFlow.Proofs.RenderedData

/-!
# JSON data

The values that JSON can express: every key is a text, and no scalar is a date or an instant. The
reader gives only such values, whatever text it reads.
-/
namespace GatewayFlow

/-- Everything but dates and instants. -/
def Scalar.IsJson : Scalar → Prop
  | .date _ | .instant _ => False
  | _ => True

def Value.IsJson : Value → Prop :=
  Value.Throughout (fun k => ∃ s, k = .text s) Scalar.IsJson

theorem Value.IsJson.of_get? {es : Entries} (isJson : (Value.mapping es).IsJson) {name : String}
    {v : Value} (found : Entries.get? name es = some v) : v.IsJson :=
  ((throughout_mapping es).mp isJson).2 _ (Entries.mem_of_get? found)

theorem Value.IsJson.of_field? {data : Value} (isJson : data.IsJson) {name : String} {v : Value}
    (found : data.field? name = some v) : v.IsJson := by
  cases data with
  | mapping es => exact isJson.of_get? found
  | _ => cases found

theorem Value.isJson_getD {v? : Option Value} (isJson : ∀ v ∈ v?, v.IsJson) :
    (v?.getD .null).IsJson := by
  cases v? with
  | none => exact .scalar trivial
  | some v => exact isJson v rfl

/-! ### What the reader gives -/

namespace Json

theorem isJson_of_readUnsigned {negative : Bool} {cs rest : List Char} {s : Scalar}
    (read : readUnsigned negative cs = some (s, rest)) : s.IsJson := by
  obtain ⟨⟨whole, after⟩, -, number⟩ := Option.map_eq_some_iff.mp read
  dsimp only at number
  split at number <;> cases number <;> trivial

theorem isJson_of_readWord {cs rest : List Char} {s : Scalar}
    (read : readWord cs = some (s, rest)) : s.IsJson := by
  obtain ⟨⟨word, t⟩, member, found⟩ := List.exists_of_findSome?_eq_some read
  obtain ⟨_, -, same⟩ := Option.map_eq_some_iff.mp found
  cases same
  have words : ∀ entry ∈ wordScalars, entry.2.IsJson := by simp [wordScalars, Scalar.IsJson]
  exact words _ member

theorem isJson_of_readAtom {cs rest : List Char} {s : Scalar}
    (read : readAtom cs = some (s, rest)) : s.IsJson := by
  unfold readAtom at read
  split at read
  next out word =>
    cases read
    exact isJson_of_readWord word
  next =>
    split at read
    · exact isJson_of_readUnsigned read
    · exact isJson_of_readUnsigned read

/-- What the three mutual readers keep. Of a mapping, the entries already read are kept too. -/
structure ReadsJson (fuel : Nat) : Prop where
  values {cs rest : List Char} {v : Value} : readValue fuel cs = .ok (v, rest) → v.IsJson
  items {cs rest : List Char} {vs : List Value} :
    readItems fuel cs = .ok (vs, rest) → ∀ v ∈ vs, v.IsJson
  entries {done es : Entries} {cs rest : List Char} :
    readEntries fuel done cs = .ok (es, rest) → (Value.mapping done).IsJson →
      (Value.mapping es).IsJson

section Step

variable {fuel : Nat} {cs rest : List Char}

theorem ReadsJson.readValue_succ (inner : ReadsJson fuel) {v : Value}
    (read : readValue (fuel + 1) cs = .ok (v, rest)) : v.IsJson := by
  rw [readValue.eq_def] at read
  dsimp only at read
  -- a quoted text, a mapping, a list or an atom, by the first character
  split at read
  · obtain ⟨out, -, same⟩ := (map_eq_ok ..).mp read
    cases same
    exact .scalar trivial
  · split at read
    · cases read
      exact .mapping nofun nofun
    · obtain ⟨out, entries, same⟩ := (map_eq_ok ..).mp read
      cases same
      exact inner.entries entries (.mapping nofun nofun)
  · split at read
    · cases read
      exact .list nofun
    · obtain ⟨out, items, same⟩ := (map_eq_ok ..).mp read
      cases same
      exact .list (inner.items items)
  · split at read
    next s after atom =>
      cases read
      exact .scalar (isJson_of_readAtom atom)
    next => cases read

theorem ReadsJson.readItems_succ (inner : ReadsJson fuel) {vs : List Value}
    (read : readItems (fuel + 1) cs = .ok (vs, rest)) : ∀ v ∈ vs, v.IsJson := by
  rw [readItems] at read
  obtain ⟨⟨v, after⟩, first, read⟩ := (bind_eq_ok ..).mp read
  dsimp only at read
  split at read
  · cases read
    exact List.forall_mem_singleton.mpr (inner.values first)
  · obtain ⟨⟨others, last⟩, more, same⟩ := (bind_eq_ok ..).mp read
    cases same
    exact List.forall_mem_cons.mpr ⟨inner.values first, inner.items more⟩
  · cases read

theorem ReadsJson.readEntries_succ (inner : ReadsJson fuel) {done es : Entries}
    (read : readEntries (fuel + 1) done cs = .ok (es, rest))
    (before : (Value.mapping done).IsJson) : (Value.mapping es).IsJson := by
  rw [readEntries.eq_def] at read
  dsimp only at read
  split at read
  · obtain ⟨⟨key, afterKey⟩, -, read⟩ := (bind_eq_ok ..).mp read
    dsimp only at read
    split at read
    · obtain ⟨⟨v, afterValue⟩, value, read⟩ := (bind_eq_ok ..).mp read
      -- the new entry replaces one of its key, so it is put among those already read
      have extended : (Value.mapping (Entries.put (.text (String.ofList key)) v done)).IsJson :=
        before.put ⟨_, rfl⟩ (inner.values value)
      dsimp only at read
      split at read
      · cases read
        exact extended
      · exact inner.entries read extended
      · cases read
    · cases read
  · cases read

end Step

theorem readsJson (fuel : Nat) : ReadsJson fuel := by
  induction fuel with
  | zero =>
    exact { values := nofun, items := nofun, entries := nofun }
  | succ fuel ih =>
    exact {
      values := ih.readValue_succ
      items := ih.readItems_succ
      entries := ih.readEntries_succ }

/-- Whatever is read as JSON can be expressed in it. -/
theorem isJson_of_read {text : String} {v : Value} (given : read text = .ok v) : v.IsJson := by
  rw [read, mapError_eq_ok, readChars] at given
  split at given
  · cases given
  · obtain ⟨⟨w, rest⟩, first, given⟩ := (bind_eq_ok ..).mp given
    dsimp only at given
    split at given
    · cases given
      exact (readsJson _).values first
    · cases given

end Json

end GatewayFlow
