import GatewayFlow.Edge
import GatewayFlow.Failure
import GatewayFlow.Flow
import GatewayFlow.Log
import GatewayFlow.Node

/-!
# Successful readings

What is known of the parts when a reading of raw data gives a value. Nodes and edges are opened here
once: a node keeps the id it is built with, and an edge that is built carries the id that its ends
and anchors determine.
-/
namespace GatewayFlow

section Results

variable {ε δ α β : Type}

theorem bind_eq_ok (r : Except ε α) (f : α → Except ε β) (b : β) :
    r >>= f = .ok b ↔ ∃ a, r = .ok a ∧ f a = .ok b := by
  cases r <;> simp

theorem map_eq_ok (r : Except ε α) (f : α → β) (b : β) :
    r.map f = .ok b ↔ ∃ a, r = .ok a ∧ f a = b := by
  cases r <;> simp [Except.map]

@[simp] theorem mapError_ok (a : α) (f : ε → δ) :
    (Except.ok a : Except ε α).mapError f = .ok a := rfl

@[simp] theorem mapError_eq_ok (r : Except ε α) (f : ε → δ) (a : α) :
    r.mapError f = .ok a ↔ r = .ok a := by
  cases r with
  | ok b => simp
  | error e => exact ⟨nofun, nofun⟩

theorem bind_eq_error (r : Except ε α) (f : α → Except ε β) (e : ε) :
    r >>= f = .error e ↔ r = .error e ∨ ∃ a, r = .ok a ∧ f a = .error e := by
  cases r <;> simp

theorem map_eq_error (r : Except ε α) (f : α → β) (e : ε) : r.map f = .error e ↔ r = .error e := by
  cases r <;> simp [Except.map]

theorem mapError_eq_error (r : Except ε α) (f : ε → δ) (d : δ) :
    r.mapError f = .error d ↔ ∃ e, r = .error e ∧ f e = d := by
  cases r with
  | ok a => exact ⟨nofun, nofun⟩
  | error e =>
    constructor
    · rintro ⟨⟩
      exact ⟨e, rfl, rfl⟩
    · rintro ⟨_, ⟨⟩, rfl⟩
      rfl

end Results

namespace Reading

variable {α β : Type}

@[simp] theorem fail_ne_value (cause : Cause) (a : α) :
    (fail cause : Reading α) ≠ .value a := by
  simp [fail]

@[simp] theorem map_eq_value (f : α → β) (r : Reading α) (b : β) :
    r.map f = .value b ↔ ∃ a, r = .value a ∧ f a = b := by
  cases r <;> simp [map]

@[simp] theorem within_eq_value (step : Step) (r : Reading α) (a : α) :
    r.within step = .value a ↔ r = .value a := by
  cases r <;> simp [within]

@[simp] theorem andThen_eq_value (r : Reading α) (f : α → Reading β) (b : β) :
    r.andThen f = .value b ↔ ∃ a, r = .value a ∧ f a = .value b := by
  cases r <;> simp [andThen]

theorem apply_eq_value (f : Reading (α → β)) (r : Reading α) (b : β) :
    f.apply r = .value b ↔ ∃ g a, f = .value g ∧ r = .value a ∧ g a = b := by
  cases f <;> cases r <;> simp [apply]

@[simp] theorem seq_eq_value (f : Reading (α → β)) (r : Reading α) (b : β) :
    f <*> r = .value b ↔ ∃ g a, f = .value g ∧ r = .value a ∧ g a = b :=
  apply_eq_value f r b

@[simp] theorem fmap_eq_value (f : α → β) (r : Reading α) (b : β) :
    f <$> r = .value b ↔ ∃ a, r = .value a ∧ f a = b := by
  change (apply (.value f) r) = .value b ↔ _
  simp [apply_eq_value]

@[simp] theorem toExcept_eq_ok (r : Reading α) (a : α) : r.toExcept = .ok a ↔ r = .value a := by
  cases r <;> simp [toExcept]

@[simp] theorem orFail_eq_ok (r : Reading α) (a : α) : r.orFail = .ok a ↔ r = .value a := by
  simp [orFail]

theorem toExcept_eq_error (r : Reading α) (found : List Issue) :
    r.toExcept = .error found ↔ r = .issues found := by
  cases r <;> simp [toExcept]

/-- A reading that fails makes its issues the failure. -/
theorem orFail_eq_error (r : Reading α) (failure : Failure) :
    r.orFail = .error failure ↔ ∃ found, r = .issues found ∧ .issues found = failure := by
  simp only [orFail, mapError_eq_error, toExcept_eq_error]

end Reading

/-! ### Fields that hold a text -/

namespace Field

theorem readText_eq_value (v : Value) (s : String) : readText v = .value s ↔ v = .text s := by
  unfold readText
  split
  · simp
  next other => simpa using other s

theorem nullable_readText_eq_value (v : Value) (s : Option String) :
    nullable readText v = .value s ↔ v = .textOrNull s := by
  unfold nullable
  split
  · cases s <;> simp [Value.textOrNull]
  next present =>
    have absent : v ≠ .null := present
    cases s <;> simp [Value.textOrNull, readText_eq_value, absent]

theorem readName_eq_value (v : Value) (name : { s : String // s ≠ "" }) :
    readName v = .value name ↔ v = .text name.1 := by
  unfold readName
  split
  next s =>
    split
    next empty => simp [Reading.fail, empty, name.2.symm]
    next => simp [Subtype.ext_iff]
  next other => simpa [Reading.fail] using fun h => other name.1 h

end Field

/-! ### Attributes -/

namespace Attributes

theorem kind_of_readFields {kind : Kind} {entries : Entries} {a : Attributes}
    (given : readFields kind entries = .value a) : a.kind = kind := by
  cases kind <;>
  · obtain ⟨_, -, rfl⟩ := (Reading.fmap_eq_value ..).mp given
    rfl

theorem read_mapping_eq_value (kind : Kind) (entries : Entries) (a : Attributes) :
    read kind (.mapping entries) = .value a ↔
      readFields kind entries = .value a ∧
      Field.onlyFields kind.attributeNames entries = .value () := by
  simp only [read, Reading.seq_eq_value, Reading.fmap_eq_value]
  constructor
  · rintro ⟨_, _, ⟨_, fields, rfl⟩, only, rfl⟩
    exact ⟨fields, only⟩
  · rintro ⟨fields, only⟩
    exact ⟨_, _, ⟨_, fields, rfl⟩, only, rfl⟩

theorem kind_of_read {kind : Kind} {v : Value} {a : Attributes} (given : read kind v = .value a) :
    a.kind = kind := by
  cases v with
  | mapping entries => exact kind_of_readFields ((read_mapping_eq_value ..).mp given).1
  | _ => simp [read] at given

end Attributes

/-! ### Nodes -/

namespace Node

theorem readKnown_eq_value (kind : Kind) (entries : Entries) (n : Node) :
    readKnown kind entries = .value n ↔
      Field.required entries "id" Field.readName = .value ⟨n.id, n.id_nonempty⟩ ∧
      Field.required entries "attributes" (Attributes.read kind) = .value n.attributes := by
  simp only [readKnown, Reading.within_eq_value, Reading.seq_eq_value, Reading.fmap_eq_value]
  constructor
  · rintro ⟨_, attributes, ⟨id, hid, rfl⟩, hattributes, rfl⟩
    exact ⟨hid, hattributes⟩
  · rintro ⟨hid, hattributes⟩
    exact ⟨_, _, ⟨_, hid, rfl⟩, hattributes, rfl⟩

/-- A node is built exactly when its id is a text that is not empty and its attributes are read. -/
theorem build_eq_value (kind : Kind) (id attributes : Value) (n : Node) :
    build kind id attributes = .value n ↔
      id = .text n.id ∧
      Attributes.read kind (if attributes.isVoid then .mapping [] else attributes) =
        .value n.attributes := by
  simp [build, readKnown_eq_value, Field.required, Entries.get?, Field.readName_eq_value]

/-- Attributes that are a mapping are read as they are: a void mapping is the empty one. -/
theorem build_mapping_eq_value (kind : Kind) (id : String) (entries : Entries) (n : Node) :
    build kind (.text id) (.mapping entries) = .value n ↔
      id = n.id ∧ Attributes.read kind (.mapping entries) = .value n.attributes := by
  rw [build_eq_value, Value.text, Value.scalar.injEq, Scalar.text.injEq]
  cases entries <;> rfl

end Node

/-! ### Edges -/

namespace Edge

theorem ofFields_eq_value (f : Fields) (e : Edge) :
    ofFields f = .value e ↔ f.id = e.id ∧ f.source.1 = e.source ∧ f.target.1 = e.target ∧
      f.sourceAnchor = e.sourceAnchor ∧ f.targetAnchor = e.targetAnchor := by
  unfold ofFields
  split
  next same =>
    simp only [Reading.fail_ne_value, false_iff]
    rintro ⟨-, hs, ht, -⟩
    exact e.source_ne_target (hs ▸ ht ▸ same)
  next => rw [Reading.value.injEq, Edge.mk.injEq]

/-- An anchor enters an id as it is; absent and empty ones are the default. -/
theorem givenOr_anchorText (a : Option String) (other : String) :
    givenOr (anchorText (.textOrNull a)) other = givenOr a other := by
  cases a with
  | none => rfl
  | some s =>
    by_cases empty : s.isEmpty = true <;>
      simp [Value.textOrNull, anchorText, Value.isVoid, Scalar.isVoid, Value.display,
        Scalar.display, empty, givenOr, given?]

theorem idOfValues_texts (source target : String) (sourceAnchor targetAnchor : Option String) :
    idOfValues (.text source) (.text target) (.textOrNull sourceAnchor) (.textOrNull targetAnchor) =
      idOf source target sourceAnchor targetAnchor := by
  simp [idOfValues, idOf, givenOr_anchorText, Value.display, Scalar.display]

/-- An edge is built exactly from its own ends and anchors, and its id is the one they determine. -/
theorem build_eq_value (source target sourceAnchor targetAnchor : Value) (e : Edge) :
    build source target sourceAnchor targetAnchor = .value e ↔
      source = .text e.source ∧ target = .text e.target ∧
      sourceAnchor = .textOrNull e.sourceAnchor ∧ targetAnchor = .textOrNull e.targetAnchor ∧
      e.id = e.derivedId := by
  -- The entries that building passes on have no id, so the id is the one that is determined.
  have unnamed : Value.null.isVoid = true := rfl
  simp only [build, read, Value.record, List.map, idEntry, Field.required, Field.optional,
    Entries.get?, Scalar.text.injEq, String.reduceEq, if_false, if_true, Option.getD_none,
    Option.getD_some, unnamed, Reading.andThen_eq_value, Reading.seq_eq_value,
    Reading.fmap_eq_value, Reading.within_eq_value, Field.readText_eq_value,
    Field.nullable_readText_eq_value, Field.readName_eq_value, ofFields_eq_value]
  constructor
  · rintro ⟨_, ⟨_, _, ⟨_, _, ⟨_, _, ⟨_, _, ⟨id, named, rfl⟩, rfl, rfl⟩, rfl, rfl⟩, rfl, rfl⟩,
      rfl, rfl⟩, hid, hs, ht, hsa, hta⟩
    rw [idOfValues_texts] at named
    cases named
    subst hsa hta
    refine ⟨?_, ?_, rfl, rfl, ?_⟩
    · rw [← hs]
    · rw [← ht]
    · rw [derivedId, ← hid, ← hs, ← ht]
  · rintro ⟨rfl, rfl, rfl, rfl, hid⟩
    refine ⟨⟨e.id, ⟨e.source, e.source_nonempty⟩, ⟨e.target, e.target_nonempty⟩,
      e.sourceAnchor, e.targetAnchor⟩, ?_, rfl, rfl, rfl, rfl, rfl⟩
    refine ⟨_, _, ⟨_, _, ⟨_, _, ⟨_, _, ⟨_, ?_, rfl⟩, rfl, rfl⟩, rfl, rfl⟩, rfl, rfl⟩,
      rfl, rfl⟩
    rw [idOfValues_texts, hid, derivedId]

end Edge

/-! ### Flows -/

theorem Flow.ofParts_eq_value (nodes : List Node) (edges : List Edge) (f : Flow) :
    ofParts nodes edges = .value f ↔ f.nodes = nodes ∧ f.edges = edges := by
  unfold ofParts distinctNodes
  split
  next distinct =>
    simp only [Reading.within, Reading.map, Reading.value.injEq]
    constructor
    · rintro rfl
      exact ⟨rfl, rfl⟩
    · rintro ⟨rfl, rfl⟩
      rfl
  next repeated =>
    simp only [Reading.fail, Reading.within, Reading.map, reduceCtorEq, false_iff]
    rintro ⟨rfl, -⟩
    -- A flow has no two nodes of one id, so its own nodes are not refused.
    exact repeated f.distinct

end GatewayFlow
