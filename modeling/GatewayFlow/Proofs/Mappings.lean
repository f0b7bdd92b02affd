import GatewayFlow.Attributes
import GatewayFlow.Sanitize
import Mathlib.Data.List.Nodup
import Mathlib.Tactic.MkIffOfInductiveProp

/-!
# Mappings under text keys

Looking up a text key in a mapping, and the mappings whose keys are different texts: writing them
entry by entry keeps every entry and its place.
-/
namespace GatewayFlow

/-- Only a text agrees with a text, and only with itself. -/
theorem Scalar.agrees_text (k : Scalar) (s : String) : k.agrees (.text s) = true ↔ k = .text s := by
  cases k with
  | float x => cases whole : x.toInt? <;> simp [agrees, asInt?, whole]
  | _ => simp [agrees]

/-- A text agrees with itself alone. -/
theorem Scalar.text_agrees (s : String) (k : Scalar) :
    (Scalar.text s).agrees k = true ↔ k = .text s := by
  cases k with
  | float x => cases whole : x.toInt? <;> simp [agrees, asInt?, whole]
  | text t =>
    rw [agrees, beq_iff_eq]
    · exact eq_comm
    all_goals exact nofun
  | _ => simp [agrees]

namespace Entries

/-! ### Looking up -/

@[simp] theorem get?_nil (name : String) : get? name [] = none := rfl

@[simp] theorem get?_cons (name : String) (k : Scalar) (v : Value) (rest : Entries) :
    get? name ((k, v) :: rest) = if k = .text name then some v else get? name rest := rfl

@[simp] theorem get?_append (name : String) (es fs : Entries) :
    get? name (es ++ fs) = (get? name es).or (get? name fs) := by
  induction es with
  | nil => simp
  | cons e rest ih =>
    obtain ⟨k, v⟩ := e
    by_cases here : k = .text name <;> simp [here, ih]

/-- Changing every value changes what is found in the same way. -/
theorem get?_map (name : String) (f : Value → Value) (es : Entries) :
    get? name (es.map fun e => (e.1, f e.2)) = (get? name es).map f := by
  induction es with
  | nil => rfl
  | cons e rest ih =>
    obtain ⟨k, v⟩ := e
    by_cases here : k = .text name <;> simp [here, ih]

theorem get?_eq_none (name : String) (es : Entries) :
    get? name es = none ↔ .text name ∉ es.map Prod.fst := by
  induction es with
  | nil => simp
  | cons e rest ih =>
    obtain ⟨k, v⟩ := e
    by_cases here : k = .text name
    · simp [here]
    · rw [get?_cons, if_neg here, ih, List.map_cons, List.mem_cons, not_or]
      exact ⟨fun absent => ⟨fun eq => here eq.symm, absent⟩, fun absent => absent.2⟩

/-- The attribute of a name is found under that name alone. -/
theorem mem_of_get? {name : String} {es : Entries} {v : Value} (found : get? name es = some v) :
    (.text name, v) ∈ es := by
  induction es with
  | nil => cases found
  | cons e rest ih =>
    obtain ⟨k, w⟩ := e
    rw [get?_cons] at found
    split at found
    next here =>
      cases found
      exact here ▸ List.mem_cons_self
    next => exact List.mem_cons_of_mem _ (ih found)

@[simp] theorem get?_entry {α : Type} (name other : String) (f : α → Value) (a : Option α) :
    get? name (Attributes.entry other f a) = if other = name then a.map f else none := by
  cases a <;> simp [Attributes.entry]

/-! ### Writing different texts -/

theorem put_of_fresh (key : Scalar) (v : Value) (es : Entries)
    (fresh : ∀ e ∈ es, e.1.agrees key = false) : put key v es = es ++ [(key, v)] := by
  induction es with
  | nil => rfl
  | cons e rest ih =>
    obtain ⟨k, w⟩ := e
    have apart : k.agrees key = false := fresh (k, w) List.mem_cons_self
    rw [put, apart, ih fun e member => fresh e (List.mem_cons_of_mem _ member)]
    rfl

/-- The keys are different texts. -/
@[mk_iff labelled_iff]
structure Labelled (es : Entries) : Prop where
  texts : ∀ k ∈ es.map Prod.fst, ∃ s, k = .text s
  distinct : (es.map Prod.fst).Nodup

/-- No key agrees with an earlier one. -/
def KeysApart (es : Entries) : Prop :=
  es.Pairwise fun e f => e.1.agrees f.1 = false

theorem Labelled.keysApart {es : Entries} (labelled : Labelled es) : KeysApart es := by
  refine (List.pairwise_map.mp labelled.distinct).imp_of_mem fun {e f} _ member apart => ?_
  obtain ⟨s, name⟩ := labelled.texts f.1 (List.mem_map_of_mem member)
  rw [← Bool.not_eq_true, name, Scalar.agrees_text, ← name]
  exact apart

/-- Entries are written over others one after another. -/
theorem merge_cons (es : Entries) (e : Scalar × Value) (rest : Entries) :
    es.merge (e :: rest) = (es.put e.1 e.2).merge rest := rfl

/-- Writing entries under keys of their own appends them. -/
theorem merge_eq_append (es more : Entries) (apart : KeysApart (es ++ more)) :
    es.merge more = es ++ more := by
  -- Each entry that is written goes to the end and then counts among those that are there.
  induction more generalizing es with
  | nil => simp [merge]
  | cons e rest ih =>
    have fresh : ∀ e' ∈ es, e'.1.agrees e.1 = false :=
      fun e' member => (List.pairwise_append.mp apart).2.2 e' member e List.mem_cons_self
    rw [merge_cons, put_of_fresh _ _ _ fresh, ih, List.append_assoc, List.singleton_append]
    rwa [List.append_assoc, List.singleton_append]

theorem Labelled.merge_nil {es : Entries} (labelled : Labelled es) : merge [] es = es :=
  merge_eq_append [] es labelled.keysApart

/-- The keys of a record are among its field names, in their order. -/
theorem labelled_of_sublist {es : Entries} (names : List String)
    (among : (es.map Prod.fst).Sublist (names.map .text)) (distinct : names.Nodup) :
    Labelled es where
  texts k member := by
    obtain ⟨s, -, rfl⟩ := List.mem_map.mp (among.subset member)
    exact ⟨s, rfl⟩
  distinct := (List.Nodup.map (fun _ _ => Scalar.text.inj) distinct).sublist among

/-! ### Writing over entries -/

theorem mem_put {e : Scalar × Value} {key : Scalar} {v : Value} {es : Entries}
    (member : e ∈ put key v es) : e ∈ es ∨ e.2 = v ∧ (e.1 = key ∨ e.1 ∈ es.map Prod.fst) := by
  induction es with
  | nil =>
    cases List.mem_singleton.mp member
    exact .inr ⟨rfl, .inl rfl⟩
  | cons first rest ih =>
    obtain ⟨k, w⟩ := first
    rw [put] at member
    split at member
    · -- Where a key agrees it stays as it is, and only its value is the new one.
      rcases List.mem_cons.mp member with rfl | later
      · exact .inr ⟨rfl, .inr List.mem_cons_self⟩
      · exact .inl (List.mem_cons_of_mem _ later)
    · rcases List.mem_cons.mp member with rfl | later
      · exact .inl List.mem_cons_self
      · rcases ih later with there | ⟨same, new | old⟩
        · exact .inl (List.mem_cons_of_mem _ there)
        · exact .inr ⟨same, .inl new⟩
        · exact .inr ⟨same, .inr (List.mem_cons_of_mem _ old)⟩

/-- What is written under a text is there as it was written. -/
theorem mem_put_text {e : Scalar × Value} {s : String} {v : Value} {es : Entries}
    (member : e ∈ put (.text s) v es) : e ∈ es ∨ e = (.text s, v) := by
  induction es with
  | nil => exact .inr (List.mem_singleton.mp member)
  | cons first rest ih =>
    obtain ⟨k, w⟩ := first
    rw [put] at member
    split at member
    next here =>
      rw [(Scalar.agrees_text k s).mp here] at member
      exact (List.mem_cons.mp member).symm.imp_left (List.mem_cons_of_mem _)
    next =>
      rcases List.mem_cons.mp member with rfl | later
      · exact .inl List.mem_cons_self
      · exact (ih later).imp_left (List.mem_cons_of_mem _)

/-- Writing under a text that is a key already keeps the keys; else the text is a further one. -/
theorem keys_put (s : String) (v : Value) (es : Entries) :
    (put (.text s) v es).map Prod.fst =
      if .text s ∈ es.map Prod.fst then es.map Prod.fst else es.map Prod.fst ++ [.text s] := by
  induction es with
  | nil => rfl
  | cons e rest ih =>
    obtain ⟨k, w⟩ := e
    by_cases here : k = .text s
    · have same : k.agrees (.text s) = true := (Scalar.agrees_text k s).mpr here
      rw [put, if_pos same]
      simp [here]
    · have apart : k.agrees (.text s) = false := by
        rw [← Bool.not_eq_true, Scalar.agrees_text]
        exact here
      rw [put, apart, if_neg Bool.false_ne_true, List.map_cons, ih, List.map_cons]
      -- Both sides ask whether the text is among the keys behind this one.
      have iff : Scalar.text s ∈ k :: rest.map Prod.fst ↔ Scalar.text s ∈ rest.map Prod.fst := by
        rw [List.mem_cons, or_iff_right (Ne.symm here)]
      simp only [iff]
      split <;> rfl

theorem mem_of_mem_merge {e : Scalar × Value} {es more : Entries}
    (texts : ∀ k ∈ more.map Prod.fst, ∃ s, k = .text s) (member : e ∈ es.merge more) :
    e ∈ es ∨ e ∈ more := by
  induction more generalizing es with
  | nil => exact .inl member
  | cons first rest ih =>
    obtain ⟨k, v⟩ := first
    obtain ⟨s, rfl⟩ := texts k List.mem_cons_self
    rcases ih (fun k member => texts k (List.mem_cons_of_mem _ member)) member with before | later
    · exact (mem_put_text before).imp_right fun here => List.mem_cons.mpr (.inl here)
    · exact .inr (List.mem_cons_of_mem _ later)

/-- Whatever was a key and whatever is written under is a key. -/
theorem mem_keys_merge (k : Scalar) (es : Entries) {more : Entries}
    (texts : ∀ k ∈ more.map Prod.fst, ∃ s, k = .text s) :
    k ∈ (es.merge more).map Prod.fst ↔ k ∈ es.map Prod.fst ∨ k ∈ more.map Prod.fst := by
  induction more generalizing es with
  | nil => simp [merge]
  | cons first rest ih =>
    obtain ⟨l, v⟩ := first
    obtain ⟨s, rfl⟩ := texts l List.mem_cons_self
    have keys : k ∈ (put (.text s) v es).map Prod.fst ↔ k ∈ es.map Prod.fst ∨ k = .text s := by
      rw [keys_put]
      split
      next there => exact (or_iff_left_of_imp fun same => same ▸ there).symm
      next => rw [List.mem_append, List.mem_singleton]
    rw [merge_cons, ih _ fun k member => texts k (List.mem_cons_of_mem _ member), keys,
      List.map_cons, List.mem_cons, or_assoc]

theorem Labelled.put {es : Entries} (labelled : Labelled es) (s : String) (v : Value) :
    Labelled (Entries.put (.text s) v es) := by
  obtain ⟨texts, distinct⟩ := labelled
  rw [labelled_iff, keys_put]
  split
  · exact ⟨texts, distinct⟩
  · next new =>
    constructor
    · intro k member
      rcases List.mem_append.mp member with old | here
      · exact texts k old
      · exact ⟨s, List.mem_singleton.mp here⟩
    · rw [List.nodup_append]
      refine ⟨distinct, List.nodup_singleton _, ?_⟩
      rintro k old _ here rfl
      exact new (List.mem_singleton.mp here ▸ old)

theorem Labelled.merge {es more : Entries} (labelled : Labelled es)
    (texts : ∀ k ∈ more.map Prod.fst, ∃ s, k = .text s) : Labelled (es.merge more) := by
  induction more generalizing es with
  | nil => exact labelled
  | cons e rest ih =>
    obtain ⟨k, v⟩ := e
    obtain ⟨s, rfl⟩ := texts k List.mem_cons_self
    exact ih (labelled.put s v) fun k member => texts k (List.mem_cons_of_mem _ member)

theorem get?_put (name : String) (key : Scalar) (v : Value) (es : Entries) :
    get? name (put key v es) = if key = .text name then some v else get? name es := by
  induction es with
  | nil => rfl
  | cons e rest ih =>
    obtain ⟨k, w⟩ := e
    rw [put]
    split
    next here =>
      -- The key that is there stays, so it has to be the text that is looked up or another one.
      by_cases found : k = .text name
      · obtain rfl : key = .text name := (Scalar.text_agrees name key).mp (found ▸ here)
        simp [found]
      · have other : key ≠ .text name := by
          rintro rfl
          exact found ((Scalar.agrees_text k name).mp here)
        simp [found, other]
    next apart =>
      by_cases found : k = .text name
      · have other : key ≠ .text name := by
          rintro rfl
          exact apart ((Scalar.agrees_text k name).mpr found)
        simp [found, other]
      · simp [found, ih]

/-- The last entry that is written under a name is found. -/
theorem get?_merge (name : String) (es more : Entries) :
    get? name (es.merge more) = (get? name more.reverse).or (get? name es) := by
  induction more generalizing es with
  | nil => rfl
  | cons e rest ih =>
    obtain ⟨k, v⟩ := e
    rw [merge_cons, ih, get?_put, List.reverse_cons, get?_append, get?_cons, get?_nil, Option.or_assoc]
    split <;> rfl

/-- Where keys are distinct, the first entry of a name is its last one. -/
theorem get?_reverse (name : String) {es : Entries} (distinct : (es.map Prod.fst).Nodup) :
    get? name es.reverse = get? name es := by
  induction es with
  | nil => rfl
  | cons e rest ih =>
    obtain ⟨k, v⟩ := e
    obtain ⟨new, distinct⟩ := List.nodup_cons.mp distinct
    rw [List.reverse_cons, get?_append, ih distinct, get?_cons, get?_cons, get?_nil]
    split
    next here =>
      subst here
      rw [(get?_eq_none name rest).mpr new, Option.none_or]
    next => rw [Option.or_none]

/-- A mapping that is made of entries has the last one of each name. -/
theorem get?_ofList (name : String) (es : Entries) :
    get? name (ofList es) = get? name es.reverse := by
  rw [ofList, get?_merge, get?_nil, Option.or_none]

end Entries

/-! ### Keys among names in their order -/

theorem Entries.cons_keys {es : Entries} {names : List String} (name : String) (v : Value)
    (among : (es.map Prod.fst).Sublist (names.map .text)) :
    (((Scalar.text name, v) :: es).map Prod.fst).Sublist ((name :: names).map .text) :=
  among.cons_cons _

namespace Attributes

theorem forall_entry {α : Type} {P : Value → Prop} (name : String) (f : α → Value) (a : Option α) :
    (∀ e ∈ entry name f a, P e.2) ↔ ∀ x ∈ a, P (f x) := by
  cases a <;> simp [entry]

theorem entry_keys {α : Type} (name : String) (f : α → Value) (a : Option α) :
    ((entry name f a).map Prod.fst).Sublist [.text name] := by
  cases a <;> simp [entry]

theorem entry_append_keys {α : Type} {es : Entries} {names : List String} (name : String)
    (f : α → Value) (a : Option α) (among : (es.map Prod.fst).Sublist (names.map .text)) :
    ((entry name f a ++ es).map Prod.fst).Sublist ((name :: names).map .text) := by
  rw [List.map_append]
  exact (entry_keys name f a).append among

end Attributes
end GatewayFlow
