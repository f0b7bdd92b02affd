import GatewayFlow.Generation
import GatewayFlow.Proofs.RenderedData
import Mathlib.Data.List.Pairwise

/-!
# Keys that become equal

Sanitizing makes different texts equal, and entries under such keys become one entry: the later one
in the place of the earlier one. A mapping keeps all of its entries just when no two of its keys
become one text. The names of fields never do; the options of a plugin's configuration may.
-/
namespace GatewayFlow

namespace Entries

/-! ### How many entries are written -/

theorem length_put_of_agrees {k : Scalar} {es : Entries} (v : Value)
    (there : ∃ e ∈ es, e.1.agrees k = true) : (put k v es).length = es.length := by
  induction es with
  | nil => simp at there
  | cons e rest ih =>
    obtain ⟨l, w⟩ := e
    rw [put]
    split
    next => rfl
    next apart =>
      obtain ⟨e, member, agrees⟩ := there
      -- The first entry does not agree with the key, so one behind it does.
      rcases List.mem_cons.mp member with rfl | later
      · exact absurd agrees apart
      · rw [List.length_cons, List.length_cons, ih ⟨e, later, agrees⟩]

theorem length_put_le (k : Scalar) (v : Value) (es : Entries) :
    (put k v es).length ≤ es.length + 1 := by
  by_cases there : ∃ e ∈ es, e.1.agrees k = true
  · rw [length_put_of_agrees v there]
    exact Nat.le_succ _
  · rw [put_of_fresh k v es (by simpa using there), List.length_append, List.length_singleton]

theorem length_merge_le (es more : Entries) :
    (es.merge more).length ≤ es.length + more.length := by
  induction more generalizing es with
  | nil => exact Nat.le_refl _
  | cons e rest ih =>
    rw [merge_cons]
    calc (merge (put e.1 e.2 es) rest).length
      _ ≤ (put e.1 e.2 es).length + rest.length := ih _
      _ ≤ es.length + 1 + rest.length := Nat.add_le_add_right (length_put_le ..) _
      _ = es.length + (e :: rest).length := by rw [List.length_cons]; omega

/-- As many entries are added as are written just when all of them are under keys of their own. -/
theorem length_merge_eq_iff {es : Entries} (apart : KeysApart es) (more : Entries) :
    (es.merge more).length = es.length + more.length ↔ KeysApart (es ++ more) := by
  constructor
  · intro all
    induction more generalizing es with
    | nil => rwa [List.append_nil]
    | cons e rest ih =>
      have bound := length_merge_le (put e.1 e.2 es) rest
      rw [merge_cons, List.length_cons] at all
      -- An entry over one that is there would leave the rest too few places.
      have fresh : ∀ e' ∈ es, e'.1.agrees e.1 = false := by
        by_contra there
        rw [length_put_of_agrees e.2 (by simpa using there)] at bound
        omega
      rw [put_of_fresh _ _ _ fresh] at all
      have grown : KeysApart (es ++ [e]) :=
        List.pairwise_append.mpr ⟨apart, List.pairwise_singleton .., by simpa using fresh⟩
      have further := ih grown (by rw [all, List.length_append, List.length_singleton]; omega)
      rwa [List.append_assoc, List.singleton_append] at further
  · intro apart
    rw [merge_eq_append es more apart, List.length_append]

end Entries

/-! ### Mappings at every depth -/

namespace Value

/-- What holds of every mapping, at every depth. -/
inductive EveryMapping (p : Entries → Prop) : Value → Prop
  | scalar {s : Scalar} : EveryMapping p (.scalar s)
  | list {vs : List Value} (items : ∀ v ∈ vs, EveryMapping p v) : EveryMapping p (.list vs)
  | mapping {es : Entries} (here : p es) (values : ∀ e ∈ es, EveryMapping p e.2) :
    EveryMapping p (.mapping es)

variable {p : Entries → Prop}

@[simp] theorem everyMapping_scalar (s : Scalar) : (Value.scalar s).EveryMapping p := .scalar

@[simp] theorem everyMapping_list (vs : List Value) :
    (Value.list vs).EveryMapping p ↔ ∀ v ∈ vs, v.EveryMapping p := by
  constructor
  · intro h
    cases h with
    | list items => exact items
  · exact .list

@[simp] theorem everyMapping_mapping (es : Entries) :
    (Value.mapping es).EveryMapping p ↔ p es ∧ ∀ e ∈ es, e.2.EveryMapping p := by
  constructor
  · intro h
    cases h with
    | mapping here values => exact ⟨here, values⟩
  · rintro ⟨here, values⟩
    exact .mapping here values

theorem IsPlain.keysApart {v : Value} (isPlain : v.IsPlain) : v.EveryMapping Entries.KeysApart := by
  induction isPlain with
  | scalar => exact .scalar
  | list items ih => exact .list ih
  | mapping labelled values ih => exact .mapping labelled.keysApart ih

end Value

namespace Sanitize

/-- No two texts among the keys become one. -/
def StaysApart (es : Entries) : Prop :=
  ∀ s t, .text s ∈ es.map Prod.fst → .text t ∈ es.map Prod.fst → text s = text t → s = t

/-- The second value has an entry for every entry of the first, in every mapping that is reached:
under the sanitized key, with a value that keeps all entries itself. -/
inductive KeepsEntries : Value → Value → Prop
  | scalar {s t : Scalar} : KeepsEntries (.scalar s) (.scalar t)
  | list {vs ws : List Value} (items : List.Forall₂ KeepsEntries vs ws) :
    KeepsEntries (.list vs) (.list ws)
  | mapping {es fs : Entries} (keys : fs.map Prod.fst = es.map fun e => scalar e.1)
    (values : List.Forall₂ KeepsEntries (es.map Prod.snd) (fs.map Prod.snd)) :
    KeepsEntries (.mapping es) (.mapping fs)

theorem scalar_of_ne_text {s : Scalar} (other : ∀ t, s ≠ .text t) : scalar s = s := by
  cases s with
  | text t => exact absurd rfl (other t)
  | _ => rfl

/-- Sanitized keys agree where the keys agree, and where two texts become one. -/
theorem agrees_scalar (k l : Scalar) : (scalar k).agrees (scalar l) = true ↔
    k.agrees l = true ∨ ∃ s t, k = .text s ∧ l = .text t ∧ text s = text t := by
  rcases k.text_or with ⟨s, rfl⟩ | noText
  · rcases l.text_or with ⟨t, rfl⟩ | noText
    · simp only [scalar, Scalar.text_agrees, Scalar.text.injEq]
      constructor
      · rintro same
        exact .inr ⟨s, t, rfl, rfl, same.symm⟩
      · rintro (rfl | ⟨_, _, rfl, rfl, same⟩)
        · rfl
        · exact same.symm
    · simp [scalar, Scalar.text_agrees, noText]
  · rcases l.text_or with ⟨t, rfl⟩ | other
    · simp [scalar, Scalar.agrees_text, noText]
    · simp [scalar_of_ne_text noText, scalar_of_ne_text other, noText]

/-- The keys of two entries are texts that become one. -/
def Meet (e f : Scalar × Value) : Prop :=
  ∃ s t, e.1 = .text s ∧ f.1 = .text t ∧ text s = text t

instance : Std.Symm fun e f => ¬Meet e f :=
  ⟨fun _ _ apart ⟨s, t, first, second, same⟩ => apart ⟨t, s, second, first, same.symm⟩⟩

/-- Of two keys that stay apart in a mapping either may be the earlier one: meeting does not depend
on it. -/
theorem staysApart_of_pairwise {es : Entries} (texts : es.Pairwise fun e f => ¬Meet e f) :
    StaysApart es := by
  intro s t first second same
  obtain ⟨e, there, name⟩ := List.mem_map.mp first
  obtain ⟨f, later, other⟩ := List.mem_map.mp second
  by_contra different
  have distinct : e ≠ f := by
    rintro rfl
    exact different (Scalar.text.inj (name.symm.trans other))
  exact texts.forall there later distinct ⟨s, t, name, other, same⟩

theorem keysApart_sanitized_iff {es : Entries} (apart : es.KeysApart) :
    Entries.KeysApart (es.map fun e => (scalar e.1, value e.2)) ↔ StaysApart es := by
  rw [Entries.KeysApart, List.pairwise_map]
  constructor
  · refine fun sanitized => staysApart_of_pairwise (sanitized.imp fun apart meet => ?_)
    rw [← Bool.not_eq_true, agrees_scalar] at apart
    exact apart (.inr meet)
  · intro stays
    refine apart.imp_of_mem fun {e f} there later apart => ?_
    rw [← Bool.not_eq_true, agrees_scalar, apart, or_iff_right Bool.false_ne_true]
    rintro ⟨s, t, first, second, same⟩
    have equal : s = t := stays s t (first ▸ List.mem_map_of_mem there)
      (second ▸ List.mem_map_of_mem later) same
    rw [first, second, equal, ← Bool.not_eq_true, Scalar.agrees_text] at apart
    exact apart rfl

/-! ### Where nothing is lost -/

/-- Keys that stay apart keep their entries, in their order. -/
theorem entries_of_staysApart {es : Entries} (apart : es.KeysApart) (stays : StaysApart es) :
    entries [] es = es.map fun e => (scalar e.1, value e.2) := by
  rw [entries_eq_merge, Entries.merge_eq_append, List.nil_append]
  exact (keysApart_sanitized_iff apart).mpr stays

theorem length_entries_eq_iff {es : Entries} (apart : es.KeysApart) :
    (entries [] es).length = es.length ↔ StaysApart es := by
  have all := Entries.length_merge_eq_iff .nil (es.map fun e => (scalar e.1, value e.2))
  rwa [← entries_eq_merge, List.nil_append, keysApart_sanitized_iff apart, List.length_nil,
    Nat.zero_add, List.length_map] at all

theorem keepsEntries_list (vs ws : List Value) :
    KeepsEntries (.list vs) (.list ws) ↔ List.Forall₂ KeepsEntries vs ws := by
  constructor
  · intro h
    cases h with
    | list items => exact items
  · exact .list

theorem keepsEntries_mapping {es : Entries} (apart : es.KeysApart) :
    KeepsEntries (.mapping es) (value (.mapping es)) ↔
      StaysApart es ∧ ∀ e ∈ es, KeepsEntries e.2 (value e.2) := by
  rw [value]
  constructor
  · intro keeps
    cases keeps with
    | mapping keys values =>
      -- As many keys as there were are as many entries.
      have stays : StaysApart es :=
        (length_entries_eq_iff apart).mp (by simpa using congrArg List.length keys)
      rw [entries_of_staysApart apart stays, List.map_map, List.forall₂_map_left_iff,
        List.forall₂_map_right_iff, List.forall₂_same] at values
      exact ⟨stays, values⟩
  · rintro ⟨stays, values⟩
    rw [entries_of_staysApart apart stays]
    refine .mapping (by rw [List.map_map]; rfl) ?_
    rw [List.map_map, List.forall₂_map_left_iff, List.forall₂_map_right_iff, List.forall₂_same]
    exact values

theorem keepsEntries_value_iff {v : Value} (apart : v.EveryMapping Entries.KeysApart) :
    KeepsEntries v (value v) ↔ v.EveryMapping StaysApart := by
  induction apart with
  | scalar => exact iff_of_true .scalar .scalar
  | list items ih =>
    rw [value, items_eq_map, keepsEntries_list, List.forall₂_map_right_iff, List.forall₂_same,
      Value.everyMapping_list]
    exact forall₂_congr ih
  | mapping apart values ih =>
    rw [keepsEntries_mapping apart, Value.everyMapping_mapping]
    exact and_congr_right fun _ => forall₂_congr ih

end Sanitize

/-! ### Documents -/

namespace Value

theorem holdsOfFields_everyMapping (p : Entries → Prop) : HoldsOfFields (EveryMapping p) where
  text _ := .scalar
  int _ := .scalar
  bool _ := .scalar
  texts items := by simp [texts]

/-- The names of a record stay apart when sanitizing keeps each of them. -/
theorem IsRecord.everyMapping_iff {names : List String} {es : Entries}
    (isRecord : (Value.mapping es).IsRecord names)
    (kept : ∀ name ∈ names, Sanitize.text name = name) :
    (Value.mapping es).EveryMapping Sanitize.StaysApart ↔
      ∀ e ∈ es, e.2.EveryMapping Sanitize.StaysApart := by
  obtain ⟨_, ⟨⟩, among⟩ := isRecord
  rw [everyMapping_mapping, and_iff_right]
  have named (s : String) (member : .text s ∈ es.map Prod.fst) : Sanitize.text s = s := by
    obtain ⟨name, there, same⟩ := List.mem_map.mp (among.subset member)
    exact Scalar.text.inj same ▸ kept name there
  intro s t first second same
  rwa [named s first, named t second] at same

end Value

theorem ServiceEntry.staysApart (e : ServiceEntry) :
    e.toValue.EveryMapping Sanitize.StaysApart :=
  (e.isRecord.everyMapping_iff (by decide)).mpr
    (e.forall_fields (Value.holdsOfFields_everyMapping _) rfl)

theorem RouteEntry.staysApart (e : RouteEntry) : e.toValue.EveryMapping Sanitize.StaysApart :=
  (e.isRecord.everyMapping_iff (by decide)).mpr
    (e.forall_fields (Value.holdsOfFields_everyMapping _) rfl)

theorem ConsumerEntry.staysApart (e : ConsumerEntry) :
    e.toValue.EveryMapping Sanitize.StaysApart :=
  (e.isRecord.everyMapping_iff (by decide)).mpr
    (e.forall_fields (Value.holdsOfFields_everyMapping _) rfl)

theorem UpstreamEntry.staysApart (e : UpstreamEntry) :
    e.toValue.EveryMapping Sanitize.StaysApart :=
  (e.isRecord.everyMapping_iff (by decide)).mpr
    (e.forall_fields (Value.holdsOfFields_everyMapping _) rfl)

/-- Only the options of a plugin's configuration may become equal. -/
theorem PluginEntry.staysApart_iff (e : PluginEntry) :
    e.toValue.EveryMapping Sanitize.StaysApart ↔
      ∀ config ∈ e.config, (Config.toValue config).plain.EveryMapping Sanitize.StaysApart :=
  (e.isRecord.everyMapping_iff (by decide)).trans
    (e.forall_fields_iff (Value.holdsOfFields_everyMapping _) rfl)

theorem Document.staysApart_iff (d : Document) :
    d.toValue.EveryMapping Sanitize.StaysApart ↔ ∀ p ∈ d.plugins, ∀ config ∈ p.config,
      (Config.toValue config).plain.EveryMapping Sanitize.StaysApart := by
  refine (d.isRecord.everyMapping_iff (by decide)).trans ?_
  -- A section that is left out has no entry that could lose something.
  have present : (∀ part ∈ d.presentSections, ∀ v ∈ part.2, v.EveryMapping Sanitize.StaysApart) ↔
      ∀ part ∈ d.allSections, ∀ v ∈ part.2, v.EveryMapping Sanitize.StaysApart := by
    refine ⟨fun each part member v there => each part ?_ v there,
      fun each part member => each part (List.mem_of_mem_filter member)⟩
    exact List.mem_filter.mpr ⟨member, by simpa using List.ne_nil_of_mem there⟩
  simp only [List.forall_mem_cons, List.forall_mem_map, Value.everyMapping_scalar,
    Value.everyMapping_list, present, true_and]
  simp only [allSections, List.forall_mem_cons, List.forall_mem_map, ServiceEntry.staysApart,
    RouteEntry.staysApart, PluginEntry.staysApart_iff, ConsumerEntry.staysApart,
    UpstreamEntry.staysApart]
  simp

theorem Document.keepsEntries_rendered_iff (d : Document) :
    Sanitize.KeepsEntries d.toValue d.rendered ↔ ∀ p ∈ d.plugins, ∀ config ∈ p.config,
      (Config.toValue config).plain.EveryMapping Sanitize.StaysApart := by
  rw [← d.staysApart_iff]
  exact Sanitize.keepsEntries_value_iff d.isPlain_toValue.keysApart

/-- Sanitizing loses entries just where keys become equal. Data keeps all of them just when in every
mapping of it the texts among the keys stay apart, and a document when they do so in the
configurations of its plugins. A mapping has at most as many entries as before, and of entries that
meet it has the last one. -/
theorem sanitizing_keeps_entries_iff (v : Value) (apart : v.EveryMapping Entries.KeysApart) :
    (Sanitize.KeepsEntries v (Sanitize.value v) ↔ v.EveryMapping Sanitize.StaysApart) ∧
      (∀ es, v = .mapping es → ∃ fs, Sanitize.value v = .mapping fs ∧
        fs.length ≤ es.length ∧ (fs.length = es.length ↔ Sanitize.StaysApart es) ∧
        ∀ name, Entries.get? name fs =
          Entries.get? name (es.reverse.map fun e => (Sanitize.scalar e.1, Sanitize.value e.2))) ∧
      ∀ d : Document, Sanitize.KeepsEntries d.toValue d.rendered ↔
        ∀ p ∈ d.plugins, ∀ config ∈ p.config,
          (Config.toValue config).plain.EveryMapping Sanitize.StaysApart := by
  refine ⟨Sanitize.keepsEntries_value_iff apart, ?_, Document.keepsEntries_rendered_iff⟩
  rintro es rfl
  have here := ((Value.everyMapping_mapping es).mp apart).1
  refine ⟨_, rfl, ?_, Sanitize.length_entries_eq_iff here, fun name => ?_⟩
  · rw [Sanitize.entries_eq_merge]
    exact (Entries.length_merge_le ..).trans_eq (by simp)
  · rw [Sanitize.entries_eq_merge, List.map_reverse]
    exact Entries.get?_ofList name _

/-- Quotas under different keys, two of which become one. -/
def quotas : Entries :=
  [(.text "minute", .int 5), (.int 7, .mapping [(.text "-by", .text "ip"), (.text "for", .null)]),
    (.text "minute$", .int 100)]

theorem sanitizing_keeps_entries_iff_for_quotas :
    (Value.mapping quotas).EveryMapping Entries.KeysApart ∧
      (Sanitize.KeepsEntries (.mapping quotas) (Sanitize.value (.mapping quotas)) ↔
        (Value.mapping quotas).EveryMapping Sanitize.StaysApart) ∧
      ∃ fs, Sanitize.value (.mapping quotas) = .mapping fs ∧ fs.length ≤ 3 ∧
        (fs.length = 3 ↔ Sanitize.StaysApart quotas) ∧
        Entries.get? "minute" fs = some (.int 100) := by
  have apart : (Value.mapping quotas).EveryMapping Entries.KeysApart :=
    .mapping (by simp [quotas, Entries.KeysApart, Scalar.agrees])
      (by simp [quotas, Entries.KeysApart, Scalar.agrees])
  obtain ⟨keeps, entries, -⟩ := sanitizing_keeps_entries_iff (.mapping quotas) apart
  obtain ⟨fs, sanitized, bound, all, last⟩ := entries quotas rfl
  exact ⟨apart, keeps, fs, sanitized, bound, all, last "minute"⟩

/-- A plugin with two options whose keys differ in a character that sanitizing drops. -/
def throttleNodes : List Node :=
  [⟨"tap", .plugin
      { name := some "rate-limiting", config := some [("minute", .int 5), ("minute$", .int 100)] },
    by decide⟩]

/-- The document of a valid flow has two options of which one is rendered. -/
theorem merged_option_is_lost :
    (validate throttleNodes [] {}).valid = true ∧
      ∃ d, (lower throttleNodes [] {}).result = .ok d ∧
        d.toValue.sectionOf "plugins" = [Value.record [("name", .text "rate-limiting"),
          ("enabled", .bool true),
          ("config", Value.record [("minute", .int 5), ("minute$", .int 100)])]] ∧
        d.rendered.sectionOf "plugins" = [Value.record [("name", .text "rate-limiting"),
          ("enabled", .bool true), ("config", Value.record [("minute", .int 100)])]] ∧
        ¬Sanitize.KeepsEntries d.toValue d.rendered := by
  refine ⟨by decide, _, rfl, rfl, rfl, fun keeps => ?_⟩
  have every := (Document.keepsEntries_rendered_iff _).mp keeps _ List.mem_cons_self _ rfl
  cases every with
  | mapping apart values =>
    have same := apart "minute" "minute$" List.mem_cons_self
      (List.mem_cons_of_mem _ List.mem_cons_self) rfl
    exact absurd same (by decide)

end GatewayFlow
