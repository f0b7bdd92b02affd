import GatewayFlow.Proofs.EditorRuns
import GatewayFlow.Proofs.WrittenAttributes

/-!
# Updates of attributes

An update writes a mapping over the attributes of a node and reads the outcome by the fields of its
kind. What a coercion gives, it gives again, so an update that is repeated changes nothing, and of
two updates in turn the second only hides what the first one wrote under the same names: one update
with both mappings, the second over the first, comes to the same.
-/
namespace GatewayFlow

/-! ### Fields by their types -/

namespace Field

inductive Coercion
  | text
  | integer
  | boolean
  | texts
  | config

/-- What a value becomes in a field, as data. -/
def Coercion.read : Coercion → Value → Reading Value
  | .text => fun v => (readText v).map .text
  | .integer => fun v => (readInteger v).map .int
  | .boolean => fun v => (readBoolean v).map .bool
  | .texts => fun v => (readTexts v).map .texts
  | .config => fun v => (readConfig v).map Config.toValue

variable {α : Type} {read : Value → Reading α} {write : α → Value}

theorem Restores.injective (restores : Restores read write) : write.Injective := by
  intro a b same
  have reads := restores.read_write a
  rw [same, restores.read_write b] at reads
  exact (Reading.value.inj reads).symm

theorem Restores.read_again (restores : Restores read write) {v w : Value}
    (reads : (read v).map write = .value w) : (read w).map write = .value w ∧ w ≠ .null := by
  obtain ⟨a, -, rfl⟩ := (Reading.map_eq_value write _ w).mp reads
  rw [restores.read_write a]
  exact ⟨rfl, restores.present a⟩

/-- What a coercion gives, it gives again. -/
theorem Coercion.read_again (c : Coercion) {v w : Value} (reads : c.read v = .value w) :
    c.read w = .value w ∧ w ≠ .null := by
  cases c with
  | text => exact restores_text.read_again reads
  | integer => exact restores_integer.read_again reads
  | boolean => exact restores_boolean.read_again reads
  | texts => exact restores_texts.read_again reads
  | config => exact restores_config.read_again reads

theorem optional_congr {es fs : Entries} {name : String} (read : Value → Reading α)
    (same : es.get? name = fs.get? name) : optional es name read = optional fs name read := by
  rw [optional, optional, same]

theorem optional_written (restores : Restores read write) (es : Entries) (name : String)
    (a : Option α) :
    optional es name (fun v => (read v).map write) = .value (a.map write) ↔
      optional es name read = .value a := by
  unfold optional
  cases es.get? name with
  | none => cases a <;> simp
  | some v =>
    simp only [Reading.within_eq_value, nullable]
    split
    · cases a <;> simp
    · cases a <;> simp [restores.injective.eq_iff]

section

variable (es : Entries) (name : String)

@[simp] theorem optional_text (a : Option String) :
    optional es name Coercion.text.read = .value (a.map .text) ↔
      optional es name readText = .value a :=
  optional_written restores_text es name a

@[simp] theorem optional_integer (a : Option Int) :
    optional es name Coercion.integer.read = .value (a.map .int) ↔
      optional es name readInteger = .value a :=
  optional_written restores_integer es name a

@[simp] theorem optional_boolean (a : Option Bool) :
    optional es name Coercion.boolean.read = .value (a.map .bool) ↔
      optional es name readBoolean = .value a :=
  optional_written restores_boolean es name a

@[simp] theorem optional_texts (a : Option (List String)) :
    optional es name Coercion.texts.read = .value (a.map .texts) ↔
      optional es name readTexts = .value a :=
  optional_written restores_texts es name a

@[simp] theorem optional_config (a : Option Config) :
    optional es name Coercion.config.read = .value (a.map Config.toValue) ↔
      optional es name readConfig = .value a :=
  optional_written restores_config es name a

end

/-- A field that was read once is read the same from what it was read as. -/
theorem optional_again {c : Coercion} {es fs : Entries} {name : String} {w : Option Value}
    (reads : optional es name c.read = .value w) (found : fs.get? name = w) :
    optional fs name c.read = .value w := by
  cases w with
  | none => rw [optional, found]
  | some w =>
    -- Something was read, so a value was there and was not null.
    obtain ⟨v, given⟩ : ∃ v, c.read v = .value w := by
      unfold optional at reads
      split at reads
      next => cases reads
      next v _ =>
        rw [Reading.within_eq_value] at reads
        unfold nullable at reads
        split at reads
        next => cases reads
        next =>
          obtain ⟨_, given, ⟨⟩⟩ := (Reading.map_eq_value ..).mp reads
          exact ⟨v, given⟩
    obtain ⟨again, present⟩ := c.read_again given
    rw [optional, found]
    simp [nullable, again]

end Field

open GatewayFlow.Field (Coercion optional)

/-- The fields of a kind, in order, with their types. -/
def Kind.fields : Kind → List (String × Coercion)
  | .service => [("name", .text), ("protocol", .text), ("host", .text), ("port", .integer),
      ("path", .text), ("retries", .integer), ("connect_timeout", .integer),
      ("write_timeout", .integer), ("read_timeout", .integer)]
  | .route => [("name", .text), ("protocols", .texts), ("methods", .texts), ("paths", .texts),
      ("hosts", .texts), ("strip_path", .boolean), ("preserve_host", .boolean)]
  | .plugin => [("name", .text), ("enabled", .boolean), ("config", .config)]
  | .consumer => [("username", .text), ("custom_id", .text)]
  | .upstream => [("name", .text), ("algorithm", .text), ("slots", .integer), ("hash_on", .text),
      ("hash_fallback", .text)]
  | .target => [("target", .text), ("weight", .integer)]
  | .certificate => [("cert", .text), ("key", .text)]
  | .sni => [("name", .text)]

theorem Kind.fields_names (kind : Kind) : kind.fields.map Prod.fst = kind.attributeNames := by
  cases kind <;> rfl

namespace Attributes

open GatewayFlow.Field

/-- The attributes of a kind are read field by field. -/
theorem readFields_eq_value (es : Entries) (a : Attributes) :
    readFields a.kind es = .value a ↔
      ∀ f ∈ a.kind.fields, optional es f.1 f.2.read = .value (a.entries.get? f.1) := by
  rcases a with ⟨⟨⟩⟩ | ⟨⟨⟩⟩ | ⟨⟨⟩⟩ | ⟨⟨⟩⟩ | ⟨⟨⟩⟩ | ⟨⟨⟩⟩ | ⟨⟨⟩⟩ | ⟨⟨⟩⟩
  all_goals
    simp only [readFields, Attributes.kind, Reading.seq_eq_value, Reading.fmap_eq_value,
      ↓existsAndEq, and_true, and_assoc, exists_and_left]
    simp [Kind.fields, entries]

/-! ### Fields that were written over -/

section

variable {kind : Kind} {es fs more : Entries} {a b : Attributes}

/-- A reading gives what it gave when every field has either what it had or what it was read as. -/
theorem readFields_again (first : readFields kind es = .value a)
    (found : ∀ name, fs.get? name = es.get? name ∨ fs.get? name = a.entries.get? name) :
    readFields kind fs = .value a := by
  obtain rfl := kind_of_readFields first
  rw [readFields_eq_value] at first ⊢
  intro f member
  rcases found f.1 with given | kept
  · rw [optional_congr f.2.read given]
    exact first f member
  · exact optional_again (first f member) kept

/-- What the second of two readings gives depends on the first one only through the fields that it
finds as they were read. -/
theorem readFields_over (first : readFields kind es = .value a)
    (second : readFields kind fs = .value b)
    {gs : Entries} (found : ∀ name, gs.get? name = fs.get? name ∨
      fs.get? name = a.entries.get? name ∧ gs.get? name = es.get? name) :
    readFields kind gs = .value b := by
  obtain rfl := kind_of_readFields second
  have same := kind_of_readFields first
  rw [← same, readFields_eq_value, same] at first
  rw [readFields_eq_value] at second ⊢
  intro f member
  rcases found f.1 with given | ⟨kept, written⟩
  · rw [optional_congr f.2.read given]
    exact second f member
  · -- The second reading finds what the first one gave, so it gives it again.
    have again := optional_again (first f member) kept
    rw [second f member] at again
    rw [optional_congr f.2.read written, first f member, Reading.value.inj again]

theorem get?_entries_eq_none {name : String} (undefined : name ∉ a.kind.attributeNames) :
    a.entries.get? name = none := by
  rw [Entries.get?_eq_none]
  intro member
  obtain ⟨other, named, same⟩ := List.mem_map.mp (a.entries_keys.subset member)
  cases same
  exact undefined named

/-- An attribute that nothing is written over is kept. -/
theorem get?_of_readFields (reads : readFields a.kind fs = .value b) {name : String}
    (kept : fs.get? name = a.entries.get? name) : b.entries.get? name = a.entries.get? name := by
  have same := kind_of_readFields reads
  by_cases defined : name ∈ a.kind.attributeNames
  · rw [← Kind.fields_names] at defined
    obtain ⟨f, member, rfl⟩ := List.mem_map.mp defined
    have own := (readFields_eq_value a.entries a).mp (readFields_entries a) f member
    rw [← same, readFields_eq_value, same] at reads
    have given := reads f member
    rw [optional_congr f.2.read kept, own] at given
    exact (Reading.value.inj given).symm
  · rw [get?_entries_eq_none defined, get?_entries_eq_none (same ▸ defined)]

end

end Attributes

/-! ### Keys that a kind defines -/

namespace Field

variable {names : List String}

/-- All keys are among the names. -/
def Defined (names : List String) (es : Entries) : Prop :=
  ∀ e ∈ es, ∃ name ∈ names, e.1 = .text name

theorem onlyFields_eq_value (names : List String) (es : Entries) :
    onlyFields names es = .value () ↔ Defined names es := by
  have none_extra : (es.filter fun e => !names.any fun name => e.1 == .text name) = [] ↔
      Defined names es := by
    simp [List.filter_eq_nil_iff, Defined]
  rw [← none_extra, onlyFields]
  generalize es.filter _ = extra
  cases extra <;> simp

theorem defined_cons (k : Scalar) (v : Value) (es : Entries) :
    Defined names ((k, v) :: es) ↔ (∃ name ∈ names, k = .text name) ∧ Defined names es := by
  simp [Defined]

theorem defined_put (k : Scalar) (v : Value) (es : Entries) :
    Defined names (es.put k v) ↔ (∃ name ∈ names, k = .text name) ∧ Defined names es := by
  induction es with
  | nil => exact defined_cons k v []
  | cons e rest ih =>
    obtain ⟨k', w⟩ := e
    rw [Entries.put]
    split
    next here =>
      rw [defined_cons, defined_cons]
      constructor
      · rintro ⟨⟨name, named, rfl⟩, defined⟩
        -- A key in whose place something is written is the same text.
        obtain rfl := (Scalar.text_agrees name k).mp here
        exact ⟨⟨name, named, rfl⟩, ⟨name, named, rfl⟩, defined⟩
      · rintro ⟨-, defined⟩
        exact defined
    next => rw [defined_cons, ih, defined_cons, and_left_comm]

theorem defined_merge (es more : Entries) :
    Defined names (es.merge more) ↔ Defined names es ∧ Defined names more := by
  induction more generalizing es with
  | nil => simp [Entries.merge, Defined]
  | cons e rest ih =>
    obtain ⟨k, v⟩ := e
    rw [Entries.merge_cons, ih, defined_put, defined_cons, and_right_comm, and_comm, and_left_comm]

theorem defined_ofList (es : Entries) : Defined names (Entries.ofList es) ↔ Defined names es := by
  rw [Entries.ofList, defined_merge]
  simp [Defined]

theorem defined_append (es fs : Entries) :
    Defined names (es ++ fs) ↔ Defined names es ∧ Defined names fs :=
  List.forall_mem_append

end Field

/-! ### Mappings written over attributes -/

namespace Attributes

open GatewayFlow.Field

/-- What attributes become when a mapping is written over them. -/
def Becomes (a : Attributes) (given : Entries) (b : Attributes) : Prop :=
  read a.kind (.mapping (a.entries.merge given)) = .value b

variable {a b c : Attributes} {given later : Entries}

theorem defined_entries (a : Attributes) : Defined a.kind.attributeNames a.entries :=
  (onlyFields_eq_value ..).mp a.onlyFields_entries

theorem becomes_iff : a.Becomes given b ↔
    readFields a.kind (a.entries.merge given) = .value b ∧
      Defined a.kind.attributeNames given := by
  rw [Becomes, read_mapping_eq_value, onlyFields_eq_value, defined_merge,
    and_iff_right a.defined_entries]

theorem Becomes.kind_eq (becomes : a.Becomes given b) : b.kind = a.kind :=
  kind_of_read becomes

theorem becomes_nil (a : Attributes) : a.Becomes [] a :=
  a.read_entries

/-- Writing the same mapping once more changes nothing. -/
theorem Becomes.again (becomes : a.Becomes given b) : b.Becomes given b := by
  obtain ⟨reads, defined⟩ := becomes_iff.mp becomes
  rw [becomes_iff, becomes.kind_eq]
  refine ⟨readFields_again reads fun name => ?_, defined⟩
  rw [Entries.get?_merge, Entries.get?_merge]
  cases Entries.get? name given.reverse with
  | some v => exact .inl rfl
  | none => exact .inr rfl

/-- The keys of entries among the names are texts, so the mapping of them has each name once. -/
theorem get?_reverse_ofList {names : List String} (defined : Defined names given) (name : String) :
    Entries.get? name (Entries.ofList given).reverse = Entries.get? name given.reverse := by
  have texts : ∀ k ∈ given.map Prod.fst, ∃ s, k = .text s := by
    intro k member
    obtain ⟨e, there, rfl⟩ := List.mem_map.mp member
    obtain ⟨s, -, same⟩ := defined e there
    exact ⟨s, same⟩
  have labelled : Entries.Labelled (Entries.ofList given) :=
    Entries.Labelled.merge ⟨by simp, List.nodup_nil⟩ texts
  rw [Entries.get?_reverse name labelled.distinct, Entries.get?_ofList]

/-- Two mappings written in turn come to one mapping, in which the later one overrides the other. -/
theorem Becomes.trans (first : a.Becomes given b) (second : b.Becomes later c) :
    a.Becomes (.ofList (given ++ later)) c := by
  obtain ⟨reads, defined⟩ := becomes_iff.mp first
  obtain ⟨rereads, redefined⟩ := becomes_iff.mp second
  rw [first.kind_eq] at rereads redefined
  have all : Defined a.kind.attributeNames (given ++ later) :=
    (defined_append given later).mpr ⟨defined, redefined⟩
  refine becomes_iff.mpr ⟨readFields_over reads rereads fun name => ?_, (defined_ofList _).mpr all⟩
  -- A name in the later mapping is found there both times; any other one as after the first.
  simp only [Entries.get?_merge, get?_reverse_ofList all, List.reverse_append, Entries.get?_append]
  cases Entries.get? name later.reverse with
  | some v => exact .inl rfl
  | none => exact .inr ⟨rfl, rfl⟩

/-- An attribute whose name is not written is kept. -/
theorem Becomes.get?_of_unwritten (becomes : a.Becomes given b) {name : String}
    (unwritten : given.get? name = none) : b.entries.get? name = a.entries.get? name := by
  obtain ⟨reads, -⟩ := becomes_iff.mp becomes
  apply get?_of_readFields reads
  have absent : Entries.get? name given.reverse = none := by
    rw [Entries.get?_eq_none] at unwritten ⊢
    rwa [List.map_reverse, List.mem_reverse]
  rw [Entries.get?_merge, absent, Option.none_or]

end Attributes

/-! ### Updates of an editor -/

namespace Editor

variable {σ : Type} {e : Editor σ} {id : Value} {given later : Entries} {current n m : Node}

theorem updated_eq_ok : updated current given = .ok n ↔
    n.id = current.id ∧ current.attributes.Becomes given n.attributes := by
  rw [updated, Reading.orFail_eq_ok, Node.build_mapping_eq_value, eq_comm]
  rfl

/-- The editor with a node in place of the one of its id. -/
def replaced (e : Editor σ) (n : Node) : Editor σ :=
  { e with nodes := e.nodes.map fun m => if m.id = n.id then n else m }

theorem update_of_becomes (got : e.get id = .ok current) (same : n.id = current.id)
    (becomes : current.attributes.Becomes given n.attributes) :
    e.update id given = (.ok n, e.replaced n) := by
  have built : updated current given = .ok n := updated_eq_ok.mpr ⟨same, becomes⟩
  simp only [update, got, built, replaced, same]

/-- An update that succeeds finds a node and puts what it becomes in its place. -/
theorem update_eq (ok : (e.update id given).1 = .ok n) :
    ∃ current, e.get id = .ok current ∧ n.id = current.id ∧
      current.attributes.Becomes given n.attributes ∧
      e.update id given = (.ok n, e.replaced n) := by
  unfold update at ok
  split at ok
  next => cases ok
  next current got =>
    split at ok
    next => cases ok
    next n' built =>
      obtain rfl : n' = n := Except.ok.inj ok
      obtain ⟨same, becomes⟩ := updated_eq_ok.mp built
      exact ⟨current, got, same, becomes, update_of_becomes got same becomes⟩

theorem get_replaced (got : e.get id = .ok current) (same : n.id = current.id) :
    (e.replaced n).get id = .ok n := by
  rw [get_eq_ok] at got ⊢
  obtain ⟨rfl, -⟩ := e.find?_eq_some id current got
  have ids : ((fun m => m.id == current.id) ∘ fun m : Node => if m.id = n.id then n else m) =
      fun m => m.id == current.id := by
    funext m
    by_cases here : m.id = n.id <;> simp [here]
  change ((e.nodes.map _).find? _) = _
  rw [List.find?_map, ids, show e.nodes.find? _ = some current from got]
  simp [same]

theorem replaced_replaced (e : Editor σ) (same : m.id = n.id) :
    (e.replaced n).replaced m = e.replaced m := by
  simp only [replaced, List.map_map, mk.injEq, and_true]
  apply List.map_congr_left
  intro other _
  by_cases here : other.id = n.id <;> simp [here, same]

/-- With distinct ids, a node takes the place of the one that has its id, and of no other. -/
theorem replaced_eq (distinct : (e.nodes.map Node.id).Nodup) (got : e.get id = .ok current)
    (same : n.id = current.id) :
    ∃ before after, e.nodes = before ++ current :: after ∧
      e.replaced n = { e with nodes := before ++ n :: after } := by
  obtain ⟨-, member⟩ := e.find?_eq_some id current ((e.get_eq_ok id current).mp got)
  obtain ⟨before, after, split⟩ := List.append_of_mem member
  refine ⟨before, after, split, ?_⟩
  have others : ∀ m ∈ before ++ after, m.id ≠ n.id := by
    rw [split, List.map_append, List.map_cons, List.nodup_middle, List.nodup_cons] at distinct
    intro m there eq
    rw [← List.map_append, ← same, ← eq] at distinct
    exact distinct.1 (List.mem_map_of_mem there)
  have kept : ∀ part ⊆ before ++ after,
      (part.map fun m => if m.id = n.id then n else m) = part := by
    intro part among
    exact (List.map_congr_left fun m there => if_neg (others m (among there))).trans (List.map_id _)
  rw [replaced, split, List.map_append, List.map_cons, if_pos same.symm,
    kept before (List.subset_append_left ..), kept after (List.subset_append_right ..)]

/-- An update of nothing finds the node, and changes nothing. -/
theorem update_nil (distinct : (e.nodes.map Node.id).Nodup) (id : Value) :
    e.update id [] = (e.get id, e) := by
  cases got : e.get id with
  | error failure => simp only [update, got]
  | ok current =>
    obtain ⟨before, after, split, replaced⟩ := replaced_eq distinct got rfl
    rw [update_of_becomes got rfl current.attributes.becomes_nil, replaced, ← split]

end Editor

/-- Two updates of a node come to one update with both mappings, the second over the first. So an
update that is repeated changes nothing, and neither does an update of nothing. An update that
succeeds keeps everything but the node, in its place, and of the node its id, its kind and every
attribute that it does not name. -/
theorem updates_merge {σ : Type} (e : Editor σ) (distinct : (e.nodes.map Node.id).Nodup)
    (id : Value) :
    (∀ given later n m, (e.update id given).1 = .ok n →
      ((e.update id given).2.update id later).1 = .ok m →
      e.update id (.ofList (given ++ later)) =
        (.ok m, ((e.update id given).2.update id later).2)) ∧
    (∀ given n, (e.update id given).1 = .ok n →
      (e.update id given).2.update id given = e.update id given) ∧
    e.update id [] = (e.get id, e) ∧
    ∀ given n, (e.update id given).1 = .ok n →
      ∃ before current after, e.nodes = before ++ current :: after ∧ id = .text current.id ∧
        (e.update id given).2 = { e with nodes := before ++ n :: after } ∧
        n.id = current.id ∧ n.kind = current.kind ∧
        ∀ name, given.get? name = none →
          n.attributes.entries.get? name = current.attributes.entries.get? name := by
  refine ⟨?_, ?_, Editor.update_nil distinct id, ?_⟩
  · intro given later n m first second
    obtain ⟨current, got, same, becomes, eq⟩ := Editor.update_eq first
    rw [eq] at second ⊢
    obtain ⟨n', regot, resame, rebecomes, reeq⟩ := Editor.update_eq second
    -- The second update starts from the node that the first one made.
    obtain rfl : n = n' := Except.ok.inj ((Editor.get_replaced got same).symm.trans regot)
    rw [reeq, Editor.replaced_replaced e resame]
    exact Editor.update_of_becomes got (resame.trans same) (becomes.trans rebecomes)
  · intro given n ok
    obtain ⟨current, got, same, becomes, eq⟩ := Editor.update_eq ok
    rw [eq, Editor.update_of_becomes (Editor.get_replaced got same) rfl becomes.again,
      Editor.replaced_replaced e rfl]
  · intro given n ok
    obtain ⟨current, got, same, becomes, eq⟩ := Editor.update_eq ok
    obtain ⟨before, after, split, replaced⟩ := Editor.replaced_eq distinct got same
    obtain ⟨named, -⟩ := e.find?_eq_some id current ((e.get_eq_ok id current).mp got)
    refine ⟨before, current, after, split, named, by rw [eq, replaced], same, becomes.kind_eq, ?_⟩
    intro name unwritten
    exact becomes.get?_of_unwritten unwritten

/-- A service behind a route, and two updates of it. Texts and flags become numbers, and null takes
away what was there. -/
def depot : Editor IdCounter where
  nodes := [⟨"depot-route", .route {}, by decide⟩,
    ⟨"depot", .service { name := some "depot", host := some "depot.local", port := some 80 },
      by decide⟩]
  edges := [⟨"e1", "depot-route", "depot", none, none, by decide, by decide, by decide⟩]
  ids := .initial

def portGiven : Entries :=
  [(.text "port", .text "8080"), (.text "retries", .bool true)]

def laterGiven : Entries :=
  [(.text "host", .null), (.text "port", .text "09_090.0")]

theorem updates_merge_for_depot :
    ∃ n m, (depot.update (.text "depot") portGiven).1 = .ok n ∧
      ((depot.update (.text "depot") portGiven).2.update (.text "depot") laterGiven).1 = .ok m ∧
      m.attributes = .service { name := some "depot", port := some 9090, retries := some 1 } ∧
      depot.update (.text "depot") (.ofList (portGiven ++ laterGiven)) =
        (.ok m, ((depot.update (.text "depot") portGiven).2.update (.text "depot") laterGiven).2) := by
  have distinct : (depot.nodes.map Node.id).Nodup := by decide
  obtain ⟨merges, -⟩ := updates_merge depot distinct (.text "depot")
  exact ⟨_, _, rfl, rfl, rfl, merges portGiven laterGiven _ _ rfl rfl⟩

end GatewayFlow
