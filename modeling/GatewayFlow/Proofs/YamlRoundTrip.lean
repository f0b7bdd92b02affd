import GatewayFlow.Proofs.YamlLongKeys
import GatewayFlow.Rendering
import GatewayFlow.Yaml.Reader

/-!
# Reading written YAML back

The tokens of a written value give the tree of its nodes, and the tree gives the value. So the YAML
text of a document is read back as its sanitized data, but for two things that it cannot carry:
U+0085 is lost between single quotes, and a key in front of its colon is not recognised where its
escapes make it too long.
-/
namespace GatewayFlow.Yaml

/-! ### Trees -/

def scalarTree : Scalar → Tree
  | .text t => .scalar {} (styleOf t.toList = .plain) (rereadText t)
  | s => .scalar {} true (String.ofList (scalarChars 0 s))

mutual

/-- The nodes of a written value: no node has an anchor or a tag. -/
def valueTree : Value → Tree
  | .scalar s => scalarTree s
  | .list vs => .sequence {} (itemTrees vs)
  | .mapping es => .mapping {} (entryTrees es)

def itemTrees : List Value → List Tree
  | [] => []
  | v :: rest => valueTree v :: itemTrees rest

def entryTrees : List (Scalar × Value) → List (Tree × Tree)
  | [] => []
  | (k, v) :: rest => (scalarTree k, valueTree v) :: entryTrees rest

end

namespace Tree

variable {handles : Handles}

theorem node?_scalar (fuel : Nat) (inBlock listAllowed : Bool) (s : Scalar) (rest : List Token) :
    node? handles (fuel + 1) inBlock listAllowed (scalarToken s :: rest) =
      some (scalarTree s, rest) := by
  cases s <;> rfl

/-- With steps enough the tokens of a value give its tree. -/
def GivesTree (handles : Handles) (v : Value) : Prop :=
  ∀ (fuel : Nat) (listAllowed : Bool) (rest : List Token), 2 * (valueTokens v).length ≤ fuel →
    node? handles fuel true listAllowed (valueTokens v ++ rest) = some (valueTree v, rest)

theorem exists_steps {v : Value} {fuel : Nat} (enough : 2 * (valueTokens v).length ≤ fuel) :
    ∃ more, fuel = more + 2 := by
  have nonempty : 0 < (valueTokens v).length := by
    cases v with
    | scalar s => simp [valueTokens]
    | list vs => cases vs <;> simp [valueTokens]
    | mapping es => cases es <;> simp [valueTokens]
  exact ⟨fuel - 2, by omega⟩

theorem givesTree_scalar (s : Scalar) : GivesTree handles (.scalar s) := by
  intro fuel listAllowed rest enough
  obtain ⟨fuel, rfl⟩ := exists_steps enough
  exact node?_scalar (fuel + 1) true listAllowed s rest

/-- No value is absent: its first token ends no part of a block. -/
theorem isAbsent_valueTokens {closers : List Token}
    (ends : ∀ t ∈ closers, t = .key ∨ t = .value ∨ t = .blockEntry ∨ t = .blockEnd) (v : Value)
    (rest : List Token) : isAbsent closers (valueTokens v ++ rest) = false := by
  obtain ⟨t, ts, eq, apart⟩ : ∃ t ts, valueTokens v = t :: ts ∧
      ¬(t = .key ∨ t = .value ∨ t = .blockEntry ∨ t = .blockEnd) := by
    cases v with
    | scalar s => exact ⟨_, _, rfl, by cases s <;> simp [scalarToken]⟩
    | list vs => cases vs <;> exact ⟨_, _, rfl, by simp⟩
    | mapping es => cases es <;> exact ⟨_, _, rfl, by simp⟩
  rw [eq, List.cons_append, isAbsent, ← Bool.not_eq_true, List.contains_iff_mem]
  exact fun member => apart (ends t member)

theorem blockNode?_value {v : Value} (gives : GivesTree handles v) {fuel : Nat}
    (enough : 2 * (valueTokens v).length < fuel) (listAllowed : Bool) {closers : List Token}
    (ends : ∀ t ∈ closers, t = .key ∨ t = .value ∨ t = .blockEntry ∨ t = .blockEnd)
    (rest : List Token) :
    blockNode? handles fuel listAllowed closers (valueTokens v ++ rest) =
      some (valueTree v, rest) := by
  obtain ⟨fuel, rfl⟩ := Nat.exists_eq_add_of_lt enough
  rw [blockNode?, isAbsent_valueTokens ends, if_neg Bool.false_ne_true]
  exact gives _ listAllowed rest (by omega)

theorem blockItems?_items {vs : List Value} (each : ∀ v ∈ vs, GivesTree handles v) {fuel : Nat}
    (enough : 2 * (itemsTokens vs).length < fuel) (rest : List Token) :
    blockItems? handles fuel (itemsTokens vs ++ .blockEnd :: rest) =
      some (itemTrees vs, rest) := by
  -- A step is taken for each item, and its indicator leaves enough steps for the item itself.
  induction vs generalizing fuel with
  | nil =>
    obtain ⟨fuel, rfl⟩ := Nat.exists_eq_add_of_lt enough
    rfl
  | cons v vs ih =>
    obtain ⟨here, later⟩ := List.forall_mem_cons.mp each
    rw [itemsTokens, List.cons_append, List.length_cons, List.length_append] at enough
    obtain ⟨fuel, rfl⟩ : ∃ more, fuel = more + 1 := ⟨fuel - 1, by omega⟩
    have item : blockNode? handles fuel false [.blockEntry, .blockEnd]
        (valueTokens v ++ (itemsTokens vs ++ .blockEnd :: rest)) = _ :=
      blockNode?_value here (by omega) false (by simp) _
    have items : blockItems? handles fuel (itemsTokens vs ++ .blockEnd :: rest) = _ :=
      ih later (by omega)
    rw [itemsTokens, List.cons_append, List.cons_append, List.append_assoc, blockItems?, item]
    simp [items, itemTrees]

theorem blockEntries?_entries {es : Entries} (each : ∀ e ∈ es, GivesTree handles e.2) {fuel : Nat}
    (enough : 2 * (entriesTokens es).length < fuel) (rest : List Token) :
    blockEntries? handles fuel (entriesTokens es ++ .blockEnd :: rest) =
      some (entryTrees es, rest) := by
  induction es generalizing fuel with
  | nil =>
    obtain ⟨fuel, rfl⟩ := Nat.exists_eq_add_of_lt enough
    rfl
  | cons e es ih =>
    obtain ⟨k, v⟩ := e
    obtain ⟨here, later⟩ := List.forall_mem_cons.mp each
    rw [entriesTokens, List.cons_append, List.cons_append, List.cons_append, List.length_cons,
      List.length_cons, List.length_cons, List.length_append] at enough
    obtain ⟨fuel, rfl⟩ : ∃ more, fuel = more + 2 := ⟨fuel - 2, by omega⟩
    let behind := valueTokens v ++ (entriesTokens es ++ .blockEnd :: rest)
    have key : blockNode? handles (fuel + 1) true [.key, .value, .blockEnd]
        (scalarToken k :: .value :: behind) = some (scalarTree k, .value :: behind) :=
      blockNode?_value (givesTree_scalar k) (by simp [valueTokens]; omega) true (by simp) _
    have node : blockNode? handles fuel true [.key, .value, .blockEnd] behind =
        some (valueTree v, entriesTokens es ++ .blockEnd :: rest) :=
      blockNode?_value here (by dsimp only; omega) true (by simp) _
    have value : blockValue? handles (fuel + 1) (.value :: behind) = _ := node
    have entries : blockEntries? handles (fuel + 1) (entriesTokens es ++ .blockEnd :: rest) = _ :=
      ih later (by omega)
    rw [entriesTokens, List.cons_append, List.cons_append, List.cons_append, List.cons_append,
      List.cons_append, List.cons_append, List.append_assoc, blockEntries?]
    simp only [behind] at key value
    simp [key, value, entries, entryTrees]

/-- The tokens of a value give its tree. -/
theorem givesTree (v : Value) : GivesTree handles v := by
  induction v using Value.byParts with
  | scalar s => exact givesTree_scalar s
  | list vs ih =>
    intro fuel listAllowed rest enough
    obtain ⟨fuel, rfl⟩ := exists_steps enough
    cases vs with
    | nil => rfl
    | cons v vs =>
      simp only [valueTokens, List.length_append, List.length_cons] at enough
      have items :
          blockItems? handles (fuel + 1) (itemsTokens (v :: vs) ++ .blockEnd :: rest) = _ :=
        blockItems?_items ih (by omega) rest
      simp [valueTokens, node?, readMarks?, items, valueTree]
  | mapping es ih =>
    intro fuel listAllowed rest enough
    obtain ⟨fuel, rfl⟩ := exists_steps enough
    cases es with
    | nil => rfl
    | cons e es =>
      simp only [valueTokens, List.length_append, List.length_cons] at enough
      have entries :
          blockEntries? handles (fuel + 1) (entriesTokens (e :: es) ++ .blockEnd :: rest) = _ :=
        blockEntries?_entries ih (by omega) rest
      simp [valueTokens, node?, readMarks?, entries, valueTree]

theorem ofTokens?_mapping (e : Scalar × Value) (es : Entries) :
    ofTokens? (valueTokens (.mapping (e :: es))) = some (valueTree (.mapping (e :: es))) := by
  have gives : GivesTree coreHandles (.mapping (e :: es)) := givesTree _
  have node := gives (stepsFor (valueTokens (.mapping (e :: es)))) false []
    (by rw [stepsFor]; omega)
  rw [List.append_nil] at node
  have first : valueTokens (.mapping (e :: es)) =
      .blockMappingStart :: (entriesTokens (e :: es) ++ [.blockEnd]) := by
    rw [valueTokens, List.cons_append]
  rw [first] at node ⊢
  simp [ofTokens?, node]

/-! ### Nodes without aliases -/

/-- Without anchors and aliases a tree stays as it is. -/
def Expands (t : Tree) : Prop :=
  ∀ anchors, expand? anchors t = some (t, anchors)

theorem expands_scalar (s : Scalar) : Expands (scalarTree s) := by
  intro anchors
  cases s <;> simp [scalarTree, expand?, openAnchor?, bindAnchor]

theorem expandItems?_items {vs : List Value} (each : ∀ v ∈ vs, Expands (valueTree v))
    (anchors : Anchors) : expandItems? anchors (itemTrees vs) = some (itemTrees vs, anchors) := by
  induction vs with
  | nil => simp [itemTrees, expandItems?]
  | cons v vs ih =>
    obtain ⟨here, later⟩ := List.forall_mem_cons.mp each
    simp [itemTrees, expandItems?, here anchors, ih later]

theorem expandEntries?_entries {es : Entries} (each : ∀ e ∈ es, Expands (valueTree e.2))
    (anchors : Anchors) :
    expandEntries? anchors (entryTrees es) = some (entryTrees es, anchors) := by
  induction es with
  | nil => simp [entryTrees, expandEntries?]
  | cons e es ih =>
    obtain ⟨here, later⟩ := List.forall_mem_cons.mp each
    simp [entryTrees, expandEntries?, expands_scalar e.1 anchors, here anchors, ih later]

theorem expands_valueTree (v : Value) : Expands (valueTree v) := by
  induction v using Value.byParts with
  | scalar s => exact expands_scalar s
  | list vs ih =>
    intro anchors
    simp [valueTree, expand?, openAnchor?, bindAnchor, expandItems?_items ih]
  | mapping es ih =>
    intro anchors
    simp [valueTree, expand?, openAnchor?, bindAnchor, expandEntries?_entries ih]

end Tree

/-! ### Values read back -/

def rereadScalar : Scalar → Scalar
  | .text t => .text (rereadText t)
  | s => s

mutual

/-- What written data is read back as: its texts are, and keys that become equal become one. -/
def reread : Value → Value
  | .scalar s => .scalar (rereadScalar s)
  | .list vs => .list (rereadItems vs)
  | .mapping es => .mapping (Entries.ofList (rereadEntries es))

def rereadItems : List Value → List Value
  | [] => []
  | v :: rest => reread v :: rereadItems rest

def rereadEntries : List (Scalar × Value) → List (Scalar × Value)
  | [] => []
  | (k, v) :: rest => (rereadScalar k, reread v) :: rereadEntries rest

end

theorem rereadItems_eq_map (vs : List Value) : rereadItems vs = vs.map reread := by
  induction vs with
  | nil => rfl
  | cons v rest ih => rw [rereadItems, ih, List.map_cons]

theorem rereadEntries_eq_map (es : Entries) :
    rereadEntries es = es.map fun e => (rereadScalar e.1, reread e.2) := by
  induction es with
  | nil => rfl
  | cons e rest ih => rw [rereadEntries, ih, List.map_cons]

namespace Tree

/-- A written scalar means what it is read back as. -/
theorem keyMeaning?_scalarTree {s : Scalar} (isPlain : s.IsPlain) :
    (scalarTree s).keyMeaning? = some (.scalar (rereadScalar s)) := by
  rcases s.text_or with ⟨t, rfl⟩ | noText
  · -- Without quotes a text means itself because it looks like nothing else.
    by_cases style : styleOf t.toList = .plain
    · have plainText := (styleOf_plain style).1
      rw [isPlainText, Option.isNone_iff_eq_none] at plainText
      simp [scalarTree, keyMeaning?, scalarMeaning?, style, plainMeaning, plainText, rereadText,
        rereadScalar]
    · simp [scalarTree, keyMeaning?, scalarMeaning?, style, rereadScalar]
  · have tree : scalarTree s = .scalar {} true (String.ofList (scalarChars 0 s)) ∧
        rereadScalar s = s := by
      cases s with
      | text t => exact absurd rfl (noText t)
      | _ => exact ⟨rfl, rfl⟩
    simp [tree, keyMeaning?, scalarMeaning?, plainMeaning, readPlain?_scalarChars isPlain noText]

theorem value_scalarTree {s : Scalar} (isPlain : s.IsPlain) :
    (scalarTree s).value = .ok (.scalar (rereadScalar s)) := by
  have meaning := keyMeaning?_scalarTree isPlain
  obtain ⟨plain, text, tree⟩ : ∃ plain text, scalarTree s = .scalar {} plain text := by
    cases s <;> exact ⟨_, _, rfl⟩
  rw [tree] at meaning ⊢
  rw [keyMeaning?] at meaning
  rw [value, meaning]
  rfl

theorem values_itemTrees {vs : List Value}
    (each : ∀ v ∈ vs, (valueTree v).value = .ok (reread v)) :
    values (itemTrees vs) = .ok (rereadItems vs) := by
  induction vs with
  | nil => rfl
  | cons v vs ih =>
    obtain ⟨here, later⟩ := List.forall_mem_cons.mp each
    rw [itemTrees, values, here, ih later]
    rfl

/-- No entry merges others in. -/
theorem parts_entryTrees {es : Entries} (keys : ∀ e ∈ es, e.1.IsPlain)
    (each : ∀ e ∈ es, (valueTree e.2).value = .ok (reread e.2)) :
    parts (entryTrees es) = .ok ([], rereadEntries es) := by
  induction es with
  | nil => rfl
  | cons e es ih =>
    obtain ⟨k, v⟩ := e
    obtain ⟨key, keys⟩ := List.forall_mem_cons.mp keys
    obtain ⟨here, later⟩ := List.forall_mem_cons.mp each
    have meaning := keyMeaning?_scalarTree key
    have name : (scalarTree k).key = .ok (rereadScalar k) := by
      rw [Tree.key, meaning]
      rfl
    rw [entryTrees, parts, meaning, if_neg (by simp), name, here, ih keys later]
    rfl

/-- The tree of plain data gives what the data is read back as. -/
theorem value_valueTree {v : Value} (isPlain : v.IsPlain) :
    (valueTree v).value = .ok (reread v) := by
  induction isPlain with
  | scalar isPlain => exact value_scalarTree isPlain
  | @list vs items ih =>
    rw [valueTree, value]
    simp [collectionName?, values_itemTrees ih, reread]
  | @mapping es labelled values ih =>
    have keys : ∀ e ∈ es, e.1.IsPlain := by
      intro e member
      obtain ⟨t, text⟩ := labelled.texts e.1 (List.mem_map_of_mem member)
      rw [text]
      trivial
    rw [valueTree, value]
    simp [collectionName?, parts_entryTrees keys ih, reread]

end Tree

/-! ### Data read back as itself -/

theorem rereadScalar_eq_self_iff {s : Scalar} (clean : Sanitize.IsClean s) :
    rereadScalar s = s ↔ Unfolded s := by
  cases s with
  | text t => rw [rereadScalar, Scalar.text.injEq, rereadText_eq_self_iff clean]
  | _ => exact iff_of_true rfl trivial

theorem unfolded_rereadScalar (s : Scalar) : Unfolded (rereadScalar s) := by
  cases s with
  | text t => exact unfolded_rereadText t
  | _ => trivial

/-- The keys of a mapping are among those of the entries it is made of. -/
theorem key_mem_of_mem_merge {e : Scalar × Value} {done more : Entries}
    (member : e ∈ done.merge more) : e.1 ∈ done.map Prod.fst ∨ e.1 ∈ more.map Prod.fst := by
  induction more generalizing done with
  | nil => exact .inl (List.mem_map_of_mem member)
  | cons first rest ih =>
    obtain ⟨k, v⟩ := first
    rw [Entries.merge_cons] at member
    rcases ih member with before | later
    · obtain ⟨e', there, same⟩ := List.mem_map.mp before
      rcases Entries.mem_put there with old | ⟨-, new | old⟩
      · exact .inl (same ▸ List.mem_map_of_mem old)
      · exact .inr (List.mem_cons.mpr (.inl (same ▸ new)))
      · exact .inl (same ▸ old)
    · exact .inr (List.mem_cons_of_mem k later)

theorem map_eq_self_iff {α : Type} (f : α → α) (xs : List α) :
    xs.map f = xs ↔ ∀ x ∈ xs, f x = x := by
  conv_lhs => rhs; rw [← List.map_id xs]
  exact List.map_inj_left

/-- With keys read back as themselves the entries stay apart. -/
theorem ofList_reread {es : Entries} (labelled : Entries.Labelled es)
    (kept : ∀ e ∈ es, rereadScalar e.1 = e.1) :
    Entries.ofList (es.map fun e => (rereadScalar e.1, reread e.2)) =
      es.map fun e => (e.1, reread e.2) := by
  have same : (es.map fun e => (rereadScalar e.1, reread e.2)) =
      es.map fun e => (e.1, reread e.2) :=
    List.map_congr_left fun e member => by rw [kept e member]
  have names : (es.map fun e => (e.1, reread e.2)).map Prod.fst = es.map Prod.fst := by
    rw [List.map_map]
    rfl
  rw [same]
  refine Entries.Labelled.merge_nil ⟨?_, ?_⟩
  · exact names ▸ labelled.texts
  · exact names ▸ labelled.distinct

/-- The keys of entries that come back are among those read back, and none of these is folded once
more. -/
theorem unfolded_keys_of_reread {es : Entries}
    (same : Entries.ofList (es.map fun e => (rereadScalar e.1, reread e.2)) = es) :
    ∀ e ∈ es, Unfolded e.1 := by
  intro e member
  rw [← same] at member
  rcases key_mem_of_mem_merge member with none | there
  · cases none
  · simp only [List.map_map, List.mem_map, Function.comp_apply] at there
    obtain ⟨e', -, eq⟩ := there
    exact eq ▸ unfolded_rereadScalar e'.1

/-- Where nothing is folded, and only there, plain data is read back as itself. -/
theorem reread_eq_self_iff {v : Value} (isPlain : v.IsPlain)
    (clean : v.Throughout Sanitize.IsClean Sanitize.IsClean) :
    reread v = v ↔ v.Throughout Unfolded Unfolded := by
  induction isPlain with
  | scalar isPlain =>
    rw [Value.throughout_scalar] at clean ⊢
    rw [reread, Value.scalar.injEq, rereadScalar_eq_self_iff clean]
  | @list vs items ih =>
    rw [Value.throughout_list] at clean ⊢
    rw [reread, Value.list.injEq, rereadItems_eq_map, map_eq_self_iff]
    exact forall₂_congr fun v member => ih v member (clean v member)
  | @mapping es labelled values ih =>
    rw [Value.throughout_mapping] at clean ⊢
    rw [reread, Value.mapping.injEq, rereadEntries_eq_map]
    have values (e : Scalar × Value) (member : e ∈ es) := ih e member (clean.2 e member)
    have apart (unfolded : ∀ e ∈ es, Unfolded e.1) := ofList_reread labelled fun e member =>
      (rereadScalar_eq_self_iff (clean.1 e member)).mpr (unfolded e member)
    constructor
    · intro same
      have unfolded := unfolded_keys_of_reread same
      rw [apart unfolded, map_eq_self_iff] at same
      exact ⟨unfolded, fun e member =>
        (values e member).mp (congrArg Prod.snd (same e member))⟩
    · rintro ⟨unfolded, kept⟩
      rw [apart unfolded, map_eq_self_iff]
      exact fun e member => by rw [(values e member).mpr (kept e member)]

/-! ### Texts -/

/-- Data that YAML text carries: its keys are recognised, and no text of it is folded. -/
structure IsCarried (v : Value) : Prop where
  recognised : KeysRecognised v
  unfolded : v.Throughout Unfolded Unfolded

instance (v : Value) : Decidable (IsCarried v) :=
  decidable_of_iff (KeysRecognised v ∧ v.Throughout Unfolded Unfolded)
    ⟨fun ⟨recognised, unfolded⟩ => ⟨recognised, unfolded⟩,
      fun ⟨recognised, unfolded⟩ => ⟨recognised, unfolded⟩⟩

/-- The text of a mapping is read when its keys are recognised, and is malformed otherwise. -/
theorem read_render {e : Scalar × Value} {es : Entries}
    (isPlain : (Value.mapping (e :: es)).IsPlain)
    (clean : (Value.mapping (e :: es)).Throughout Sanitize.IsClean Sanitize.IsClean) :
    read (render (.mapping (e :: es))) = if KeysRecognised (.mapping (e :: es)) then
      .ok (reread (.mapping (e :: es))) else .error .malformed := by
  have written : (Value.mapping (e :: es)).Throughout TextKey Legible := by
    refine (isPlain.throughout clean).imp ?_ ?_
    · rintro k ⟨⟨t, rfl⟩, clean⟩
      exact ⟨⟨trivial, clean⟩, ⟨t, rfl⟩⟩
    · exact fun s ⟨isPlain, clean⟩ => ⟨isPlain, clean⟩
  rw [read, readTree?]
  split_ifs with recognised
  · have legible : (Value.mapping (e :: es)).Throughout LegibleKey Legible :=
      (written.and recognised).imp (fun _ ⟨written, here⟩ => ⟨written, here⟩) fun _ => And.left
    rw [tokens?_render legible, Option.bind_eq_bind, Option.bind_some,
      Tree.ofTokens?_mapping]
    simp [Tree.expands_valueTree _ [], Tree.value_valueTree isPlain]
  · rw [tokens?_unrecognised written recognised]
    rfl

end GatewayFlow.Yaml

namespace GatewayFlow.Document

theorem read_yaml (d : Document) : Yaml.read (d.serialize .yaml) =
    if Yaml.KeysRecognised d.rendered then .ok (Yaml.reread d.rendered) else .error .malformed := by
  have isPlain := d.isPlain_rendered
  have clean := d.isClean_rendered
  rw [d.rendered_eq] at isPlain clean ⊢
  have read := Yaml.read_render isPlain clean
  rwa [← d.rendered_eq] at read ⊢

/-- The YAML text of a document is read back as its sanitized data exactly when no text holds
U+0085 between single quotes and no key in front of its colon is written too long. -/
theorem yaml_reads_back_iff (d : Document) :
    Yaml.read (d.serialize .yaml) = .ok (Sanitize.value d.toValue) ↔
      Yaml.IsCarried d.rendered := by
  rw [read_yaml]
  split_ifs with recognised
  · rw [Except.ok.injEq]
    have same : Yaml.reread d.rendered = d.rendered ↔ _ :=
      Yaml.reread_eq_self_iff d.isPlain_rendered d.isClean_rendered
    exact same.trans ⟨fun unfolded => ⟨recognised, unfolded⟩, Yaml.IsCarried.unfolded⟩
  · exact iff_of_false nofun fun carried => recognised carried.recognised

/-- A document whose texts take every style, one with U+0085 between double quotes. -/
def styledDocument : Document where
  plugins := [{
    name := "cors"
    config := some [("yes", .list [.text "1", .int 1, .list [], .text "a\x85 b"])] }]

example : Yaml.IsCarried styledDocument.rendered := by decide +kernel

/-- Between single quotes U+0085 is folded. -/
example : ¬Yaml.IsCarried ({ formatVersion := "a\x85b" } : Document).rendered := by decide +kernel

/-- A document with one plugin, which has one option. -/
def optionDocument (option : String) : Document where
  plugins := [{ name := "cors", config := some [(option, .int 1)] }]

theorem rendered_optionDocument (option : String) : (optionDocument option).rendered =
    .mapping [(.text "_format_version", .text (Sanitize.text "3.0")),
      (.text "plugins", .list [.mapping [(.text "name", .text (Sanitize.text "cors")),
        (.text "enabled", .bool true),
        (.text "config", .mapping [(.text (Sanitize.text option), .int 1)])]])] := by
  have names : Sanitize.text "name" = "name" ∧ Sanitize.text "enabled" = "enabled" ∧
      Sanitize.text "config" = "config" := by decide +kernel
  rw [rendered_sections]
  simp [renderedSections, presentSections, allSections, optionDocument, PluginEntry.toValue,
    Attributes.entry, Config.toValue, Value.record, Value.plain, Value.plainEntries, Scalar.plain,
    Scalar.agrees, Entries.put, Sanitize.value, Sanitize.entries, Sanitize.scalar, names,
    Value.text, Value.int, Value.bool, Value.keyText_text]

/-- A key of 104 characters, of which 103 are escaped with ten characters each. -/
def wideKey : List Char :=
  List.replicate 103 (.ofNat 0x1F600) ++ ['\x80']

/-- The text of a document with a key that is written too long is malformed. -/
theorem yaml_loses_wide_key : ¬∀ d : Document,
    Yaml.read (d.serialize .yaml) = .ok (Sanitize.value d.toValue) := by
  intro all
  have unrecognised : ¬Yaml.Recognised (.text (Sanitize.text (String.ofList wideKey))) := by
    rw [Yaml.Recognised, Yaml.isSimpleKey, Value.keyText_text, Yaml.scalarChars, Sanitize.text,
      String.toList_ofList, String.toList_ofList]
    decide +kernel
  have lost : ¬Yaml.KeysRecognised (optionDocument (String.ofList wideKey)).rendered := by
    simp [rendered_optionDocument, Yaml.KeysRecognised, Value.throughout_mapping,
      Value.throughout_list, unrecognised]
  have read := all (optionDocument (String.ofList wideKey))
  rw [read_yaml, if_neg lost] at read
  cases read

end GatewayFlow.Document
