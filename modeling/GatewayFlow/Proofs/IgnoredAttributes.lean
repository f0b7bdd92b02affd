import GatewayFlow.Proofs.SurplusEntries

/-!
# Attributes that do not count

A saved flow may hold attributes that a node's kind does not define, and null ones. Taking them out
of the flow, in whichever shape a node has, changes nothing about the outcome of loading: the same
flow or the same failure, with the same issues. So no issue is ever that an entry was not expected.
-/
namespace GatewayFlow

/-! ### Changing one entry -/

namespace Entries

/-- The mapping in which the value under a text key is changed. -/
def modify (name : String) (f : Value → Value) (es : Entries) : Entries :=
  es.map fun e => if e.1 = .text name then (e.1, f e.2) else e

theorem get?_modify (name : String) (f : Value → Value) (es : Entries) :
    get? name (modify name f es) = (get? name es).map f := by
  induction es with
  | nil => rfl
  | cons e rest ih =>
    obtain ⟨k, v⟩ := e
    rw [modify] at ih ⊢
    by_cases here : k = .text name <;> simp [here, ih]

theorem get?_modify_of_ne {name other : String} (ne : name ≠ other) (f : Value → Value)
    (es : Entries) : get? other (modify name f es) = get? other es := by
  induction es with
  | nil => rfl
  | cons e rest ih =>
    obtain ⟨k, v⟩ := e
    rw [modify] at ih ⊢
    by_cases here : k = .text name
    · simp [here, ne, ih]
    · simp [here, ih]

end Entries

namespace SavedFlow

/-! ### Flows without the attributes that do not count -/

/-- Whether an attribute counts on a node of a kind: the kind defines it and it is not null. -/
def counts (kind : Value) (e : Scalar × Value) : Bool :=
  (Kind.ofValue? kind).any fun known => isKnown known e.1 && !e.2.isNull

def trimAttributes (kind : Value) : Value → Value
  | .mapping attributes => .mapping (attributes.filter (counts kind))
  | v => v

/-- The raw node with nothing but attributes that count, where its shape has them. -/
def trimNode : Value → Value
  | .mapping entries =>
    let trim := trimAttributes (kindAndAttributes entries).1
    match Entries.get? "data" entries with
    | some (.mapping data) =>
      let fewer := Value.mapping (Entries.modify "config" trim data)
      .mapping (Entries.modify "data" (fun _ => fewer) entries)
    | _ => .mapping (Entries.modify "attributes" trim entries)
  | raw => raw

def trimNodes : Value → Value
  | .list raws => .list (raws.map trimNode)
  | v => v

/-- The saved flow with nothing but attributes that count. -/
def trimmed : Value → Value
  | .mapping entries => .mapping (Entries.modify "nodes" trimNodes entries)
  | saved => saved

/-! ### Nodes -/

def RawNode.trimmed (parts : RawNode) : RawNode :=
  { parts with attributes := parts.attributes.filter (counts parts.kind) }

theorem getD_trimAttributes (kind : Value) (v? : Option Value) :
    (v?.map (trimAttributes kind)).getD .null = trimAttributes kind (v?.getD .null) := by
  cases v? <;> rfl

theorem kindAndAttributes_of_data {entries data : Entries}
    (found : Entries.get? "data" entries = some (.mapping data)) :
    kindAndAttributes entries =
      (firstOf "type" "type" data entries, (Entries.get? "config" data).getD .null) := by
  rw [kindAndAttributes, found]

theorem kindAndAttributes_of_flat {entries : Entries}
    (flat : ∀ data, Entries.get? "data" entries ≠ some (.mapping data)) :
    kindAndAttributes entries =
      (firstOf "kind" "type" entries entries, (Entries.get? "attributes" entries).getD .null) := by
  rw [kindAndAttributes]
  split
  next data found => exact absurd found (flat data)
  next => rfl

/-- Trimming changes the attributes of a node alone, in whichever shape it has them. -/
theorem trimNode_mapping (entries : Entries) :
    ∃ fewer, trimNode (.mapping entries) = .mapping fewer ∧
      Entries.get? "id" fewer = Entries.get? "id" entries ∧
      kindAndAttributes fewer = ((kindAndAttributes entries).1,
        trimAttributes (kindAndAttributes entries).1 (kindAndAttributes entries).2) := by
  rw [trimNode]
  split
  next data found =>
    refine ⟨_, rfl, Entries.get?_modify_of_ne (by decide) .., ?_⟩
    rw [kindAndAttributes_of_data (by rw [Entries.get?_modify, found, Option.map_some]),
      kindAndAttributes_of_data found, Entries.get?_modify, getD_trimAttributes]
    -- The kind stands in `data` or next to it, never under the keys that are changed.
    rw [firstOf, Entries.get?_modify_of_ne (by decide), Entries.get?_modify_of_ne (by decide),
      ← firstOf]
  next flat =>
    refine ⟨_, rfl, Entries.get?_modify_of_ne (by decide) .., ?_⟩
    have still : ∀ f data, Entries.get? "data" (Entries.modify "attributes" f entries) ≠
        some (.mapping data) := by
      intro f data
      rw [Entries.get?_modify_of_ne (by decide)]
      exact flat data
    rw [kindAndAttributes_of_flat (still _), kindAndAttributes_of_flat flat, Entries.get?_modify,
      getD_trimAttributes, firstOf, Entries.get?_modify_of_ne (by decide),
      Entries.get?_modify_of_ne (by decide), ← firstOf]

theorem attributesOf_trimAttributes (id : String) (kind attributes : Value) :
    attributesOf id (trimAttributes kind attributes) =
      (attributesOf id attributes).map (List.filter (counts kind)) := by
  cases attributes with
  | mapping own =>
    rw [trimAttributes, attributesOf_mapping, attributesOf_mapping]
    rfl
  | _ =>
    unfold attributesOf trimAttributes
    dsimp only
    split <;> rfl

/-- A trimmed node is split like the node itself, or fails to be for the same cause. -/
theorem split_trimNode (position : Int) (raw : Value) :
    split position (trimNode raw) = (split position raw).map RawNode.trimmed := by
  cases raw with
  | mapping entries =>
    obtain ⟨fewer, eq, named, parts⟩ := trimNode_mapping entries
    rw [eq, split_mapping, split_mapping, parts, rawId?, named, ← rawId?]
    cases rawId? entries with
    | none => rfl
    | some id =>
      dsimp only
      rw [attributesOf_trimAttributes]
      cases attributesOf id (kindAndAttributes entries).2 <;> rfl
  | _ => rfl

theorem kept_filter_counts {kind : Value} {known : Kind} (named : Kind.ofValue? kind = some known)
    (own : Entries) : kept known (own.filter (counts kind)) = kept known own := by
  rw [kept, kept, List.filter_filter]
  refine List.filter_congr fun e _ => ?_
  rw [counts, named, Option.any_some, Bool.and_self]

theorem nodeOf_trimmed (parts : RawNode) : nodeOf parts.trimmed = nodeOf parts := by
  rw [nodeOf, nodeOf]
  cases named : Kind.ofValue? parts.kind with
  | none => simp [RawNode.trimmed, named]
  | some kind => simp [RawNode.trimmed, named, kept_filter_counts named]

theorem loadNode_trimNode {raw : Value} (isJson : raw.IsJson) (position : Int) :
    (loadNode (trimNode raw) position).result = (loadNode raw position).result := by
  have texts : ∀ parts, split position raw = .ok parts →
      ∀ e ∈ parts.attributes, ∃ s, e.1 = .text s :=
    fun parts parted => (split_isJson isJson parted).2
  rw [result_loadNode texts, result_loadNode, split_trimNode]
  · cases split position raw with
    | error cause => rfl
    | ok parts => exact nodeOf_trimmed parts
  · -- The keys of the attributes that are left are among those that were there.
    intro fewer parted e member
    rw [split_trimNode, map_eq_ok] at parted
    obtain ⟨parts, parted, rfl⟩ := parted
    exact texts parts parted e (List.mem_of_mem_filter member)

/-- By induction on the raw nodes, at whatever position the first one is. -/
theorem loadNodes_trimNode {raws : List Value} (isJson : ∀ raw ∈ raws, raw.IsJson) (i : Nat) :
    (loadNodes i (raws.map trimNode)).result = (loadNodes i raws).result := by
  induction raws generalizing i with
  | nil => rfl
  | cons raw rest ih =>
    obtain ⟨first, others⟩ := List.forall_mem_cons.mp isJson
    simp only [List.map_cons, loadNodes, Logged.result_bind, loadNode_trimNode first, ih others]

/-! ### Flows -/

/-- The members of a mapping or of a text are texts, which have no attributes. -/
theorem members_trimNodes (v : Value) :
    members (trimNodes v) = (members v).map (List.map trimNode) := by
  cases v with
  | list raws => cases raws <;> rfl
  | mapping entries =>
    cases entries with
    | nil => rfl
    | cons e rest => simp [trimNodes, members, Value.isVoid, Except.map, trimNode]
  | scalar s =>
    unfold trimNodes members
    dsimp only
    split
    · rfl
    · cases s <;> simp [Except.map, trimNode]

theorem load_trimmed {saved : Value} (isJson : saved.IsJson) :
    (load (trimmed saved)).result = (load saved).result := by
  cases saved with
  | mapping entries =>
    have nodesJson : ((Entries.get? "nodes" entries).getD .null).IsJson :=
      Value.isJson_getD fun v found => isJson.of_get? found
    have nodes : (Entries.get? "nodes" (Entries.modify "nodes" trimNodes entries)).getD .null =
        trimNodes ((Entries.get? "nodes" entries).getD .null) := by
      rw [Entries.get?_modify]
      cases Entries.get? "nodes" entries <;> rfl
    rw [trimmed, load, load]
    simp only [Logged.result_bind, Logged.result_quiet, nodes, members_trimNodes,
      Entries.get?_modify_of_ne (show "nodes" ≠ "edges" by decide)]
    cases listed : members ((Entries.get? "nodes" entries).getD .null) with
    | error failure => rfl
    | ok raws =>
      rw [Except.map, ok_bind, ok_bind, loadNodes_trimNode (members_isJson nodesJson listed)]
  | _ => rfl

/-- Whatever the two flows hold besides, they load to the same. -/
theorem load_of_trimmed_eq {saved other : Value} (isJson : saved.IsJson) (otherJson : other.IsJson)
    (same : trimmed saved = trimmed other) : (load saved).result = (load other).result := by
  rw [← load_trimmed isJson, same, load_trimmed otherJson]

end SavedFlow

open SavedFlow in
/-- Attributes that the kind of their node does not define and null attributes have no influence on
a load of JSON data: without them it has the same outcome, the same flow or the same failure with
the same issues. So two flows that only differ in such attributes load to the same. And whatever is
loaded, no issue is that an attribute was not expected. -/
theorem load_ignores_attributes (saved : Value) :
    (saved.IsJson → (load (trimmed saved)).result = (load saved).result ∧
      ∀ other, other.IsJson → trimmed other = trimmed saved →
        (load other).result = (load saved).result) ∧
    ∀ cause, (load saved).result = .error (.load cause) →
      ∀ found ∈ cause.issues?, ∀ issue ∈ found, issue.cause ≠ .unexpected := by
  refine ⟨fun isJson => ⟨load_trimmed isJson, fun other otherJson same => ?_⟩,
    fun cause failed => load_noSurplus failed⟩
  exact load_of_trimmed_eq otherJson isJson same

/-- A service with its attributes inside `data` and a route with its own on the spot. Each has an
attribute that its kind does not define and one that is null. -/
def cluttered : Value :=
  .record [("nodes", .list [
    .record [("id", .text "s"), ("data", .record [("type", .text "service"),
      ("config", .record [("tags", .texts ["team-a"]), ("host", .text "s.local"),
        ("path", .null)])])],
    .record [("id", .text "r"), ("kind", .text "route"),
      ("attributes", .record [("hosts", .null), ("name", .text "r"), ("weight", .int 1)])]])]

def uncluttered : Value :=
  .record [("nodes", .list [
    .record [("id", .text "s"), ("data", .record [("type", .text "service"),
      ("config", .record [("host", .text "s.local")])])],
    .record [("id", .text "r"), ("kind", .text "route"),
      ("attributes", .record [("name", .text "r")])]])]

/-- An attribute of the wrong type next to one that the kind does not define. -/
def mistyped : Value :=
  .record [("nodes", .list [
    .record [("id", .text "s"), ("kind", .text "service"),
      ("attributes", .record [("tags", .null), ("port", .texts [])])]])]

open SavedFlow in
theorem load_ignores_attributes_of_cluttered :
    cluttered.IsJson ∧ trimmed cluttered = uncluttered ∧
      (load uncluttered).result = (load cluttered).result ∧
      (∃ f, (load cluttered).result = .ok f ∧
        f.nodes = [⟨"s", .service { host := some "s.local" }, by decide⟩,
          ⟨"r", .route { name := some "r" }, by decide⟩]) ∧
      ∃ found, (load mistyped).result = .error (.load (.node "s" found)) ∧
        found = [⟨.notInteger, [.field "service", .field "attributes", .field "port"]⟩] ∧
        ∀ issue ∈ found, issue.cause ≠ .unexpected := by
  have isJson : cluttered.IsJson := by
    simp [cluttered, Value.record, Value.texts, Value.IsJson, Scalar.IsJson]
  have trim : trimmed cluttered = uncluttered := rfl
  refine ⟨isJson, trim, trim ▸ ((load_ignores_attributes cluttered).1 isJson).1, ⟨_, rfl, rfl⟩,
    _, rfl, rfl, (load_ignores_attributes mistyped).2 _ rfl _ rfl⟩

end GatewayFlow
