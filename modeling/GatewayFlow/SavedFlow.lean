import GatewayFlow.Failure
import GatewayFlow.Flow
import GatewayFlow.Log

/-!
# Saved flows

A saved flow is a loosely typed mapping. A node comes in one of two shapes, with its kind and
attributes on the spot or inside `data`; an edge names its anchors in one of two ways. Attributes
that the kind does not define are dropped with a warning and null ones silently, and of several
edges between the same two nodes only the first is kept.
-/
namespace GatewayFlow.SavedFlow

def scalarType : Scalar → String
  | .null => "NoneType"
  | .bool _ => "bool"
  | .int _ => "int"
  | .float _ => "float"
  | .text _ => "str"
  | .date _ => "datetime.date"
  | .instant _ => "datetime.datetime"

/-- The place of a number in order; the undefined double has none. -/
def numberBelow (s t : Scalar) : Option Bool :=
  let units : Scalar → Option Int
    | .bool b => some (if b then Double.unitsPerOne else 0)
    | .int i => some (i * Double.unitsPerOne)
    | .float x@(.finite ..) => some x.signedUnits
    | _ => none
  let extreme : Scalar → Option Int
    | .float (.infinite negative) => some (if negative then -1 else 1)
    | .bool _ | .int _ | .float (.finite ..) => some 0
    | _ => none
  let isNumber : Scalar → Bool
    | .bool _ | .int _ | .float _ => true
    | _ => false
  if isNumber s && isNumber t then
    match extreme s, extreme t with
    | some i, some j =>
      -- Infinities lie beyond all others, which are compared in exact units.
      if i = 0 ∧ j = 0 then some ((units s).getD 0 < (units t).getD 0) else some (i < j)
    | _, _ => some false
  else none

/-- Whether one key comes before another; only texts and numbers have an order among themselves. -/
def keyBelow (s t : Scalar) : Except Failure Bool :=
  match s, t with
  | .text a, .text b => .ok (a < b)
  | s, t =>
    match numberBelow s t with
    | some below => .ok below
    | none => .error (.unsortableKeys (scalarType s) (scalarType t))

/-- Inserts a key behind those that are not above it, looking in the middle first. -/
def insertKey (fuel : Nat) (k : Scalar) (before between after : List Scalar) :
    Except Failure (List Scalar) :=
  match fuel with
  | 0 => .ok (before ++ k :: (between ++ after))
  | fuel + 1 =>
    let half := between.length / 2
    match between.drop half with
    | [] => .ok (before ++ k :: after)
    | middle :: rest => do
      if ← keyBelow k middle then
        insertKey fuel k before (between.take half) (middle :: (rest ++ after))
      else insertKey fuel k (before ++ (between.take half ++ [middle])) rest after

/-- Keys in order: the second is compared with the first, and each further one is put in place. -/
def sortKeys (keys : List Scalar) : Except Failure (List Scalar) :=
  keys.foldlM (fun done k => insertKey (done.length + 1) k [] done []) []

/-- Keys joined by commas; every key has to be a text. -/
def joinKeys (keys : List Scalar) : Except Failure String :=
  let rec names : Nat → List Scalar → Except Failure (List String)
    | _, [] => .ok []
    | i, .text s :: rest => (names (i + 1) rest).map (s :: ·)
    | i, k :: _ => .error (.unjoinableKey i (scalarType k))
  (names 0 keys).map ", ".intercalate

/-- The parts of a raw node: its id, its kind and its attributes. -/
structure RawNode where
  id : String
  kind : Value
  attributes : Entries

/-- The value of a key, or else the value of another. -/
def firstOf (name other : String) (entries others : Entries) : Value :=
  ((entries.get? name).or (others.get? other)).getD .null

/-- Kind and attributes, on the spot or inside `data`. -/
def kindAndAttributes (entries : Entries) : Value × Value :=
  match entries.get? "data" with
  | some (.mapping data) =>
    (firstOf "type" "type" data entries, (Entries.get? "config" data).getD .null)
  | _ => (firstOf "kind" "type" entries entries, (entries.get? "attributes").getD .null)

def split (position : Int) : Value → Except LoadFailure RawNode
  | .mapping entries =>
    match Entries.get? "id" entries with
    | some (.text id) =>
      if id.isEmpty then .error (.nodeWithoutId position)
      else
        let (kind, attributes) := kindAndAttributes entries
        -- Whatever is void counts as no attributes, an empty text or zero as well.
        if attributes.isVoid then .ok ⟨id, kind, []⟩
        else
          match attributes with
          | .mapping attributes => .ok ⟨id, kind, attributes⟩
          | _ => .error (.attributesNotMapping id)
    | _ => .error (.nodeWithoutId position)
  | _ => .error (.nodeNotMapping position)

/-- Whether a key is the name of an attribute of the kind. -/
def isKnown (kind : Kind) (k : Scalar) : Bool :=
  kind.attributeNames.any fun name => k == .text name

/-- The warning about attributes that the kind does not define. -/
def dropLines (kind : Kind) (raw : RawNode) : Except Failure (List LogLine) := do
  let dropped ← sortKeys ((raw.attributes.map Prod.fst).filter fun k => !isKnown kind k)
  if dropped.isEmpty then pure []
  else
    let names ← joinKeys dropped
    pure [⟨.warning, .loading,
      s!"Dropping unsupported {kind.name} attribute(s) on node {Text.quoted raw.id}: {names}"⟩]

/-- The attributes that count: those that the kind defines, except null ones. -/
def kept (kind : Kind) (attributes : Entries) : Entries :=
  attributes.filter fun entry => isKnown kind entry.1 && !entry.2.isNull

def loadNode (raw : Value) (position : Int) : Logged Failure Node := do
  let raw ← Logged.quiet ((split position raw).mapError Failure.load)
  match Kind.ofValue? raw.kind with
  | none => Logged.fail (.load (.unknownKind raw.kind raw.id))
  | some kind =>
    let lines ← Logged.quiet (dropLines kind raw)
    let node := Node.build kind (.text raw.id) (.mapping (kept kind raw.attributes))
    Logged.mk lines (node.toExcept.mapError fun issues => .load (.node raw.id issues))

/-- The edge of a raw one; an id that was saved with it does not count. -/
def loadEdge (raw : Value) (position : Int) : Except Failure Edge :=
  match raw with
  | .mapping entries =>
    let field (name : String) : Value := (Entries.get? name entries).getD .null
    (Edge.build (field "source") (field "target")
      (firstOf "source_anchor" "sourceHandle" entries entries)
      (firstOf "target_anchor" "targetHandle" entries entries)).toExcept.mapError
        fun issues => .load (.edge position issues)
  | _ => .error (.load (.edgeNotMapping position))

/-- The members of a raw list; a mapping stands for its keys and a text for its characters. -/
def members (v : Value) : Except Failure (List Value) :=
  if v.isVoid then .ok []
  else
    match v with
    | .list items => .ok items
    | .mapping entries => .ok (entries.map fun entry => .scalar entry.1)
    | .text s => .ok (s.toList.map fun c => .text c.toString)
    | .scalar s => .error (.notIterable (scalarType s))

def loadNodes : Nat → List Value → Logged Failure (List Node)
  | _, [] => pure []
  | i, raw :: rest => do
    let node ← loadNode raw i
    let nodes ← loadNodes (i + 1) rest
    pure (node :: nodes)

/-- The edges of a list of raw ones, without those between two nodes that an earlier one joins. -/
def loadEdges (seen : List (String × String)) : Nat → List Value → Logged Failure (List Edge)
  | _, [] => pure []
  | i, raw :: rest => do
    let edge ← Logged.quiet (loadEdge raw i)
    let pair := (edge.source, edge.target)
    -- Edges are told apart by their ends alone; ids and anchors of the raw ones do not count.
    if seen.contains pair then
      Logged.note .warning .loading
        s!"Dropping duplicate connection {edge.source} -> {edge.target}"
      loadEdges seen (i + 1) rest
    else
      let edges ← loadEdges (pair :: seen) (i + 1) rest
      pure (edge :: edges)

def load (saved : Value) : Logged Failure Flow :=
  match saved with
  | .mapping entries => do
    let field (name : String) : Value := (Entries.get? name entries).getD .null
    let nodes ← loadNodes 0 (← Logged.quiet (members (field "nodes")))
    let edges ← loadEdges [] 0 (← Logged.quiet (members (field "edges")))
    let flow ← Logged.quiet ((Flow.ofParts nodes edges).toExcept.mapError
      fun issues => .load (.flow issues))
    Logged.note .debug .loading
      s!"Loaded flow with {flow.nodes.length} node(s) and {flow.edges.length} edge(s)"
    pure flow
  | _ => Logged.fail (.load .flowNotMapping)

end GatewayFlow.SavedFlow
