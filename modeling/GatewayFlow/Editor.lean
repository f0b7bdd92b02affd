import GatewayFlow.Catalog
import GatewayFlow.Connection
import GatewayFlow.Failure
import GatewayFlow.IdSource

/-!
# Editing a flow

The nodes and edges of one editing session, and the source of the ids of its new nodes. Every edge
passes the check of connections, and a node that is deleted takes the edges at it with it. An edit
that fails leaves nodes and edges as they were, and only the source of ids may have moved on; a
clearing alone has removed everything by the time the reset of the source can fail.
-/
namespace GatewayFlow

structure Editor (σ : Type) where
  nodes : List Node
  edges : List Edge
  ids : σ

/-- What an object answers when it is asked for the nodes and the edges of a flow; anything may be
handed in for one. -/
structure FlowLike where
  nodes : Except Raised (List Node)
  edges : Except Raised (List Edge)

def Flow.asGiven (f : Flow) : FlowLike :=
  ⟨.ok f.nodes, .ok f.edges⟩

/-- What an edit gives back when it succeeds. -/
inductive Reply
  | node (n : Node)
  | verdict (v : Verdict)
  | removed (any : Bool)
  | done

/-- One edit. Ids and anchors may be any value, and so may what is asked for as a kind. -/
inductive Edit
  | add (kind : Value) (attributes : Entries) (withDefaults : Bool) (pluginName : Value)
  | update (id : Value) (attributes : Entries)
  | delete (id : Value)
  | get (id : Value)
  | connect (source target sourceAnchor targetAnchor : Value)
  | disconnect (id : Value)
  | clear
  | load (flow : Flow)

namespace Editor

variable {σ : Type}

def empty (ids : σ) : Editor σ :=
  ⟨[], [], ids⟩

/-- Puts a flow in place of the nodes and edges. -/
def load (e : Editor σ) (f : Flow) : Editor σ :=
  { e with nodes := f.nodes, edges := f.edges }

/-- Puts what an object gives in place of the nodes, and then of the edges. -/
def loadFrom (e : Editor σ) (given : FlowLike) : Except Failure Unit × Editor σ :=
  match given.nodes with
  | .error exception => (.error (.raised exception), e)
  | .ok nodes =>
    match given.edges with
    | .error exception => (.error (.raised exception), { e with nodes })
    | .ok edges => (.ok (), { e with nodes, edges })

@[simp] theorem loadFrom_asGiven (e : Editor σ) (f : Flow) :
    e.loadFrom f.asGiven = (.ok (), e.load f) := rfl

/-- A new editor, with a flow to begin with or without nodes. -/
def start (ids : σ) : Option Flow → Editor σ
  | some f => (empty ids).load f
  | none => empty ids

def snapshot (e : Editor σ) : Reading Flow :=
  Flow.ofParts e.nodes e.edges

def find? (e : Editor σ) : Value → Option Node
  | .text id => e.nodes.find? fun n => n.id == id
  | _ => none

/-- The node of an id, or a failure. -/
def get (e : Editor σ) (id : Value) : Except Failure Node :=
  match e.find? id with
  | some n => .ok n
  | none => .error (.unknownNode id)

def takenIds (e : Editor σ) : List String :=
  (e.nodes.map Node.id).eraseDups

/-- The number of draws in which a source of different ids finds a free one. -/
def drawLimit (e : Editor σ) : Nat :=
  e.takenIds.length + 1

/-- An id for a new node, and the editor whose source has moved on. -/
def newId (source : IdSource σ) (e : Editor σ) (kind : Kind) : Except Failure String × Editor σ :=
  match source.drawFree e.takenIds kind e.drawLimit e.ids with
  | (.ok (some id), ids) => (.ok id, { e with ids })
  | (.ok none, ids) => (.error (.idsExhausted kind e.drawLimit), { e with ids })
  | (.error exception, ids) => (.error (.raised exception), { e with ids })

/-- What a new node starts from: the defaults of its kind unless they are declined, overridden by
the given attributes. -/
def startingAttributes (kind : Kind) (attributes : Entries) (withDefaults : Bool)
    (pluginName : Value) : Entries :=
  (if withDefaults then Catalog.defaults kind pluginName else []).merge attributes

def add (source : IdSource σ) (e : Editor σ) (kind : Value) (attributes : Entries)
    (withDefaults : Bool) (pluginName : Value) : Logged Failure Node × Editor σ :=
  match Kind.read kind with
  | .error failure => (.fail failure, e)
  | .ok kind =>
    match e.newId source kind with
    -- Draws that were made in vain are not taken back.
    | (.error failure, e) => (.fail failure, e)
    | (.ok id, e) =>
      let attributes := startingAttributes kind attributes withDefaults pluginName
      match (Node.build kind (.text id) (.mapping attributes)).orFail with
      | .error failure => (.fail failure, e)
      | .ok n =>
        (⟨[⟨.debug, .editing, s!"Added {kind.name} node {Text.quoted n.id}"⟩], .ok n⟩,
          { e with nodes := e.nodes ++ [n] })

def updated (n : Node) (attributes : Entries) : Except Failure Node :=
  (Node.build n.kind (.text n.id) (.mapping (n.attributes.entries.merge attributes))).orFail

/-- Writes attributes over those of a node; its kind and its id stay. -/
def update (e : Editor σ) (id : Value) (attributes : Entries) : Except Failure Node × Editor σ :=
  match e.get id with
  | .error failure => (.error failure, e)
  | .ok current =>
    match updated current attributes with
    | .error failure => (.error failure, e)
    | .ok n =>
      (.ok n, { e with nodes := e.nodes.map fun m => if m.id = current.id then n else m })

/-- The editor without a node and the edges at it. -/
def without (e : Editor σ) (id : String) : Editor σ :=
  { e with
    nodes := e.nodes.filter fun n => n.id != id
    edges := e.edges.filter fun edge => edge.source != id && edge.target != id }

def delete (e : Editor σ) (id : Value) : Logged Failure Unit × Editor σ :=
  match e.get id with
  | .error failure => (.fail failure, e)
  | .ok n =>
    let after := e.without n.id
    let count := e.edges.length - after.edges.length
    (.note .debug .editing s!"Deleted node {Text.quoted n.id} and {count} edge(s)", after)

/-- Adds an edge between two nodes where the check of connections allows it. -/
def connect (e : Editor σ) (source target sourceAnchor targetAnchor : Value) :
    Logged Failure Verdict × Editor σ :=
  let verdict := checkConnection (e.find? source) (e.find? target) e.edges
  match verdict.code with
  | some refusal =>
    let line := s!"Refused connection {source.display} -> {target.display}: {refusal.code}"
    (⟨[⟨.debug, .editing, line⟩], .ok verdict⟩, e)
  | none =>
    let lines := connectionLines (e.find? source) (e.find? target) e.edges
    -- An anchor that is no text is found out only here, after the check has passed.
    match (Edge.build source target sourceAnchor targetAnchor).orFail with
    | .error failure => (⟨lines, .error failure⟩, e)
    | .ok edge => (⟨lines, .ok verdict⟩, { e with edges := e.edges ++ [edge] })

/-- Whether a value is the id of an edge. -/
def isIdOf (id : Value) (edge : Edge) : Bool :=
  match id with
  | .text s => edge.id == s
  | _ => false

/-- Removes the edges of an id, and tells whether there were any. -/
def disconnect (e : Editor σ) (id : Value) : Bool × Editor σ :=
  (e.edges.any (isIdOf id), { e with edges := e.edges.filter fun edge => !isIdOf id edge })

/-- Removes everything and then starts the source of ids again; when that fails, everything is gone
all the same. -/
def clear (source : IdSource σ) (e : Editor σ) : Except Failure Unit × Editor σ :=
  let (result, ids) := source.reset e.ids
  (result.mapError .raised, empty ids)

def perform (source : IdSource σ) (e : Editor σ) : Edit → Logged Failure Reply × Editor σ
  | .add kind attributes withDefaults pluginName =>
    let (result, e) := e.add source kind attributes withDefaults pluginName
    (Reply.node <$> result, e)
  | .update id attributes =>
    let (result, e) := e.update id attributes
    (.quiet (result.map Reply.node), e)
  | .delete id =>
    let (result, e) := e.delete id
    ((fun _ => Reply.done) <$> result, e)
  | .get id => (.quiet ((e.get id).map Reply.node), e)
  | .connect source target sourceAnchor targetAnchor =>
    let (result, e) := e.connect source target sourceAnchor targetAnchor
    (Reply.verdict <$> result, e)
  | .disconnect id =>
    let (any, e) := e.disconnect id
    (pure (.removed any), e)
  | .clear =>
    let (result, e) := e.clear source
    (.quiet (result.map fun _ => .done), e)
  | .load flow => (pure .done, e.load flow)

/-- The editor after edits in turn, whether they succeed or not. -/
def run (source : IdSource σ) (e : Editor σ) (edits : List Edit) : Editor σ :=
  edits.foldl (fun e edit => (e.perform source edit).2) e

end Editor
end GatewayFlow
