import GatewayFlow.Node
import GatewayFlow.Edge

/-!
# Flows

A flow is a list of nodes with distinct ids and a list of edges. Edges may name ids that no node
has.
-/
namespace GatewayFlow

structure Flow where
  nodes : List Node
  edges : List Edge
  distinct : (nodes.map Node.id).Nodup
deriving Repr

namespace Flow

def repeatedId? : List String → List String → Option String
  | _, [] => none
  | seen, id :: rest => if seen.contains id then some id else repeatedId? (id :: seen) rest

/-- Nodes that no two share an id, with the proof. -/
def distinctNodes (nodes : List Node) : Reading { ns : List Node // (ns.map Node.id).Nodup } :=
  if h : (nodes.map Node.id).Nodup then .value ⟨nodes, h⟩
  else
    let repeated := (repeatedId? [] (nodes.map Node.id)).getD ""
    .fail (.refused s!"duplicate node id {Text.quoted repeated}")

/-- The flow of nodes and edges, when no id is used twice. -/
def ofParts (nodes : List Node) (edges : List Edge) : Reading Flow :=
  ((distinctNodes nodes).within (.field "nodes")).map fun ns => ⟨ns.1, edges, ns.2⟩

def empty : Flow := ⟨[], [], by simp⟩

/-- Nodes with distinct ids; ids are compared once every node is read. -/
def readNodes : Value → Reading { ns : List Node // (ns.map Node.id).Nodup }
  | .list items => (Reading.atPositions Node.read 0 items).andThen distinctNodes
  | _ => .fail .notList

def readEdges : Value → Reading (List Edge)
  | .list items => .atPositions Edge.read 0 items
  | _ => .fail .notList

/-- The flow of a mapping with nodes and edges. -/
def read : Value → Reading Flow
  | .mapping entries =>
    (fun ns edges => (⟨ns.1, edges, ns.2⟩ : Flow))
      <$> Field.withDefault entries "nodes" ⟨[], by simp⟩ readNodes
      <*> Field.withDefault entries "edges" [] readEdges
  | _ => .fail (.notRecord "Graph")

def node? (f : Flow) (id : String) : Option Node :=
  f.nodes.find? fun n => n.id == id

/-- The edges that leave a node, in order. -/
def outgoing (f : Flow) (id : String) : List Edge :=
  f.edges.filter fun e => e.source == id

def nodesOfKind (f : Flow) (kind : Kind) : List Node :=
  f.nodes.filter fun n => n.kind == kind

def toValue (f : Flow) : Value :=
  .record [("nodes", .list (f.nodes.map Node.toValue)), ("edges", .list (f.edges.map Edge.toValue))]

def agrees (f g : Flow) : Bool :=
  let attributes (n : Node) : Value := .mapping n.attributes.entries
  f.nodes.length == g.nodes.length && f.edges == g.edges &&
    (f.nodes.zip g.nodes).all fun (m, n) =>
      m.id == n.id && m.kind == n.kind && (attributes m).agrees (attributes n)

end Flow
end GatewayFlow
