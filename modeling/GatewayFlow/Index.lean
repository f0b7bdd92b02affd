import GatewayFlow.Flow

/-!
# Flow index

The tables through which edges are resolved: the nodes by id and the edges by the id they leave.
Where two nodes share an id the later one is found.
-/
namespace GatewayFlow

structure Index where
  nodes : List (String × Node)
  outgoing : List (String × List Edge)
deriving Repr

namespace Index

/-- Writes a node under its id, in place of one that is there. -/
def putNode (n : Node) : List (String × Node) → List (String × Node)
  | [] => [(n.id, n)]
  | (id, m) :: rest => if id = n.id then (id, n) :: rest else (id, m) :: putNode n rest

/-- Adds an edge at the end of the group of its source. -/
def putEdge (e : Edge) : List (String × List Edge) → List (String × List Edge)
  | [] => [(e.source, [e])]
  | (id, group) :: rest =>
    if id = e.source then (id, group ++ [e]) :: rest else (id, group) :: putEdge e rest

def build (nodes : List Node) (edges : List Edge) : Index where
  nodes := nodes.foldl (fun table n => putNode n table) []
  outgoing := edges.foldl (fun table e => putEdge e table) []

def node? (index : Index) (id : String) : Option Node :=
  index.nodes.lookup id

def edgesFrom (index : Index) (id : String) : List Edge :=
  (index.outgoing.lookup id).getD []

def kindOf? (index : Index) (id : String) : Option Kind :=
  (index.node? id).map Node.kind

end Index

/-- The nodes of a flow under their ids. -/
def Flow.nodeIndex (f : Flow) : List (String × Node) :=
  f.nodes.foldl (fun table n => Index.putNode n table) []

end GatewayFlow
