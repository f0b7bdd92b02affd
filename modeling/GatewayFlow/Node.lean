import GatewayFlow.Attributes

/-!
# Nodes

A node of a flow: an id that is not empty, and the attributes of its kind.
-/
namespace GatewayFlow

structure Node where
  id : String
  attributes : Attributes
  id_nonempty : id ≠ ""
deriving Repr

namespace Node

def kind (n : Node) : Kind :=
  n.attributes.kind

/-- The configured name, or the id where there is none. -/
def displayName (n : Node) : String :=
  givenOr n.attributes.name? n.id

/-- The node of an id and raw attributes, once its kind is known. -/
def readKnown (kind : Kind) (entries : Entries) : Reading Node :=
  let id := Field.required entries "id" Field.readName
  let attributes := Field.required entries "attributes" (Attributes.read kind)
  ((fun id attributes => ⟨id.1, attributes, id.2⟩ : { id : String // id ≠ "" } → Attributes → Node)
    <$> id <*> attributes).within (.field kind.name)

/-- Absent attributes are the same as none at all. -/
def withAttributes (entries : Entries) : Entries :=
  match entries.get? "attributes" with
  | some _ => entries
  | none => entries ++ [(.text "attributes", .mapping [])]

/-- The node of a mapping; its `kind` decides how the attributes are read. -/
def read : Value → Reading Node
  | .mapping entries =>
    match Entries.get? "kind" entries with
    | none => .fail .noTag
    | some tag =>
      match Kind.ofValue? tag with
      | none => .fail (.unknownTag tag.display)
      | some kind => readKnown kind (withAttributes entries)
  | _ => .fail .notFields

/-- The node of a kind with an id and attributes; void attributes are none. -/
def build (kind : Kind) (id attributes : Value) : Reading Node :=
  let attributes := if attributes.isVoid then .mapping [] else attributes
  readKnown kind [(.text "id", id), (.text "attributes", attributes)]

def toValue (n : Node) : Value :=
  .record [("id", .text n.id), ("kind", .text n.kind.name),
    ("attributes", (Value.mapping n.attributes.entries).plain)]

end Node
end GatewayFlow
