import GatewayFlow.Field

/-!
# Edges

A directed connection between two different nodes. The anchors tell which handles it was drawn
between and mean nothing further. An edge without an id of its own gets one that its ends and
anchors determine.
-/
namespace GatewayFlow

structure Edge where
  id : String
  source : String
  target : String
  sourceAnchor : Option String := none
  targetAnchor : Option String := none
  source_nonempty : source ≠ ""
  target_nonempty : target ≠ ""
  source_ne_target : source ≠ target
deriving DecidableEq, Repr

namespace Edge

/-- The id of the connection between two ends; an anchor that is absent or empty is the default. -/
def idOf (source target : String) (sourceAnchor targetAnchor : Option String) : String :=
  source ++ "-" ++ givenOr sourceAnchor "default" ++ "-" ++ target ++ "-" ++
    givenOr targetAnchor "default"

/-- The two ends of an edge, the source first. -/
def ends (e : Edge) : String × String :=
  (e.source, e.target)

/-- The id that the ends and anchors of an edge determine. -/
def derivedId (e : Edge) : String :=
  idOf e.source e.target e.sourceAnchor e.targetAnchor

def anchorText (anchor : Value) : Option String :=
  if anchor.isVoid then none else some anchor.display

/-- The id of ends and anchors of any value. -/
def idOfValues (source target sourceAnchor targetAnchor : Value) : String :=
  idOf source.display target.display (anchorText sourceAnchor) (anchorText targetAnchor)

/-- The id that an edge has or, where that is void, the one its ends and anchors determine. -/
def idEntry (entries : Entries) : Value :=
  let field (name : String) (other : Value) : Value := (entries.get? name).getD other
  let id := field "id" .null
  if id.isVoid then
    .text (idOfValues (field "source" (.text "")) (field "target" (.text ""))
      (field "source_anchor" .null) (field "target_anchor" .null))
  else id

/-- The fields of an edge before its ends are compared. -/
structure Fields where
  id : String
  source : { s : String // s ≠ "" }
  target : { s : String // s ≠ "" }
  sourceAnchor : Option String
  targetAnchor : Option String

def ofFields (f : Fields) : Reading Edge :=
  if h : f.source.1 = f.target.1 then
    .fail (.refused
      s!"edge {Text.quoted f.id} connects node {Text.quoted f.source.1} to itself")
  else
    .value ⟨f.id, f.source.1, f.target.1, f.sourceAnchor, f.targetAnchor, f.source.2, f.target.2, h⟩

/-- The edge of a mapping; further entries do not matter. -/
def read : Value → Reading Edge
  | .mapping entries =>
    (Fields.mk
      <$> (Field.readText (idEntry entries)).within (.field "id")
      <*> Field.required entries "source" Field.readName
      <*> Field.required entries "target" Field.readName
      <*> Field.optional entries "source_anchor" Field.readText
      <*> Field.optional entries "target_anchor" Field.readText).andThen ofFields
  | _ => .fail (.notRecord "Edge")

/-- The edge of two ends and two anchors, with the id that they determine. -/
def build (source target sourceAnchor targetAnchor : Value) : Reading Edge :=
  read (.record [("source", source), ("target", target), ("source_anchor", sourceAnchor),
    ("target_anchor", targetAnchor)])

/-- The plain data of an edge; absent anchors are left out. -/
def toValue (e : Edge) : Value :=
  let anchor (name : String) : Option String → List (String × Value)
    | some s => [(name, .text s)]
    | none => []
  .record ([("id", .text e.id), ("source", .text e.source), ("target", .text e.target)] ++
    anchor "source_anchor" e.sourceAnchor ++ anchor "target_anchor" e.targetAnchor)

end Edge
end GatewayFlow
