import TaintReview.Candidate

namespace TaintReview

/-!
# The store of a graph

Nodes and relationships in the order in which they were added.
-/

/-- A node of the store. -/
structure StoredNode where
  id : NodeId
  labels : List String
  properties : Fields

/-- A directed relationship between two nodes. -/
structure Relationship where
  start : NodeId
  target : NodeId
  type : String
  properties : Fields

/-- The contents of a graph. -/
structure Store where
  nodes : List StoredNode := []
  relationships : List Relationship := []

namespace StoredNode

/-- Does the node carry the label? -/
def hasLabel (n : StoredNode) (label : String) : Bool := n.labels.contains label

/-- Does the property have the value? -/
def hasProperty (n : StoredNode) (key : String) (value : Json) : Bool :=
  (n.properties.get? key).any (Json.same · value)

/-- The node as members. -/
def toFields (n : StoredNode) : Fields :=
  [("id", .ofInt64 n.id), ("labels", .ofList .string n.labels),
   ("properties", .object n.properties)]

end StoredNode

/-- The relationship as a list: its two ends, its type and its properties. -/
def Relationship.toJson (r : Relationship) : Json :=
  .array [.ofInt64 r.start, .ofInt64 r.target, .string r.type, .object r.properties]

namespace Store

/-- The node of an identity. -/
def node? (s : Store) (id : NodeId) : Option StoredNode := s.nodes.find? (·.id == id)

/-- Is there a node of this identity? -/
def hasNode (s : Store) (id : NodeId) : Bool := s.nodes.any (·.id == id)

/-- The nodes with a label. -/
def withLabel (s : Store) (label : String) : List StoredNode := s.nodes.filter (·.hasLabel label)

/-- The relationships of a type. -/
def ofType (s : Store) (type : String) : List Relationship :=
  s.relationships.filter (·.type == type)

/-- The nodes to which a relationship of the type leads. -/
def neighbours (s : Store) (start : NodeId) (type : String) : List NodeId :=
  ((s.ofType type).filter (·.start == start)).map (·.target)

/-- Put a node into the store, in place of one of the same identity. -/
def replaceNode (s : Store) (n : StoredNode) : Store :=
  { s with nodes := s.nodes.filter (·.id != n.id) ++ [n] }

/-- Add a node. -/
def addNode (s : Store) (n : StoredNode) : Store := { s with nodes := s.nodes ++ [n] }

/-- Add a relationship. -/
def addRelationship (s : Store) (r : Relationship) : Store :=
  { s with relationships := s.relationships ++ [r] }

/-- The store as members, all in the order in which it was added. -/
def toFields (s : Store) : Fields :=
  [("nodes", .ofList (fun n => .object n.toFields) s.nodes),
   ("relationships", .ofList Relationship.toJson s.relationships)]

/-- A node is added behind the others. -/
@[simp] theorem nodes_addNode (s : Store) (n : StoredNode) :
    (s.addNode n).nodes = s.nodes ++ [n] := rfl

/-- Adding a node leaves the relationships alone. -/
@[simp] theorem relationships_addNode (s : Store) (n : StoredNode) :
    (s.addNode n).relationships = s.relationships := rfl

/-- Adding a relationship leaves the nodes alone. -/
@[simp] theorem nodes_addRelationship (s : Store) (r : Relationship) :
    (s.addRelationship r).nodes = s.nodes := rfl

/-- A relationship is added behind the others. -/
@[simp] theorem relationships_addRelationship (s : Store) (r : Relationship) :
    (s.addRelationship r).relationships = s.relationships ++ [r] := rfl

end Store

end TaintReview
