import TaintReview.Graph.Basic

namespace TaintReview.Handler

/-!
# Handlers that look into the store

Answers computed as the statements of a review ask for them, from the nodes of the store.
-/

/-- The same rows for all parameters. -/
def ofRows (rows : List Record) : Handler := fun _ _ => { rows := .ok rows }

/-- Always a failure. -/
def failing (message : String) : Handler := fun _ _ => { rows := .error (.query message) }

/-- Something is cancelled before the answer is given. -/
def cancelling (scope : CancelScope) (handler : Handler) : Handler := fun parameters store =>
  let reply := handler parameters store
  { reply with cancels := scope :: reply.cancels }

/-- A parameter; `null` when it is not given. -/
def parameter (parameters : Parameters) (name : String) : Json :=
  (parameters.get? name).getD .null

/-- The row of an investigation, with the first graph that it has. -/
def investigationRow (store : Store) (n : StoredNode) : Record :=
  [("graph_id", .ofOption .ofInt64 (store.neighbours n.id "HAS_GRAPH").head?),
   ("investigation_id", (n.properties.get? "id").getD .null),
   ("node_id", .ofInt64 n.id)]

/-- The investigations of the identity asked for. -/
def investigation : Handler := fun parameters store =>
  let id := parameter parameters "investigation_id"
  let found := (store.withLabel "Investigation").filter (·.hasProperty "id" id)
  { rows := .ok (found.map (investigationRow store)) }

/-- The row of an entity's code. -/
def codeRow (n : StoredNode) : Record :=
  let property (key : String) : Json := (n.properties.get? key).getD .null
  [("code", property "code"), ("docstring", property "docstring"),
   ("file_path", property "file_path")]

/-- The code of the entity asked for. -/
def code : Handler := fun parameters store =>
  let node? : Option StoredNode :=
    match parameter parameters "node_id" with
    | .number (.int id _) => (int64OfInt? id).bind store.node?
    | _ => none
  { rows := .ok (node?.toList.map codeRow) }

/-- Is this the entity that a run persisted for a node of an investigation? -/
def isEntity (label : String) (investigation node : Json) (n : StoredNode) : Bool :=
  n.hasLabel label && n.hasProperty "node_id" node
    && n.hasProperty "investigation_id" investigation

/-- The entities with a label that were persisted for the node asked for. -/
def entities (label : String) : Handler := fun parameters store =>
  let found := store.nodes.filter
    (isEntity label (parameter parameters "investigation_id") (parameter parameters "node_id"))
  { rows := .ok (found.map fun n => [("id", .ofInt64 n.id)]) }

end TaintReview.Handler
