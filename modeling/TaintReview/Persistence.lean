import TaintReview.FlowPath
import TaintReview.Graph.Statements
import TaintReview.Json.Printer
import TaintReview.Session

namespace TaintReview

/-!
# Writing findings back

Every run adds nodes for its sources and sinks, and then for the paths between them; nothing
is ever changed or removed.  A path is written only if its source and its sink were written by
the same call.  What fails is logged and counted, and the rest goes on.  The new nodes are
attached to the investigation for which the run takes place.
-/

/-! ### Investigations -/

/-- An investigation as the graph knows it. -/
structure Investigation where
  id : String
  nodeId : Option NodeId := none
  graphId : Option NodeId := none
deriving DecidableEq, Repr

namespace Investigation

/-- The investigation of a row; where the row does not name it, the name asked for counts. -/
def ofRecord (id : String) (row : Record) : Investigation :=
  { id := (Record.nonBlank? row "investigation_id").getD id
    nodeId := Record.int? row "node_id"
    graphId := Record.int? row "graph_id" }

/-- The node to which findings are attached: the code graph, else the investigation. -/
def owner? (i : Investigation) : Option NodeId := i.graphId.or i.nodeId

end Investigation

namespace Persistence

/-! ### Properties -/

/-- Stores take plain values and lists only, so metadata is stored as a text. -/
def metadataText (metadata : Metadata) : Json := .string (Json.compact metadata.toJson)

/-- Is the value `null`? -/
def isNull : Json → Bool
  | .null => true
  | _ => false

/-- The properties of an endpoint's node. -/
def endpointProperties (investigation : String) (e : Endpoint) : Fields :=
  let own := e.toFields.filter fun m => m.1 != "metadata" && !isNull m.2
  Fields.insert "investigation_id" (.string investigation)
    (Fields.insert "metadata" (metadataText e.metadata) own)

/-- The properties of a path's node. -/
def pathProperties (investigation : String) (p : FlowPath) : Fields :=
  [("confidence", .ofFloat p.confidence),
   ("description", .string p.description),
   ("impact", p.impact.toJson),
   ("intermediate_nodes", .ofList .ofInt64 p.intermediateNodes),
   ("investigation_id", .string investigation),
   ("metadata", metadataText p.metadata),
   ("recommendations", .ofList .string p.recommendations),
   ("sink_node_id", .ofInt64 p.sink.nodeId),
   ("source_node_id", .ofInt64 p.source.nodeId),
   ("vulnerability_type", .string p.vulnerabilityType)]

/-! ### Names in the graph -/

/-- The label of a role's nodes. -/
def label : Role → String
  | .source => "Source"
  | .sink => "Sink"

/-- The relationship from the owner to a role's nodes. -/
def ownerType : Role → String
  | .source => "HAS_SOURCE"
  | .sink => "HAS_SINK"

/-- The statement that finds a role's nodes. -/
def findStatement : Role → String
  | .source => Statement.findSourceByNodeId
  | .sink => Statement.findSinkByNodeId

/-- The label of a path's node. -/
def pathLabel : String := "DataFlowPath"

/-! ### Links -/

/-- What became of an entity: whether it was written, and how many writes failed. -/
structure Outcome where
  written : Bool
  failures : Nat
deriving DecidableEq, Repr

/-- Link two nodes and count the failure.  An end that is not there is no failure. -/
def link (start target : NodeId) (type : String) : SessionM Nat := do
  match ← Session.createRelationship start target type with
  | .ok true => pure 0
  | .ok false =>
    Session.note .debug s!"Persist: {type} {start} -> {target} had no endpoint"
    pure 0
  | .error e =>
    Session.warnOf .persistence s!"Persist: {type} {start} -> {target} failed: {e.message}"
    pure 1

/-- Link nodes one pair after the other and count the failures. -/
def linkAll : List (NodeId × NodeId × String) → SessionM Nat
  | [] => pure 0
  | (start, target, type) :: rest => do
    let failed ← link start target type
    let others ← linkAll rest
    pure (failed + others)

/-! ### Endpoints -/

/-- The links of an endpoint's node: to the entity it stands for, to the file, and from the
    owner. -/
def endpointLinks (i : Investigation) (role : Role) (e : Endpoint) (entity : NodeId) :
    List (NodeId × NodeId × String) :=
  (entity, e.nodeId, "REPRESENTS") ::
    ((e.fileNodeId.map fun file => (entity, file, "IN_FILE")).toList
      ++ (i.owner?.map fun owner => (owner, entity, ownerType role)).toList)

/-- Write an endpoint. -/
def writeEndpoint (i : Investigation) (role : Role) (e : Endpoint) : SessionM Outcome := do
  match ← Session.createNode [label role] (endpointProperties i.id e) with
  | .ok (some entity) =>
    let failures ← linkAll (endpointLinks i role e entity)
    pure { written := true, failures }
  | .ok none =>
    Session.warnOf .persistence
      s!"Persist: {role.noun} {e.name} ({e.nodeId}) was not assigned an id"
    pure { written := false, failures := 1 }
  | .error error =>
    let cause := (ReviewError.graph error).message
    Session.warnOf .persistence s!"Persist: {role.noun} {e.name} ({e.nodeId}) failed: {cause}"
    pure { written := false, failures := 1 }

/-- The endpoints that were written, and how many writes failed. -/
structure Endpoints where
  written : List NodeId := []
  failures : Nat := 0
deriving DecidableEq, Repr

/-- Write endpoints of a role. -/
def writeEndpoints (i : Investigation) (role : Role) : List Endpoint → SessionM Endpoints
  | [] => pure {}
  | e :: rest => do
    let outcome ← writeEndpoint i role e
    let others ← writeEndpoints i role rest
    pure
      { written := if outcome.written then e.nodeId :: others.written else others.written
        failures := outcome.failures + others.failures }

/-! ### Paths -/

/-- Find the node that was written for an entity. -/
def findEntity (i : Investigation) (role : Role) (id : NodeId) : ReviewM (Option NodeId) := do
  let rows ← ReviewM.query (findStatement role)
    [("investigation_id", .string i.id), ("node_id", .ofInt64 id)]
  pure (rows.head?.bind fun row => Record.int? row "id")

/-- Find the node that was written for an endpoint, and log when there is none. -/
def findEndpoint (i : Investigation) (role : Role) (e : Endpoint) : ReviewM (Option NodeId) := do
  let found ← findEntity i role e.nodeId
  if found.isNone then
    Session.warnOf .persistence s!"Persist: {role.noun} entity for node {e.nodeId} not found"
  pure found

/-- The links of a path's node: from the source, to the sink, and from the owner. -/
def pathLinks (i : Investigation) (source sink path : NodeId) : List (NodeId × NodeId × String) :=
  (source, path, "FLOWS_TO") :: (path, sink, "FLOWS_TO") ::
    (i.owner?.map fun owner => (owner, path, "HAS_DATA_FLOW_PATH")).toList

/-- Create the node of a path, and log when the graph keeps none. -/
def createPath (i : Investigation) (p : FlowPath) : ReviewM (Option NodeId) := do
  match ← Session.createNode [pathLabel] (pathProperties i.id p) with
  | .ok (some entity) => pure (some entity)
  | .ok none =>
    Session.warnOf .persistence
      s!"Persist: path {p.source.name} -> {p.sink.name} was not assigned an id"
    pure none
  | .error e => throw (.graph e)

/-- Write a path between the nodes of its source and its sink. -/
def tryPath (i : Investigation) (p : FlowPath) : ReviewM Outcome := do
  let some source ← findEndpoint i .source p.source | pure { written := false, failures := 1 }
  let some sink ← findEndpoint i .sink p.sink | pure { written := false, failures := 1 }
  let some path ← createPath i p | pure { written := false, failures := 1 }
  let failures ← linkAll (pathLinks i source sink path)
  pure { written := true, failures }

/-- Write a path. -/
def writePath (i : Investigation) (p : FlowPath) : SessionM Outcome := do
  match ← (tryPath i p).run with
  | .ok outcome => pure outcome
  | .error e =>
    Session.warnOf .persistence
      s!"Persist: path {p.source.name} -> {p.sink.name} failed: {e.message}"
    pure { written := false, failures := 1 }

/-- Were the source and the sink of a path written? -/
def isEligible (sources sinks : List NodeId) (p : FlowPath) : Bool :=
  sources.contains p.source.nodeId && sinks.contains p.sink.nodeId

/-- The number of paths that were written, and how many writes failed. -/
structure Paths where
  written : Nat := 0
  failures : Nat := 0
deriving DecidableEq, Repr

/-- Write those paths whose ends were written. -/
def writePaths (i : Investigation) (sources sinks : List NodeId) :
    List FlowPath → SessionM Paths
  | [] => pure {}
  | p :: rest => do
    if isEligible sources sinks p then
      let outcome ← writePath i p
      let others ← writePaths i sources sinks rest
      pure
        { written := (if outcome.written then 1 else 0) + others.written
          failures := outcome.failures + others.failures }
    else
      Session.note .debug (s!"Persist: skipping path {p.source.name} -> {p.sink.name}, " ++
        "an endpoint did not persist")
      writePaths i sources sinks rest

end Persistence

/-- How many entities were written, and how many writes failed. -/
structure PersistCounts where
  sources : Nat := 0
  sinks : Nat := 0
  paths : Nat := 0
  failed : Nat := 0
deriving DecidableEq, Repr

/-- The counts as members. -/
def PersistCounts.toFields (c : PersistCounts) : Fields :=
  [("failed", .ofNat c.failed), ("paths", .ofNat c.paths), ("sinks", .ofNat c.sinks),
   ("sources", .ofNat c.sources)]

open Persistence in
/-- Write sources, sinks and paths of an investigation.  `failedBefore` counts the failures of
    earlier calls, to which those of this one are added. -/
def persistAll (i : Investigation) (sources sinks : List Endpoint) (paths : List FlowPath)
    (failedBefore : Nat) : SessionM PersistCounts := do
  let writtenSources ← writeEndpoints i .source sources
  let writtenSinks ← writeEndpoints i .sink sinks
  let writtenPaths ← writePaths i writtenSources.written writtenSinks.written paths
  let counts : PersistCounts :=
    { sources := writtenSources.written.length
      sinks := writtenSinks.written.length
      paths := writtenPaths.written
      failed :=
        failedBefore + writtenSources.failures + writtenSinks.failures + writtenPaths.failures }
  Session.note .info (s!"Persist: investigation {i.id} wrote {counts.sources} sources, " ++
    s!"{counts.sinks} sinks, {counts.paths} paths ({counts.failed} failed writes)")
  pure counts

end TaintReview
