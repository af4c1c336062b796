import TaintReview.Candidate
import TaintReview.Category
import TaintReview.Json.Metadata

namespace TaintReview

/-!
# Endpoints

An endpoint is a graph entity that was confirmed as a source or a sink.  Sources and sinks
carry the same facts; their role is known from where they stand.  How sure a review is of
an endpoint, or of any other finding, is a score from 0 to 1.
-/

/-- The nearest score from 0 to 1; what is no number counts as 0. -/
def clampConfidence (x : Float) : Float :=
  if x.isNaN then 0
  else if x < 0 then 0
  else if 1 < x then 1
  else x

/-- The two roles of an endpoint. -/
inductive Role where
  | source
  | sink
deriving DecidableEq, Repr

/-- The role in words. -/
def Role.noun : Role → String
  | .source => "source"
  | .sink => "sink"

/-- A confirmed source or sink. -/
structure Endpoint where
  nodeId : NodeId
  name : String
  category : Category
  fileNodeId : Option NodeId := none
  functionNodeId : Option NodeId := none
  classNodeId : Option NodeId := none
  lineNumber : Option UInt32 := none
  description : String := ""
  confidence : Float := 0
  metadata : Metadata := .empty

namespace Endpoint

/-- The endpoint with another confidence, brought into range. -/
def withConfidence (x : Float) (e : Endpoint) : Endpoint :=
  { e with confidence := clampConfidence x }

/-- The endpoint with one more entry of metadata. -/
def withMetadata (key : String) (value : Json) (e : Endpoint) : Endpoint :=
  { e with metadata := e.metadata.insert key value }

/-- The file's path that was known at confirmation. -/
def filePath? (e : Endpoint) : Option String :=
  (e.metadata.get? "file_path").bind Json.asString?

/-- The endpoint that confirms a candidate.  The candidate's own identity becomes the class
    or the function that it refers to. -/
def ofCandidate (c : Candidate) (category : Category) (confidence : Float)
    (description : String) : Endpoint :=
  { nodeId := c.nodeId
    name := c.name
    category
    fileNodeId := c.fileNodeId
    functionNodeId := if c.isClass then none else some c.nodeId
    classNodeId := if c.isClass then some c.nodeId else none
    lineNumber := c.lineNumber
    description
    confidence := clampConfidence confidence
    metadata :=
      match c.filePath with
      | some path => Metadata.empty.insert "file_path" (.string path)
      | none => .empty }

/-! ### As a JSON value -/

/-- The endpoint's members. -/
def toFields (e : Endpoint) : Fields :=
  [("category", e.category.toJson),
   ("class_node_id", .ofOption .ofInt64 e.classNodeId),
   ("confidence", .ofFloat e.confidence),
   ("description", .string e.description),
   ("file_node_id", .ofOption .ofInt64 e.fileNodeId),
   ("function_node_id", .ofOption .ofInt64 e.functionNodeId),
   ("line_number", .ofOption .ofUInt32 e.lineNumber),
   ("metadata", e.metadata.toJson),
   ("name", .string e.name),
   ("node_id", .ofInt64 e.nodeId)]

open Decode

/-- An endpoint from its members. -/
def decodeFields (m : Fields) : Except DecodeError Endpoint := do
  let category ← memberOr m "category" .unknown Category.decode
  let classNodeId ← memberOr m "class_node_id" none (nullable int64)
  let confidence ← memberOr m "confidence" 0 float
  let description ← memberOr m "description" "" string
  let fileNodeId ← memberOr m "file_node_id" none (nullable int64)
  let functionNodeId ← memberOr m "function_node_id" none (nullable int64)
  let lineNumber ← memberOr m "line_number" none (nullable uint32)
  let metadata ← memberOr m "metadata" .empty Metadata.decode
  let name ← memberOr m "name" "" string
  let nodeId ← member m "node_id" int64
  let nodeId ← required "node_id" nodeId
  pure
    { nodeId, name, category, fileNodeId, functionNodeId, classNodeId, lineNumber, description,
      confidence, metadata }

/-- How messages name the record of a role. -/
def recordName : Role → String
  | .source => "SourceNode"
  | .sink => "SinkNode"

/-- An endpoint from the list of its fields. -/
def decodeItems (role : Role) : ItemReader Endpoint := do
  let nodeId ← requiredItem s!"struct {recordName role} with 10 elements" int64
  let name ← itemOr "" string
  let category ← itemOr .unknown Category.decode
  let fileNodeId ← itemOr none (nullable int64)
  let functionNodeId ← itemOr none (nullable int64)
  let classNodeId ← itemOr none (nullable int64)
  let lineNumber ← itemOr none (nullable uint32)
  let description ← itemOr "" string
  let confidence ← itemOr 0 float
  let metadata ← itemOr .empty Metadata.decode
  pure
    { nodeId, name, category, fileNodeId, functionNodeId, classNodeId, lineNumber, description,
      confidence, metadata }

/-- An endpoint in a JSON value. -/
def decode (role : Role) : Decoder Endpoint :=
  record (recordName role) decodeFields (decodeItems role)

/-- The endpoint of an object. -/
def ofFields (m : Fields) : Except ReviewError Endpoint :=
  (decodeFields m).mapError .ofDecode

end Endpoint

end TaintReview
