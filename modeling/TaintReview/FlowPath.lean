import TaintReview.Endpoint
import TaintReview.Impact

namespace TaintReview

/-!
# Flow paths

A flow path asserts that data from a confirmed source reaches a confirmed sink, with a
hypothesis about the vulnerability.  The nodes in between need not be known.
-/

/-- A flow from a source to a sink. -/
structure FlowPath where
  source : Endpoint
  sink : Endpoint
  intermediateNodes : List NodeId := []
  vulnerabilityType : String
  impact : Impact := .medium
  description : String := ""
  recommendations : List String := []
  confidence : Float := 0
  metadata : Metadata := .empty

namespace FlowPath

/-- The path with another confidence, brought into range. -/
def withConfidence (x : Float) (p : FlowPath) : FlowPath :=
  { p with confidence := clampConfidence x }

/-- The path with one more entry of metadata. -/
def withMetadata (key : String) (value : Json) (p : FlowPath) : FlowPath :=
  { p with metadata := p.metadata.insert key value }

/-! ### As a JSON value -/

/-- The path's members. -/
def toFields (p : FlowPath) : Fields :=
  [("confidence", .ofFloat p.confidence),
   ("description", .string p.description),
   ("impact", p.impact.toJson),
   ("intermediate_nodes", .ofList .ofInt64 p.intermediateNodes),
   ("metadata", p.metadata.toJson),
   ("recommendations", .ofList .string p.recommendations),
   ("sink_node", .object p.sink.toFields),
   ("source_node", .object p.source.toFields),
   ("vulnerability_type", .string p.vulnerabilityType)]

open Decode

/-- A path from its members. -/
def decodeFields (m : Fields) : Except DecodeError FlowPath := do
  let confidence ← memberOr m "confidence" 0 float
  let description ← memberOr m "description" "" string
  let impact ← memberOr m "impact" .medium Impact.decode
  let intermediateNodes ← memberOr m "intermediate_nodes" [] (list int64)
  let metadata ← memberOr m "metadata" .empty Metadata.decode
  let recommendations ← memberOr m "recommendations" [] (list string)
  let sink ← member m "sink_node" (Endpoint.decode .sink)
  let source ← member m "source_node" (Endpoint.decode .source)
  let vulnerabilityType ← memberOr m "vulnerability_type" "" string
  let source ← required "source_node" source
  let sink ← required "sink_node" sink
  pure
    { source, sink, intermediateNodes, vulnerabilityType, impact, description, recommendations,
      confidence, metadata }

/-- A path from the list of its fields. -/
def decodeItems : ItemReader FlowPath := do
  let expected := "struct DataFlowPath with 9 elements"
  let source ← requiredItem expected (Endpoint.decode .source)
  let sink ← requiredItem expected (Endpoint.decode .sink)
  let intermediateNodes ← itemOr [] (list int64)
  let vulnerabilityType ← itemOr "" string
  let impact ← itemOr .medium Impact.decode
  let description ← itemOr "" string
  let recommendations ← itemOr [] (list string)
  let confidence ← itemOr 0 float
  let metadata ← itemOr .empty Metadata.decode
  pure
    { source, sink, intermediateNodes, vulnerabilityType, impact, description, recommendations,
      confidence, metadata }

/-- A path in a JSON value. -/
def decode : Decoder FlowPath := record "DataFlowPath" decodeFields decodeItems

/-- The path of an object. -/
def ofFields (m : Fields) : Except ReviewError FlowPath :=
  (decodeFields m).mapError .ofDecode

end FlowPath

end TaintReview
