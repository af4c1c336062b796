import TaintReview.FlowPath
import TaintReview.Json.Printer
import TaintReview.Json.Shape

namespace TaintReview

/-!
# Findings

All that one review found out: the confirmed endpoints, the flows between them and a
summary in words.  Findings are written as a JSON document and read back from it.
-/

/-- What one review found out about an investigation. -/
structure Findings where
  investigationId : String
  sources : List Endpoint := []
  sinks : List Endpoint := []
  paths : List FlowPath := []
  summary : String := ""
  metadata : Metadata := .empty

namespace Findings

/-- The members of the findings. -/
def toFields (f : Findings) : Fields :=
  [("data_flow_paths", .ofList (fun p => .object p.toFields) f.paths),
   ("investigation_id", .string f.investigationId),
   ("metadata", f.metadata.toJson),
   ("sinks", .ofList (fun e => .object e.toFields) f.sinks),
   ("sources", .ofList (fun e => .object e.toFields) f.sources),
   ("summary", .string f.summary)]

open Decode

/-- Findings from their members. -/
def decodeFields (m : Fields) : Except DecodeError Findings := do
  let paths ← memberOr m "data_flow_paths" [] (list FlowPath.decode)
  let investigationId ← member m "investigation_id" string
  let metadata ← memberOr m "metadata" .empty Metadata.decode
  let sinks ← memberOr m "sinks" [] (list (Endpoint.decode .sink))
  let sources ← memberOr m "sources" [] (list (Endpoint.decode .source))
  let summary ← memberOr m "summary" "" string
  let investigationId ← required "investigation_id" investigationId
  pure { investigationId, sources, sinks, paths, summary, metadata }

/-- Findings from the list of their fields. -/
def decodeItems : ItemReader Findings := do
  let investigationId ← requiredItem "struct AnalysisResult with 6 elements" string
  let sources ← itemOr [] (list (Endpoint.decode .source))
  let sinks ← itemOr [] (list (Endpoint.decode .sink))
  let paths ← itemOr [] (list FlowPath.decode)
  let summary ← itemOr "" string
  let metadata ← itemOr .empty Metadata.decode
  pure { investigationId, sources, sinks, paths, summary, metadata }

/-- Findings in a JSON value. -/
def decode : Decoder Findings := record "AnalysisResult" decodeFields decodeItems

/-- The findings of an object. -/
def ofFields (m : Fields) : Except ReviewError Findings :=
  (decodeFields m).mapError .ofDecode

/-! ### As a document -/

/-- The findings as a JSON document. -/
def toJsonText (f : Findings) : String := Json.pretty (.object f.toFields)

/-- The parts of a document that an endpoint reads. -/
def endpointShape : Json.Shape :=
  .record
    [("node_id", .value), ("name", .value), ("category", .tag), ("file_node_id", .value),
     ("function_node_id", .value), ("class_node_id", .value), ("line_number", .value),
     ("description", .value), ("confidence", .value), ("metadata", .value)]

/-- The parts of a document that a path reads. -/
def pathShape : Json.Shape :=
  .record
    [("source_node", endpointShape), ("sink_node", endpointShape), ("intermediate_nodes", .value),
     ("vulnerability_type", .value), ("impact", .tag), ("description", .value),
     ("recommendations", .value), ("confidence", .value), ("metadata", .value)]

/-- The parts of a document that findings read. -/
def shape : Json.Shape :=
  .record
    [("investigation_id", .value), ("sources", .list endpointShape), ("sinks", .list endpointShape),
     ("data_flow_paths", .list pathShape), ("summary", .value), ("metadata", .value)]

/-- The findings of a JSON document. -/
def ofJsonText (s : String) : Except ReviewError Findings :=
  match (Json.Written.parse? s).bind (·.select? shape Json.maxDepth) with
  | none => .error (.serialization "the text is no JSON document of findings")
  | some v => (decode v).mapError .ofDecode

end Findings

end TaintReview
