import TaintReview.Record

namespace TaintReview

open Text

/-!
# Candidates

A candidate is an entity of the code graph that might be a source or a sink.  Nothing about
it has been judged yet.
-/

/-- The identity of a node of the code graph. -/
abbrev NodeId := Int64

/-- An entity that might be a source or a sink. -/
structure Candidate where
  nodeId : NodeId
  name : String
  /-- The graph label of the entity, such as a function or a class. -/
  kind : Option String := none
  fileNodeId : Option NodeId := none
  filePath : Option String := none
  lineNumber : Option UInt32 := none
  /-- What is already known about the code in words. -/
  description : String := ""
  /-- The columns beyond the known ones. -/
  extra : Fields := []

namespace Candidate

/-- Is the entity a class? -/
def isClass (c : Candidate) : Bool :=
  match c.kind with
  | some kind => kind.toList.map Char.toLower == "class".toList
  | none => false

/-- An entity is a class when its kind is that word, whatever the case of its letters. -/
theorem isClass_iff (c : Candidate) :
    c.isClass = true ↔ ∃ kind ∈ c.kind, kind.toList.map Char.toLower = "class".toList := by
  rw [isClass]
  cases c.kind <;> simp

/-! ### From a row -/

/-- The columns that a candidate reads; all others are kept aside. -/
def columns : List String :=
  ["node_id", "name", "kind", "file_node_id", "file_path", "line_number", "description",
   "summary"]

/-- A line number, when it is in range. -/
def lineOf? (n : Int64) : Option UInt32 :=
  if 0 ≤ n.toInt ∧ n.toInt < 0x100000000 then some n.toInt.toNat.toUInt32 else none

/-- The candidate of a row.  Only the node's identity has to be there; a summary stands in
    for a description. -/
def ofRecord (row : Record) : Except ReviewError Candidate :=
  match Record.requireInt row "node_id" with
  | .error e => .error (.graph e)
  | .ok nodeId =>
    .ok
      { nodeId
        name := (Record.text? row "name").getD ""
        kind := Record.nonBlank? row "kind"
        fileNodeId := Record.int? row "file_node_id"
        filePath := Record.nonBlank? row "file_path"
        lineNumber := (Record.int? row "line_number").bind lineOf?
        description :=
          ((Record.nonBlank? row "description").or (Record.nonBlank? row "summary")).getD ""
        extra := row.filter fun m => !columns.contains m.1 }

/-! ### As a JSON value -/

/-- The candidate's members. -/
def toFields (c : Candidate) : Fields :=
  [("description", .string c.description),
   ("extra", .object c.extra),
   ("file_node_id", .ofOption .ofInt64 c.fileNodeId),
   ("file_path", .ofOption .string c.filePath),
   ("kind", .ofOption .string c.kind),
   ("line_number", .ofOption .ofUInt32 c.lineNumber),
   ("name", .string c.name),
   ("node_id", .ofInt64 c.nodeId)]

open Decode

/-- A candidate from its members. -/
def ofFields (m : Fields) : Except DecodeError Candidate := do
  let description ← memberOr m "description" "" string
  let extra ← memberOr m "extra" [] fields
  let fileNodeId ← memberOr m "file_node_id" none (nullable int64)
  let filePath ← memberOr m "file_path" none (nullable string)
  let kind ← memberOr m "kind" none (nullable string)
  let lineNumber ← memberOr m "line_number" none (nullable uint32)
  let name ← memberOr m "name" "" string
  let nodeId ← member m "node_id" int64
  let nodeId ← required "node_id" nodeId
  pure { nodeId, name, kind, fileNodeId, filePath, lineNumber, description, extra }

/-- A candidate from the list of its fields. -/
def ofItems : ItemReader Candidate := do
  let nodeId ← requiredItem "struct Candidate with 8 elements" int64
  let name ← itemOr "" string
  let kind ← itemOr none (nullable string)
  let fileNodeId ← itemOr none (nullable int64)
  let filePath ← itemOr none (nullable string)
  let lineNumber ← itemOr none (nullable uint32)
  let description ← itemOr "" string
  let extra ← itemOr [] fields
  pure { nodeId, name, kind, fileNodeId, filePath, lineNumber, description, extra }

/-- A candidate in a JSON value. -/
def decode : Decoder Candidate := record "Candidate" ofFields ofItems

end Candidate

end TaintReview
