import TaintReview.FlowPath
import TaintReview.Graph.Statements
import TaintReview.Session

namespace TaintReview

/-!
# Analyzers

An analyzer judges candidates one by one and proposes flows between confirmed endpoints.
Its errors concern the item at hand only.  An entity without code is never confirmed.
-/

/-- A way to judge candidates and to propose flows. -/
structure Analyzer where
  name : String
  /-- The endpoint that confirms a candidate in a role, if it does. -/
  judge : Role → Candidate → ReviewM (Option Endpoint)
  /-- Flows from the sources to the sinks of an investigation. -/
  flows : List Endpoint → List Endpoint → String → ReviewM (List FlowPath)

/-- A way to sum up sources, sinks and flows of an investigation in words. -/
abbrev Summarizer := List Endpoint → List Endpoint → List FlowPath → String → ReviewM String

/-! ### Code -/

/-- The code of an entity and what is written about it. -/
structure CodeContext where
  code : String
  docstring : Option String := none
  filePath : Option String := none
deriving DecidableEq, Repr

/-- The code in a row; none when it is blank. -/
def CodeContext.ofRecord? (row : Record) : Option CodeContext :=
  (Record.nonBlank? row "code").map fun code =>
    { code
      docstring := Record.nonBlank? row "docstring"
      filePath := Record.nonBlank? row "file_path" }

/-- The code of an entity, from the first row that the graph has for it. -/
def fetchCode (id : NodeId) : ReviewM (Option CodeContext) := do
  let rows ← ReviewM.query Statement.nodeCode [("node_id", .ofInt64 id)]
  pure (rows.head?.bind CodeContext.ofRecord?)

/-- At most so many characters of a text, with a mark where it was cut. -/
def truncated (text : String) (budget : Nat) : String :=
  let cs := text.toList
  if cs.length ≤ budget then text
  else String.ofList (cs.take budget) ++ "\n... [truncated]"

/-! ### Counts -/

/-- Count one more occurrence of a name; the names stay in order. -/
def tally (name : String) : List (String × Nat) → List (String × Nat)
  | [] => [(name, 1)]
  | (n, k) :: rest =>
    if name < n then (name, 1) :: (n, k) :: rest
    else if name = n then (n, k + 1) :: rest
    else (n, k) :: tally name rest

/-- How often each name occurs, in the order of the names. -/
def tallies (names : List String) : List (String × Nat) :=
  names.foldl (fun counts name => tally name counts) []

/-- How many endpoints each category has. -/
def categoryCounts (es : List Endpoint) : List (String × Nat) :=
  tallies (es.map (·.category.tag))

/-- How many paths each impact has. -/
def impactCounts (ps : List FlowPath) : List (String × Nat) := tallies (ps.map (·.impact.tag))

end TaintReview
