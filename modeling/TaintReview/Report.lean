import TaintReview.Findings
import TaintReview.Text.Basic

namespace TaintReview

open Text

/-!
# The report

Findings as a Markdown document for a reader: the summary, one table of sources and one of
sinks, and a section for each flow.  The document is built as a list of lines.
-/

namespace Report

/-- Lines as one text, each ended by a line feed. -/
def unlines (ls : List String) : String := String.join (ls.map (· ++ "\n"))

/-! ### Tables -/

/-- A table cell holds neither a bare pipe nor a line break: pipes are escaped and every run
    of blanks becomes one space. -/
def escapePipes (cs : List Char) : List Char :=
  cs.flatMap fun c => if c == '|' then ['\\', '|'] else [c]

/-- The text of a table cell. -/
def cell (s : String) : String := singleSpaced (String.ofList (escapePipes s.toList))

/-- The row of an endpoint. -/
def row (e : Endpoint) : String :=
  let confidence := Decimal.fixed 2 (.ofFloat e.confidence)
  s!"| {cell e.name} | {e.category.tag} | {confidence} | {cell e.description} |"

/-- The table of endpoints, with the blank line after it. -/
def endpointTable (es : List Endpoint) : List String :=
  if es.isEmpty then ["_None identified._", ""]
  else
    ["| Name | Category | Confidence | Description |",
     "|------|----------|------------|-------------|"] ++ es.map row ++ [""]

/-! ### Flows -/

/-- The section of one flow. -/
def pathSection (number : Nat) (p : FlowPath) : List String :=
  let vulnerability :=
    if isBlankText p.vulnerabilityType then "Unclassified" else trimmed p.vulnerabilityType
  [s!"### Path {number}: {vulnerability}", "",
   s!"**Impact:** {p.impact.tag}", "",
   s!"**Source:** {p.source.name} ({p.source.category.tag})", "",
   s!"**Sink:** {p.sink.name} ({p.sink.category.tag})", ""] ++
  (if isBlankText p.description then [] else [s!"**Description:** {trimmed p.description}", ""]) ++
  (if p.recommendations.isEmpty then []
   else
    ["**Recommendations:**", ""] ++ p.recommendations.map (fun r => s!"- {r}") ++ [""])

/-- The sections of the flows, numbered from `number` on. -/
def pathSections (number : Nat) : List FlowPath → List String
  | [] => []
  | p :: ps => pathSection number p ++ pathSections (number + 1) ps

/-! ### The document -/

/-- The lines of the report. -/
def lines (f : Findings) : List String :=
  ["# Sources and Sinks Analysis", "", s!"**Investigation:** {f.investigationId}", "",
   "## Summary", "",
   if isBlankText f.summary then "_No summary available._" else trimmed f.summary, "",
   "## Sources", ""] ++ endpointTable f.sources ++
  ["## Sinks", ""] ++ endpointTable f.sinks ++
  ["## Data Flow Paths", ""] ++
  (if f.paths.isEmpty then ["_No data flow paths identified._", ""] else []) ++
  pathSections 1 f.paths

end Report

/-- The findings as a Markdown document. -/
def Findings.toMarkdown (f : Findings) : String := Report.unlines (Report.lines f)

end TaintReview
