import TaintReview.Analyzer
import TaintReview.Lexicon.Keywords
import TaintReview.Settings

namespace TaintReview

namespace DocumentationAnalyzer

open Text

/-!
# Judging by documentation

A candidate is confirmed when its docstring or its description mentions keywords of a
category; a source is linked to a sink when a short call path leads from one to the other.
Words alone are never conclusive, so the confidence stays below certainty.
-/

/-- The name under which findings record this analyzer. -/
def name : String := "documentation"

/-! ### Candidates -/

/-- The confidence of so many keywords: `0.3`, and `0.1` for each, but at most `0.8`. -/
def keywordConfidence (hits : Nat) : Float :=
  let x : Float := 0.3 + 0.1 * Float.ofNat hits
  if x < 0.8 then x else 0.8

/-- The category that a text speaks for, and its keywords in the text. -/
structure Evidence where
  category : Category
  keywords : List String
deriving DecidableEq, Repr

/-- The text that is searched for keywords. -/
def evidenceText (docstring : Option String) (description : String) : String :=
  lowered (docstring.getD "" ++ "\n" ++ description)

/-- The evidence in a text: the category with the most keywords. -/
def evidence? (text : String) (table : Lexicon.CategoryTable) : Option Evidence :=
  (Lexicon.bestMatchingCategory text table).map fun (category, _) =>
    { category
      keywords := Lexicon.matchedKeywords text.toList ((table.lookup category).getD []) }

/-- Why a candidate was confirmed. -/
def rationale (role : Role) (e : Evidence) : String :=
  let keywords := ", ".intercalate e.keywords
  s!"Documentation suggests a {e.category.tag} {role.noun} (keywords: {keywords})"

/-- The endpoint that confirms a candidate by evidence. -/
def confirmation (role : Role) (c : Candidate) (e : Evidence) : Endpoint :=
  ((Endpoint.ofCandidate c e.category (keywordConfidence e.keywords.length)
    (rationale role e)).withMetadata "analyzer" (.string name)).withMetadata "keywords"
      (.ofList .string e.keywords)

/-- Judge a candidate. -/
def judge (role : Role) (c : Candidate) : ReviewM (Option Endpoint) := do
  match ← fetchCode c.nodeId with
  | none =>
    Session.note .debug
      s!"DocumentationAnalyzer: no code for node {c.nodeId} ({c.name}), skipping"
    pure none
  | some context =>
    let text := evidenceText context.docstring c.description
    pure ((evidence? text (Lexicon.keywordTable role)).map (confirmation role c))

/-! ### Flows -/

/-- The path of a pair whose call path has the given nodes, when it is neither empty nor too
    long. -/
def pathOf? (settings : DocumentationSettings) (source sink : Endpoint) (ids : List NodeId) :
    Option FlowPath :=
  let hops := ids.length - 1
  if ids.length < 2 || settings.maxCallHops.toNat < hops then none
  else
    let profile := Lexicon.profile sink.category
    some
      { source
        sink
        intermediateNodes := ids.tail.dropLast
        vulnerabilityType := profile.vulnerabilityType
        impact := .medium
        description := s!"{source.name} reaches {sink.name} through {hops} call hop(s)"
        recommendations := profile.recommendations
        confidence := clampConfidence settings.flowConfidence
        metadata :=
          (Metadata.empty.insert "analyzer" (.string name)).insert "call_hops" (.ofNat hops) }

/-- Look for a call path from a source to a sink.  A failing query concerns this pair
    only. -/
def pairFlow (settings : DocumentationSettings) (investigation : String)
    (source sink : Endpoint) : SessionM (Option FlowPath) := do
  let rows ← Session.runQuery Statement.callPath
    [("max_hops", .ofUInt32 settings.maxCallHops), ("sink_id", .ofInt64 sink.nodeId),
     ("source_id", .ofInt64 source.nodeId)]
  match rows with
  | .ok rows =>
    pure (rows.head?.bind fun row => pathOf? settings source sink (Record.ints row "path_ids"))
  | .error e =>
    let cause := (ReviewError.graph e).message
    Session.warnOf .synthesis (s!"DocumentationAnalyzer: call path lookup {source.name} -> " ++
      s!"{sink.name} failed for investigation {investigation}: {cause}")
    pure none

/-- The flows of pairs of a source and a sink. -/
def pairFlows (settings : DocumentationSettings) (investigation : String) :
    List (Endpoint × Endpoint) → SessionM (List FlowPath)
  | [] => pure []
  | (source, sink) :: rest => do
    let path? ← pairFlow settings investigation source sink
    let paths ← pairFlows settings investigation rest
    pure (path?.toList ++ paths)

/-- All pairs of a source and a sink, source by source. -/
def pairs (sources sinks : List Endpoint) : List (Endpoint × Endpoint) :=
  sources.flatMap fun source => sinks.map fun sink => (source, sink)

/-- Flows along call paths, for each source and each sink. -/
def flows (settings : DocumentationSettings) (sources sinks : List Endpoint)
    (investigation : String) : ReviewM (List FlowPath) := do
  if sources.isEmpty || sinks.isEmpty then pure []
  else
    let paths ← pairFlows settings investigation (pairs sources sinks)
    Session.note .debug (s!"DocumentationAnalyzer: {paths.length} call-path flows for " ++
      s!"investigation {investigation}")
    pure paths

end DocumentationAnalyzer

/-- The analyzer that judges by documentation. -/
def Analyzer.documentation (settings : DocumentationSettings) : Analyzer where
  name := DocumentationAnalyzer.name
  judge := DocumentationAnalyzer.judge
  flows := DocumentationAnalyzer.flows settings

end TaintReview
