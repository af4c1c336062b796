import TaintReview.Analyzer
import TaintReview.Extraction
import TaintReview.Lexicon.Keywords
import TaintReview.Settings

namespace TaintReview

namespace CompletionAnalyzer

open Text

/-!
# Judging by completions

The completion service is asked about each candidate; whether it confirms, the category and
the confidence are read from the words of its answer.  Flows are asked for file by file, and
the summary once for all findings.
-/

/-- The name under which findings record this analyzer. -/
def name : String := "llm"

/-! ### Instructions -/

/-- The instructions for judging a candidate. -/
def instructions : Role → String
  | .source =>
    "You are a security analyst reviewing code for taint sources: places where untrusted data " ++
      "enters a program (user input, database reads, file reads, network receives, environment " ++
      "variables, configuration). Answer in plain prose."
  | .sink =>
    "You are a security analyst reviewing code for taint sinks: places where data leaves a " ++
      "program or reaches a dangerous operation (database writes, file writes, network sends, " ++
      "command execution, markup rendering, logging, response generation). " ++
      "Answer in plain prose."

/-- The instructions for finding flows. -/
def flowInstructions : String :=
  "You are a security analyst tracing data flows from taint sources to taint sinks within one " ++
    "file. Report only flows you can justify from the code."

/-- The instructions for the summary. -/
def summaryInstructions : String :=
  "You are a security analyst writing a short executive summary of a sources-and-sinks review " ++
    "for engineers who will triage the findings."

/-- Ask the service with the settings' temperature. -/
def ask (settings : CompletionSettings) (system user : String) (maxTokens : UInt32) :
    ReviewM String :=
  ReviewM.complete { system, user, temperature := settings.temperature, maxTokens }

/-! ### Candidates -/

/-- A line of a prompt that is left out when there is nothing to say. -/
def optionalLine (label : String) : Option String → String
  | some text => s!"{label}: {text}\n"
  | none => ""

/-- The question whether a candidate is in a role. -/
def question (role : Role) : String :=
  let noun := role.noun
  s!"Is this code a {noun}? If it is, say \"this is a {noun}\" and name the kind of {noun}. " ++
    "Qualify your certainty with one word (definitely, likely, probably, possibly, might)."

/-- The prompt about a candidate. -/
def candidatePrompt (settings : CompletionSettings) (role : Role) (c : Candidate)
    (context : CodeContext) : String :=
  let description := if c.description.isEmpty then none else some c.description
  let code := truncated context.code settings.candidateCodeBudget.toNat
  s!"Name: {c.name}\n" ++ optionalLine "File" (context.filePath.or c.filePath)
    ++ optionalLine "Existing description" description
    ++ optionalLine "Docstring" context.docstring
    ++ s!"\nCode:\n```\n{code}\n```\n\n" ++ question role

/-- What an answer says about a candidate. -/
structure Verdict where
  category : Category
  confidence : Float
  rationale : String

/-- The first line that is not blank, without the blanks around it. -/
def firstLine (text : String) : String :=
  match (lines text.toList).map trim |>.find? (!·.isEmpty) with
  | some line => String.ofList line
  | none => ""

/-- The verdict of an answer; none when it does not claim the role. -/
def verdict? (role : Role) (answer : String) : Option Verdict :=
  if Lexicon.claims role answer then
    some
      { category :=
          (Lexicon.firstMatchingCategory answer (Lexicon.keywordTable role)).getD .unknown
        confidence := Lexicon.hedgeConfidence answer
        rationale := firstLine answer }
  else none

/-- The endpoint that confirms a candidate by an answer. -/
def confirmation (c : Candidate) (answer : String) (v : Verdict) : Endpoint :=
  ((Endpoint.ofCandidate c v.category v.confidence v.rationale).withMetadata "analyzer"
    (.string name)).withMetadata "llm_response" (.string answer)

/-- Judge a candidate. -/
def judge (settings : CompletionSettings) (role : Role) (c : Candidate) :
    ReviewM (Option Endpoint) := do
  match ← fetchCode c.nodeId with
  | none =>
    Session.note .debug s!"LlmAnalyzer: no code for node {c.nodeId} ({c.name}), skipping"
    pure none
  | some context =>
    let answer ← ask settings (instructions role) (candidatePrompt settings role c context)
      settings.maxTokens
    pure ((verdict? role answer).map (confirmation c answer))

/-! ### Flows -/

/-- The part of a prompt about one endpoint. -/
def entityText (settings : CompletionSettings) (e : Endpoint) (context? : Option CodeContext) :
    String :=
  let code := match context? with
    | some context => truncated context.code settings.codeCharBudget.toNat
    | none => ""
  s!"- {e.name} ({e.category.tag})\n```\n{code}\n```\n"

/-- Describe endpoints with their code. -/
def entityTexts (settings : CompletionSettings) : List Endpoint → ReviewM String
  | [] => pure ""
  | e :: rest => do
    let context? ← fetchCode e.nodeId
    let texts ← entityTexts settings rest
    pure (entityText settings e context? ++ texts)

/-- The layout in which flows are to be reported. -/
def flowLayout : String :=
  "For every flow from one of the sources to one of the sinks, answer with these lines in this " ++
    "order:\nVulnerability: <type>\nImpact: <high|medium|low|informational>\n" ++
    "Description: <how the data flows>\nRecommendation: <one fix per line>\n" ++
    "Source: <source name>\nSink: <sink name>\n"

/-- Ask for the flows within one file. -/
def fileFlows (settings : CompletionSettings) (file : NodeId) (sources sinks : List Endpoint) :
    ReviewM (List FlowPath) := do
  let sourceTexts ← entityTexts settings sources
  let sinkTexts ← entityTexts settings sinks
  let answer ← ask settings flowInstructions
    ("Sources:\n" ++ sourceTexts ++ "Sinks:\n" ++ sinkTexts ++ flowLayout) settings.maxTokens
  pure ((Extraction.flows answer sources sinks).map fun path =>
    (path.withMetadata "analyzer" (.string name)).withMetadata "file_node_id" (.ofInt64 file))

/-- Put an identity into an increasing list, once. -/
def insertId (id : NodeId) : List NodeId → List NodeId
  | [] => [id]
  | x :: rest =>
    if id < x then id :: x :: rest
    else if id = x then x :: rest
    else x :: insertId id rest

/-- The files of endpoints, in increasing order. -/
def files (es : List Endpoint) : List NodeId :=
  (es.filterMap (·.fileNodeId)).foldl (fun ids id => insertId id ids) []

/-- The endpoints of a file. -/
def inFile (file : NodeId) (es : List Endpoint) : List Endpoint :=
  es.filter (·.fileNodeId == some file)

/-- Flows within each of the files that have a source and a sink.  A failure concerns its file
    only. -/
def flowsByFile (settings : CompletionSettings) (sources sinks : List Endpoint)
    (investigation : String) : List NodeId → SessionM (List FlowPath)
  | [] => pure []
  | file :: rest => do
    let fileSources := inFile file sources
    let fileSinks := inFile file sinks
    if fileSources.isEmpty || fileSinks.isEmpty then
      flowsByFile settings sources sinks investigation rest
    else
      match ← (fileFlows settings file fileSources fileSinks).run with
      | .ok found =>
        Session.note .debug (s!"LlmAnalyzer: {found.length} flows in file node {file} for " ++
          s!"investigation {investigation}")
        let others ← flowsByFile settings sources sinks investigation rest
        pure (found ++ others)
      | .error e =>
        Session.warnOf .synthesis (s!"LlmAnalyzer: flow synthesis failed for file node {file} " ++
          s!"in investigation {investigation}: {e.message}")
        flowsByFile settings sources sinks investigation rest

/-- Flows within files. -/
def flows (settings : CompletionSettings) (sources sinks : List Endpoint)
    (investigation : String) : ReviewM (List FlowPath) := do
  if sources.isEmpty || sinks.isEmpty then pure []
  else flowsByFile settings sources sinks investigation (files (sources ++ sinks))

/-! ### The summary -/

/-- The lines of counts. -/
def countLines (counts : List (String × Nat)) : String :=
  String.join (counts.map fun (tag, n) => s!"  {tag}: {n}\n")

/-- The line of a path. -/
def pathLine (p : FlowPath) : String :=
  s!"- {p.vulnerabilityType} ({p.impact.tag}): {p.source.name} -> {p.sink.name}\n"

/-- The prompt for the summary. -/
def summaryPrompt (sources sinks : List Endpoint) (paths : List FlowPath)
    (investigation : String) : String :=
  s!"Investigation: {investigation}\n"
    ++ s!"Sources: {sources.length}\n" ++ countLines (categoryCounts sources)
    ++ s!"Sinks: {sinks.length}\n" ++ countLines (categoryCounts sinks)
    ++ s!"Data flow paths: {paths.length}\n" ++ countLines (impactCounts paths)
    ++ String.join (paths.map pathLine)
    ++ "\nSummarize the security posture these findings suggest and what to review first."

/-- Ask for the summary; a blank one is an error. -/
def summarize (settings : CompletionSettings) : Summarizer :=
  fun sources sinks paths investigation => do
    let answer ← ask settings summaryInstructions
      (summaryPrompt sources sinks paths investigation) settings.summaryMaxTokens
    if isBlankText answer then throw (.completion (.completion "empty summary response"))
    else pure (trimmed answer)

end CompletionAnalyzer

/-- The analyzer that judges by completions. -/
def Analyzer.completion (settings : CompletionSettings) : Analyzer where
  name := CompletionAnalyzer.name
  judge := CompletionAnalyzer.judge settings
  flows := CompletionAnalyzer.flows settings

end TaintReview
