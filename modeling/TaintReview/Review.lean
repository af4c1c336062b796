import TaintReview.Analyzer.Completion
import TaintReview.Analyzer.Documentation
import TaintReview.Findings
import TaintReview.Funnel
import TaintReview.Persistence
import TaintReview.Tracker

namespace TaintReview

open Text

/-!
# Reviews

A review asks its funnels for candidates, lets its analyzers confirm them and propose flows,
writes the outcome back to the graph and reports it.  It goes through its stages in order and
looks for a cancellation at each boundary only.

* For each candidate the analyzers are asked in order, and the first confirmation counts.
* Every analyzer proposes flows, and all of them are kept.
* Only a request that cannot be served, an investigation that cannot be found and a
  cancellation end a run; every other failure is logged and counted, and its item is skipped.
-/

/-- A review: its settings and what it asks. -/
structure Review where
  settings : Settings
  /-- Is there a completion service? -/
  hasCompletion : Bool := false
  funnels : List Funnel := []
  analyzers : List Analyzer := []
  summarizer : Option Summarizer := none

/-- What is known about a run from outside: its name, when it took place and how long it
    stayed in each stage. -/
structure Stamp where
  runId : String
  timestamp : String
  elapsed : Stage → UInt64

/-! ### A summary without words -/

/-- The parts of a count, in parentheses. -/
def breakdown (counts : List (String × Nat)) : String :=
  if counts.isEmpty then ""
  else
    let parts := ", ".intercalate (counts.map fun (tag, n) => s!"{tag}: {n}")
    s!" ({parts})"

/-- The summary that counts what was found. -/
def fallbackSummary (sources sinks : List Endpoint) (paths : List FlowPath) : String :=
  s!"Identified {sources.length} sources{breakdown (categoryCounts sources)}, " ++
    s!"{sinks.length} sinks{breakdown (categoryCounts sinks)} and " ++
    s!"{paths.length} data flow paths{breakdown (impactCounts paths)}."

namespace Review

/-! ### Setting up -/

/-- A review with settings that can be used, which asks nothing yet. -/
def ofSettings (settings : Settings) (hasCompletion : Bool) : Except ReviewError Review := do
  settings.check
  pure { settings, hasCompletion }

/-- Add a funnel. -/
def register (r : Review) (f : Funnel) : SessionM Review := do
  Session.note .info s!"SourceSinkWorkflow: registered funnel {f.name}"
  pure { r with funnels := r.funnels ++ [f] }

/-- Add an analyzer, to be asked after those already there. -/
def registerAnalyzer (r : Review) (a : Analyzer) : SessionM Review := do
  Session.note .info s!"SourceSinkWorkflow: registered analyzer {a.name}"
  pure { r with analyzers := r.analyzers ++ [a] }

/-- Add the default funnel and analyzers.  With a completion service, completions are asked
    before documentation and also give the summary. -/
def setup (r : Review) : SessionM Review := do
  let r ← r.register (.keyword r.settings.funnel)
  let r ←
    if r.hasCompletion then
      let r ← r.registerAnalyzer (.completion r.settings.completion)
      pure { r with summarizer := some (CompletionAnalyzer.summarize r.settings.completion) }
    else pure r
  r.registerAnalyzer (.documentation r.settings.documentation)

/-- A review with the default funnel and analyzers. -/
def withDefaults (settings : Settings) (hasCompletion : Bool) : ReviewM Review := do
  let r ← (ofSettings settings hasCompletion : Except ReviewError Review)
  r.setup

/-! ### Candidates -/

/-- Look an investigation up. -/
def lookUp (id : String) : ReviewM Investigation := do
  match ← Session.runQuery Statement.investigationExists [("investigation_id", .string id)] with
  | .error e =>
    Session.note .error
      s!"SourceSinkWorkflow: investigation lookup failed for {id}: {e.message}"
    throw (.graph e)
  | .ok [] =>
    Session.note .error s!"SourceSinkWorkflow: investigation {id} not found"
    throw (.investigationNotFound id)
  | .ok (row :: _) => pure (Investigation.ofRecord id row)

/-- The candidates of all funnels, sources and sinks, repetitions included. -/
def gather (id : String) : List Funnel → SessionM (List Candidate × List Candidate)
  | [] => pure ([], [])
  | f :: rest => do
    let sources ← f.candidates .source id
    let sinks ← f.candidates .sink id
    let others ← gather id rest
    pure (sources ++ others.1, sinks ++ others.2)

/-- Ask the funnels for candidates. -/
def queryCandidates (r : Review) (id : String) :
    SessionM (List Candidate × List Candidate) := do
  let (sources, sinks) ← gather id r.funnels
  Session.note .info (s!"SourceSinkWorkflow: {sources.length} source candidates, " ++
    s!"{sinks.length} sink candidates")
  pure (sources, sinks)

/-! ### Confirmation -/

/-- What became of a candidate: the endpoint that confirms it, and how many analyzers failed
    before. -/
structure Judgement where
  endpoint : Option Endpoint := none
  failures : Nat := 0

/-- Ask the analyzers about a candidate until one confirms it. -/
def confirm (role : Role) (c : Candidate) : List Analyzer → SessionM Judgement
  | [] => pure {}
  | a :: rest => do
    match ← (a.judge role c).run with
    | .ok (some endpoint) => pure { endpoint := some endpoint }
    | .ok none => confirm role c rest
    | .error e =>
      Session.warnOf .candidate (s!"SourceSinkWorkflow: {a.name} failed on {role.noun} " ++
        s!"candidate {c.name} ({c.nodeId}): {e.message}")
      let judgement ← confirm role c rest
      pure { judgement with failures := judgement.failures + 1 }

/-- Ask about candidates one after the other. -/
def confirmAll (r : Review) (role : Role) : List Candidate → SessionM (List Judgement)
  | [] => pure []
  | c :: rest => do
    let judgement ← confirm role c r.analyzers
    let others ← confirmAll r role rest
    pure (judgement :: others)

/-- The endpoints among judgements. -/
def endpoints (js : List Judgement) : List Endpoint := js.filterMap (·.endpoint)

/-- The failures of all judgements. -/
def failures (js : List Judgement) : Nat := js.foldr (fun j n => j.failures + n) 0

/-! ### Flows and summary -/

/-- The flows that analyzers propose, and how many of the analyzers failed. -/
def synthesize (sources sinks : List Endpoint) (id : String) :
    List Analyzer → SessionM (List FlowPath × Nat)
  | [] => pure ([], 0)
  | a :: rest => do
    match ← (a.flows sources sinks id).run with
    | .ok found =>
      Session.note .info s!"SourceSinkWorkflow: {a.name} proposed {found.length} paths"
      let (paths, failed) ← synthesize sources sinks id rest
      pure (found ++ paths, failed)
    | .error e =>
      Session.warnOf .synthesis (s!"SourceSinkWorkflow: {a.name} flow synthesis failed for " ++
        s!"investigation {id}: {e.message}")
      let (paths, failed) ← synthesize sources sinks id rest
      pure (paths, failed + 1)

/-- Sum up what was found; counts stand in when there is no summary in words. -/
def summarize (r : Review) (sources sinks : List Endpoint) (paths : List FlowPath)
    (id : String) : SessionM String := do
  match r.summarizer with
  | none => pure (fallbackSummary sources sinks paths)
  | some summarizer =>
    match ← (summarizer sources sinks paths id).run with
    | .ok summary => pure summary
    | .error e =>
      Session.note .warn
        s!"SourceSinkWorkflow: summary generation failed, using counts: {e.message}"
      pure (fallbackSummary sources sinks paths)

/-! ### Runs -/

/-- Enter a stage, unless the run is cancelled.  A run that heeds no cancellation never is. -/
def enter (heeds : Bool) (stamp : Stamp) (t : Tracker) (stage : Stage) : ReviewM Tracker := do
  if heeds && (← get).cancellation.isSeen then
    Session.note .warn s!"SourceSinkWorkflow: cancelled before stage {stage.tag}"
    throw (.cancelled stage)
  let elapsed := stamp.elapsed t.current
  let moved := t.advance stage elapsed
  (moved.1 : Except ReviewError Unit)
  Session.note .debug (t.leaving stage elapsed)
  Session.note .info s!"SourceSinkWorkflow: entering stage {stage.tag}"
  pure moved.2

/-- Write what was found back, if the settings ask for it. -/
def persist (r : Review) (i : Investigation) (sources sinks : List Endpoint)
    (paths : List FlowPath) : SessionM PersistCounts := do
  if r.settings.persist then persistAll i sources sinks paths 0
  else
    Session.note .info "SourceSinkWorkflow: persistence disabled, skipping writes"
    pure {}

/-- The metadata of a run. -/
def metadata (r : Review) (stamp : Stamp) (candidates : List Candidate × List Candidate)
    (persisted : PersistCounts) (failures : RecoveredFailures) (timings : Metadata) : Metadata :=
  .ofFields
    [("analyzers", .ofList (fun a => .string a.name) r.analyzers),
     ("candidate_counts",
      .object [("sinks", .ofNat candidates.2.length), ("sources", .ofNat candidates.1.length)]),
     ("funnels", .ofList (fun f => .string f.name) r.funnels),
     ("persist_enabled", .bool r.settings.persist),
     ("persisted", .object persisted.toFields),
     ("recovered_failures", .object failures.toFields),
     ("run_id", .string stamp.runId),
     ("stage_timings_ms", timings.toJson),
     ("timestamp", .string stamp.timestamp),
     ("workflow_description", .string r.settings.description),
     ("workflow_name", .string r.settings.name)]

/-- The stages of a run for an investigation of which only the name is known. -/
def runStages (r : Review) (heeds : Bool) (stamp : Stamp) (id : String) : ReviewM Findings := do
  Session.note .info (s!"SourceSinkWorkflow: starting {r.settings.name} for investigation {id} " ++
    s!"({r.funnels.length} funnels, {r.analyzers.length} analyzers)")
  let tracker ← enter heeds stamp {} .queryCandidates
  let investigation ← lookUp id
  let candidates ← r.queryCandidates id
  let tracker ← enter heeds stamp tracker .confirmCandidates
  let sourceJudgements ← r.confirmAll .source candidates.1
  let sinkJudgements ← r.confirmAll .sink candidates.2
  let sources := endpoints sourceJudgements
  let sinks := endpoints sinkJudgements
  Session.note .info (s!"SourceSinkWorkflow: confirmed {sources.length}/{candidates.1.length} " ++
    s!"sources, {sinks.length}/{candidates.2.length} sinks")
  let tracker ← enter heeds stamp tracker .synthesizeFlows
  let (paths, failedAnalyzers) ← synthesize sources sinks id r.analyzers
  let tracker ← enter heeds stamp tracker .persist
  let persisted ← r.persist investigation sources sinks paths
  let tracker ← enter heeds stamp tracker .report
  let summary ← r.summarize sources sinks paths id
  let elapsed := stamp.elapsed tracker.current
  let done := tracker.advance .done elapsed
  (done.1 : Except ReviewError Unit)
  Session.note .debug (tracker.leaving .done elapsed)
  let recovered : RecoveredFailures :=
    { candidate := failures sourceJudgements + failures sinkJudgements
      synthesis := failedAnalyzers
      persistence := persisted.failed }
  Session.note .info (s!"SourceSinkWorkflow: investigation {id} done: {sources.length} sources, " ++
    s!"{sinks.length} sinks, {paths.length} paths, {recovered.total} recovered failures")
  pure
    { investigationId := id, sources, sinks, paths, summary
      metadata := r.metadata stamp candidates persisted recovered done.2.timingFields }

/-- Run the review for an investigation.  A blank name and a completion service that is asked
    for but not there are refused before anything is done. -/
def runHeeding (r : Review) (heeds : Bool) (stamp : Stamp) (id : String) : ReviewM Findings := do
  if isBlankText id then throw (.configuration "investigation id is required")
  else if r.settings.requireCompletion && !r.hasCompletion then throw .completionMissing
  else r.runStages heeds stamp (trimmed id)

/-- Run the review for an investigation. -/
def run (r : Review) (stamp : Stamp) (id : String) : ReviewM Findings :=
  r.runHeeding true stamp id

end Review

end TaintReview
