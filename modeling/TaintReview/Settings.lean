import TaintReview.Error
import TaintReview.Lexicon.Tables
import TaintReview.Text.Basic

namespace TaintReview

open Text Decimal

/-!
# Settings of a review

What a review is asked to do and within which limits.  Every setting has a default, so a
document only names those it changes.  `Settings.check` finds the first setting that cannot
be used; the order of its tests is part of what a user sees.
-/

/-- How candidates are looked for by keyword. -/
structure FunnelSettings where
  sourceKeywords : List String := Lexicon.defaultSourceKeywords
  sinkKeywords : List String := Lexicon.defaultSinkKeywords
  /-- At most this many rows a query; without it the store decides. -/
  limit : Option UInt64 := none
deriving DecidableEq

/-- How the completion service is asked. -/
structure CompletionSettings where
  temperature : Float32 := 0.1
  /-- The longest answer to a confirmation or a flow prompt. -/
  maxTokens : UInt32 := 1024
  /-- The longest summary. -/
  summaryMaxTokens : UInt32 := 800
  /-- Characters of code for each entity of a flow prompt. -/
  codeCharBudget : UInt64 := 2000
  /-- Characters of code in the prompt of one candidate. -/
  candidateCodeBudget : UInt64 := 8000
deriving DecidableEq

/-- How documentation is read as evidence. -/
structure DocumentationSettings where
  /-- The longest call path that counts as a flow. -/
  maxCallHops : UInt32 := 3
  /-- The confidence of a flow along a call path. -/
  flowConfidence : Float := 0.6
deriving DecidableEq

/-- The settings of a review. -/
structure Settings where
  name : String := "sources_and_sinks"
  description : String := "Identify taint sources and sinks and the data flows between them"
  /-- Refuse to run without a completion service. -/
  requireCompletion : Bool := false
  /-- Candidates confirmed at a time. -/
  maxConcurrency : UInt64 := 1
  /-- Write what was confirmed back to the graph. -/
  persist : Bool := true
  funnel : FunnelSettings := {}
  completion : CompletionSettings := {}
  documentation : DocumentationSettings := {}
deriving DecidableEq

/-! ### What cannot be used -/

/-- Why settings cannot be used. -/
inductive SettingsProblem where
  | blankName
  | concurrency (value : UInt64)
  | noSourceKeywords
  | noSinkKeywords
  | zeroLimit
  | temperature (value : Float32)
  | zeroTokens
  | smallCodeBudget (value : UInt64)
  | smallCandidateBudget
  | callHops (value : UInt32)
  | flowConfidence (value : Float)
deriving DecidableEq

/-- The text of a value outside its range. -/
def outsideRange (field value least greatest hint : String) : String :=
  s!"{field} = {value} is outside {least}..={greatest} ({hint})"

/-- The text of a problem. -/
def SettingsProblem.message : SettingsProblem → String
  | .blankName => "name must not be empty"
  | .concurrency n =>
    outsideRange "max_concurrency" s!"{n}" "1" "64" "Concurrent confirmations must be bounded"
  | .noSourceKeywords => "funnel.source_keywords must not be empty"
  | .noSinkKeywords => "funnel.sink_keywords must not be empty"
  | .zeroLimit => "funnel.limit must be at least 1"
  | .temperature x =>
    outsideRange "llm.temperature" (prose (.ofFloat32 x)) "0" "2" "Sampling temperature"
  | .zeroTokens => "llm token limits must be at least 1"
  | .smallCodeBudget n =>
    outsideRange "llm.code_char_budget" s!"{n}" "100" "18446744073709551615"
      "Too little code leaves nothing to reason about"
  | .smallCandidateBudget => "llm.candidate_code_budget must be >= llm.code_char_budget"
  | .callHops n =>
    outsideRange "documentation.max_call_hops" s!"{n}" "1" "10" "Call paths are bounded"
  | .flowConfidence x =>
    outsideRange "documentation.flow_confidence" (prose (.ofFloat x)) "0" "1"
      "Confidence is a unit score"

/-- The first problem of the funnel's settings: each set of keywords must have one that is
    not blank, and a limit must let a row through. -/
def FunnelSettings.problem? (s : FunnelSettings) : Option SettingsProblem :=
  if s.sourceKeywords.all isBlankText then some .noSourceKeywords
  else if s.sinkKeywords.all isBlankText then some .noSinkKeywords
  else if s.limit = some 0 then some .zeroLimit
  else none

/-- The first problem of the completion settings. -/
def CompletionSettings.problem? (s : CompletionSettings) : Option SettingsProblem :=
  if !(0 ≤ s.temperature && s.temperature ≤ 2) then some (.temperature s.temperature)
  else if s.maxTokens = 0 ∨ s.summaryMaxTokens = 0 then some .zeroTokens
  else if s.codeCharBudget < 100 then some (.smallCodeBudget s.codeCharBudget)
  else if s.candidateCodeBudget < s.codeCharBudget then some .smallCandidateBudget
  else none

/-- The first problem of the documentation settings. -/
def DocumentationSettings.problem? (s : DocumentationSettings) : Option SettingsProblem :=
  if s.maxCallHops = 0 ∨ 10 < s.maxCallHops then some (.callHops s.maxCallHops)
  else if !(0 ≤ s.flowConfidence && s.flowConfidence ≤ 1) then
    some (.flowConfidence s.flowConfidence)
  else none

/-- The first problem of the settings. -/
def Settings.problem? (s : Settings) : Option SettingsProblem :=
  if isBlankText s.name then some .blankName
  else if s.maxConcurrency = 0 ∨ 64 < s.maxConcurrency then some (.concurrency s.maxConcurrency)
  else s.funnel.problem?.or (s.completion.problem?.or s.documentation.problem?)

/-- Report a problem as an error of the review. -/
def SettingsProblem.report : Option SettingsProblem → Except ReviewError Unit
  | none => .ok ()
  | some problem => .error (.configuration problem.message)

/-- Refuse settings that cannot be used. -/
def Settings.check (s : Settings) : Except ReviewError Unit := SettingsProblem.report s.problem?

/-! ### Settings as JSON values -/

/-- The members of the funnel's settings. -/
def FunnelSettings.toFields (s : FunnelSettings) : Fields :=
  [("limit", .ofOption .ofUInt64 s.limit),
   ("sink_keywords", .ofList .string s.sinkKeywords),
   ("source_keywords", .ofList .string s.sourceKeywords)]

/-- The members of the completion settings. -/
def CompletionSettings.toFields (s : CompletionSettings) : Fields :=
  [("candidate_code_budget", .ofUInt64 s.candidateCodeBudget),
   ("code_char_budget", .ofUInt64 s.codeCharBudget),
   ("max_tokens", .ofUInt32 s.maxTokens),
   ("summary_max_tokens", .ofUInt32 s.summaryMaxTokens),
   ("temperature", .ofFloat s.temperature.toFloat)]

/-- The members of the documentation settings. -/
def DocumentationSettings.toFields (s : DocumentationSettings) : Fields :=
  [("flow_confidence", .ofFloat s.flowConfidence), ("max_call_hops", .ofUInt32 s.maxCallHops)]

/-- The members of the settings. -/
def Settings.toFields (s : Settings) : Fields :=
  [("description", .string s.description),
   ("documentation", .object s.documentation.toFields),
   ("funnel", .object s.funnel.toFields),
   ("llm", .object s.completion.toFields),
   ("max_concurrency", .ofUInt64 s.maxConcurrency),
   ("name", .string s.name),
   ("persist", .bool s.persist),
   ("require_llm", .bool s.requireCompletion)]

open Decode

/-- Read the funnel's settings. -/
def FunnelSettings.decode : Decoder FunnelSettings :=
  let d : FunnelSettings := {}
  record "FunnelConfig"
    (fun m => do
      let limit ← memberOr m "limit" d.limit (nullable size)
      let sinkKeywords ← memberOr m "sink_keywords" d.sinkKeywords (list string)
      let sourceKeywords ← memberOr m "source_keywords" d.sourceKeywords (list string)
      pure { sourceKeywords, sinkKeywords, limit })
    (do
      let sourceKeywords ← itemOr d.sourceKeywords (list string)
      let sinkKeywords ← itemOr d.sinkKeywords (list string)
      let limit ← itemOr d.limit (nullable size)
      pure { sourceKeywords, sinkKeywords, limit })

/-- Read the completion settings. -/
def CompletionSettings.decode : Decoder CompletionSettings :=
  let d : CompletionSettings := {}
  record "LlmConfig"
    (fun m => do
      let candidateCodeBudget ← memberOr m "candidate_code_budget" d.candidateCodeBudget size
      let codeCharBudget ← memberOr m "code_char_budget" d.codeCharBudget size
      let maxTokens ← memberOr m "max_tokens" d.maxTokens uint32
      let summaryMaxTokens ← memberOr m "summary_max_tokens" d.summaryMaxTokens uint32
      let temperature ← memberOr m "temperature" d.temperature float32
      pure { temperature, maxTokens, summaryMaxTokens, codeCharBudget, candidateCodeBudget })
    (do
      let temperature ← itemOr d.temperature float32
      let maxTokens ← itemOr d.maxTokens uint32
      let summaryMaxTokens ← itemOr d.summaryMaxTokens uint32
      let codeCharBudget ← itemOr d.codeCharBudget size
      let candidateCodeBudget ← itemOr d.candidateCodeBudget size
      pure { temperature, maxTokens, summaryMaxTokens, codeCharBudget, candidateCodeBudget })

/-- Read the documentation settings. -/
def DocumentationSettings.decode : Decoder DocumentationSettings :=
  let d : DocumentationSettings := {}
  record "DocumentationConfig"
    (fun m => do
      let flowConfidence ← memberOr m "flow_confidence" d.flowConfidence float
      let maxCallHops ← memberOr m "max_call_hops" d.maxCallHops uint32
      pure { maxCallHops, flowConfidence })
    (do
      let maxCallHops ← itemOr d.maxCallHops uint32
      let flowConfidence ← itemOr d.flowConfidence float
      pure { maxCallHops, flowConfidence })

/-- Read the settings. -/
def Settings.decode : Decoder Settings :=
  let d : Settings := {}
  record "WorkflowConfig"
    (fun m => do
      let description ← memberOr m "description" d.description string
      let documentation ← memberOr m "documentation" d.documentation DocumentationSettings.decode
      let funnel ← memberOr m "funnel" d.funnel FunnelSettings.decode
      let completion ← memberOr m "llm" d.completion CompletionSettings.decode
      let maxConcurrency ← memberOr m "max_concurrency" d.maxConcurrency size
      let name ← memberOr m "name" d.name string
      let persist ← memberOr m "persist" d.persist bool
      let requireCompletion ← memberOr m "require_llm" d.requireCompletion bool
      pure { name, description, requireCompletion, maxConcurrency, persist, funnel, completion,
             documentation })
    (do
      let name ← itemOr d.name string
      let description ← itemOr d.description string
      let requireCompletion ← itemOr d.requireCompletion bool
      let maxConcurrency ← itemOr d.maxConcurrency size
      let persist ← itemOr d.persist bool
      let funnel ← itemOr d.funnel FunnelSettings.decode
      let completion ← itemOr d.completion CompletionSettings.decode
      let documentation ← itemOr d.documentation DocumentationSettings.decode
      pure { name, description, requireCompletion, maxConcurrency, persist, funnel, completion,
             documentation })

end TaintReview
