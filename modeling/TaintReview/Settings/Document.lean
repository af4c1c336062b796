import TaintReview.Settings
import TaintReview.Yaml.Printer

namespace TaintReview

open Yaml

/-!
# Settings documents

Settings as a YAML text.  Reading accepts any document that names some of the settings;
writing names all of them.
-/

/-! ### Reading -/

/-- The funnel's settings of a node. -/
def FunnelSettings.ofNode? : Yaml.Reading FunnelSettings := fun d n => do
  let s : FunnelSettings := {}
  let es ← Reading.entries d n
  pure {
    sourceKeywords := ← Reading.entry d es "source_keywords" s.sourceKeywords (.list .string)
    sinkKeywords := ← Reading.entry d es "sink_keywords" s.sinkKeywords (.list .string)
    limit := ← Reading.entry d es "limit" s.limit (.optional .uint64) }

/-- The completion settings of a node. -/
def CompletionSettings.ofNode? : Yaml.Reading CompletionSettings := fun d n => do
  let s : CompletionSettings := {}
  let es ← Reading.entries d n
  pure {
    temperature := ← Reading.entry d es "temperature" s.temperature .float32
    maxTokens := ← Reading.entry d es "max_tokens" s.maxTokens .uint32
    summaryMaxTokens := ← Reading.entry d es "summary_max_tokens" s.summaryMaxTokens .uint32
    codeCharBudget := ← Reading.entry d es "code_char_budget" s.codeCharBudget .uint64
    candidateCodeBudget :=
      ← Reading.entry d es "candidate_code_budget" s.candidateCodeBudget .uint64 }

/-- The documentation settings of a node. -/
def DocumentationSettings.ofNode? : Yaml.Reading DocumentationSettings := fun d n => do
  let s : DocumentationSettings := {}
  let es ← Reading.entries d n
  pure {
    maxCallHops := ← Reading.entry d es "max_call_hops" s.maxCallHops .uint32
    flowConfidence := ← Reading.entry d es "flow_confidence" s.flowConfidence .float }

/-- The settings of a node. -/
def Settings.ofNode? : Yaml.Reading Settings := fun d n => do
  let s : Settings := {}
  let es ← Reading.entries d n
  pure {
    name := ← Reading.entry d es "name" s.name .string
    description := ← Reading.entry d es "description" s.description .string
    requireCompletion := ← Reading.entry d es "require_llm" s.requireCompletion .bool
    maxConcurrency := ← Reading.entry d es "max_concurrency" s.maxConcurrency .uint64
    persist := ← Reading.entry d es "persist" s.persist .bool
    funnel := ← Reading.entry d es "funnel" s.funnel FunnelSettings.ofNode?
    completion := ← Reading.entry d es "llm" s.completion CompletionSettings.ofNode?
    documentation :=
      ← Reading.entry d es "documentation" s.documentation DocumentationSettings.ofNode? }

/-- The settings a text gives, whether or not they can be used. -/
def Settings.parse? (text : String) : Option Settings := do
  let d ← Document.parse? text.toList
  match d.root with
  | none => pure {}
  | some root => Settings.ofNode? d root

/-- Read settings that can be used. -/
def Settings.ofYaml (text : String) : Except ReviewError Settings :=
  match Settings.parse? text with
  | none => .error .yaml
  | some s => do
    s.check
    pure s

/-! ### Files -/

/-- What is found under a file's path. -/
inductive FileState where
  | absent
  | directory
  | content (bytes : ByteArray)

/-- Read the settings of a file. -/
def Settings.ofFile : FileState → Except ReviewError Settings
  | .absent => .error (.io "No such file or directory (os error 2)")
  | .directory => .error (.io "Is a directory (os error 21)")
  | .content bytes =>
    match String.fromUTF8? bytes with
    | some text => Settings.ofYaml text
    | none => .error (.io "stream did not contain valid UTF-8")

/-! ### Writing -/

/-- An entry whose value is written on the key's line. -/
def entryLine (key value : String) : String := key ++ ": " ++ value ++ "\n"

/-- An entry with a string. -/
def stringEntry (key value : String) : String :=
  key ++ ": " ++ String.ofList (stringText 2 value.toList)

/-- An entry with a list of strings, itself indented by two. -/
def listEntry (key : String) (values : List String) : String :=
  if values.isEmpty then entryLine ("  " ++ key) "[]"
  else
    "  " ++ key ++ ":\n"
      ++ String.join (values.map fun v => "  - " ++ String.ofList (stringText 4 v.toList))

/-- The text of the funnel's settings. -/
def FunnelSettings.toYaml (s : FunnelSettings) : String :=
  "funnel:\n" ++ listEntry "source_keywords" s.sourceKeywords
    ++ listEntry "sink_keywords" s.sinkKeywords
    ++ entryLine "  limit" (match s.limit with | some n => s!"{n}" | none => "null")

/-- The text of the completion settings. -/
def CompletionSettings.toYaml (s : CompletionSettings) : String :=
  "llm:\n" ++ entryLine "  temperature" (float32Text s.temperature)
    ++ entryLine "  max_tokens" s!"{s.maxTokens}"
    ++ entryLine "  summary_max_tokens" s!"{s.summaryMaxTokens}"
    ++ entryLine "  code_char_budget" s!"{s.codeCharBudget}"
    ++ entryLine "  candidate_code_budget" s!"{s.candidateCodeBudget}"

/-- The text of the documentation settings. -/
def DocumentationSettings.toYaml (s : DocumentationSettings) : String :=
  "documentation:\n" ++ entryLine "  max_call_hops" s!"{s.maxCallHops}"
    ++ entryLine "  flow_confidence" (floatText s.flowConfidence)

/-- The text of the settings. -/
def Settings.toYaml (s : Settings) : String :=
  stringEntry "name" s.name ++ stringEntry "description" s.description
    ++ entryLine "require_llm" s!"{s.requireCompletion}"
    ++ entryLine "max_concurrency" s!"{s.maxConcurrency}"
    ++ entryLine "persist" s!"{s.persist}"
    ++ s.funnel.toYaml ++ s.completion.toYaml ++ s.documentation.toYaml

/-- Equality of settings, numbers compared as numbers. -/
def Settings.same (s t : Settings) : Bool :=
  Json.same (.object s.toFields) (.object t.toFields)

end TaintReview
