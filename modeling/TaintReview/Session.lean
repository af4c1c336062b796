import TaintReview.Completion
import TaintReview.Graph.Basic

namespace TaintReview

/-!
# Sessions

A session is all that a run can see and change: the graph, the completion service, what was
cancelled and the log.  A step of a run is a function on sessions; a step that can fail keeps
what it did to the session before it failed.  The calls of both services are recorded in one
order; no step reads that record, which only statements about runs refer to.
-/

/-! ### Log events -/

/-- How urgent an event is. -/
inductive LogLevel where
  | debug
  | info
  | warn
  | error
deriving DecidableEq, Repr

/-- The level's name. -/
def LogLevel.tag : LogLevel → String
  | .debug => "DEBUG"
  | .info => "INFO"
  | .warn => "WARN"
  | .error => "ERROR"

/-- An event of the log.  One about a failure that the run recovers from carries the category of
    that failure. -/
structure LogEvent where
  level : LogLevel
  category : Option ErrorCategory := none
  message : String
deriving DecidableEq, Repr

/-! ### What a run can see -/

/-- What was cancelled.  A run that nobody can cancel by itself has no state of its own. -/
structure Cancellation where
  review : Bool := false
  run : Option Bool := none
deriving DecidableEq, Repr

namespace Cancellation

/-- Cancel something.  What was cancelled stays cancelled. -/
def cancel (c : Cancellation) : CancelScope → Cancellation
  | .review => { c with review := true }
  | .run => { c with run := c.run.map fun _ => true }

/-- Must a run stop at the next boundary between stages? -/
def isSeen (c : Cancellation) : Bool := c.review || c.run == some true

end Cancellation

/-- A call of a service and its answer. -/
inductive ServiceCall where
  | query (statement : String) (parameters : Parameters)
      (answer : Except ServiceError (List Record))
  | createNode (labels : List String) (properties : Fields)
      (answer : Except ServiceError (Option NodeId))
  | createRelationship (start target : NodeId) (type : String)
      (answer : Except ServiceError Bool)
  | complete (call : CompletionCall) (answer : Except ServiceError String)

/-- All that a run can see and change. -/
structure Session where
  graph : Graph := {}
  completion : Completion := {}
  cancellation : Cancellation := {}
  log : List LogEvent := []
  /-- All calls of the services so far. -/
  calls : List ServiceCall := []

/-- A step on a session. -/
abbrev SessionM := StateM Session

/-- A step on a session that can fail. -/
abbrev ReviewM := ExceptT ReviewError SessionM

namespace Session

/-- Add an event to the log. -/
def note (level : LogLevel) (message : String) : SessionM Unit :=
  modify fun s => { s with log := s.log ++ [{ level, message }] }

/-- Add an event about a failure that the run recovers from. -/
def warnOf (category : ErrorCategory) (message : String) : SessionM Unit :=
  let event : LogEvent := { level := .warn, category := some category, message }
  modify fun s => { s with log := s.log ++ [event] }

/-- Cancel something. -/
def cancel (scope : CancelScope) : SessionM Unit :=
  modify fun s => { s with cancellation := s.cancellation.cancel scope }

/-- Record a call of a service. -/
def noteCall (call : ServiceCall) : SessionM Unit :=
  modify fun s => { s with calls := s.calls ++ [call] }

/-- Issue a query.  It is recorded before it is answered. -/
def runQuery (statement : String) (parameters : Parameters) :
    SessionM (Except ServiceError (List Record)) := do
  let s ← get
  set { s with graph := s.graph.noteQuery statement parameters }
  let rows := s.graph.rows statement parameters
  noteCall (.query statement parameters rows)
  match s.graph.answer? statement parameters with
  | some reply =>
    modify fun s => { s with cancellation := reply.cancels.foldl .cancel s.cancellation }
  | none => note .debug "MemoryGraph: no handler for statement, returning no rows"
  pure rows

/-- Create a node. -/
def createNode (labels : List String) (properties : Fields) :
    SessionM (Except ServiceError (Option NodeId)) := do
  let s ← get
  let (outcome, graph) := s.graph.createNode labels properties
  set { s with graph }
  noteCall (.createNode labels properties outcome)
  pure outcome

/-- Create a relationship without properties. -/
def createRelationship (start target : NodeId) (type : String) :
    SessionM (Except ServiceError Bool) := do
  let s ← get
  let (outcome, graph) := s.graph.createRelationship start target type []
  set { s with graph }
  noteCall (.createRelationship start target type outcome)
  pure outcome

/-- Ask the completion service. -/
def complete (call : CompletionCall) : SessionM (Except ServiceError String) := do
  let s ← get
  set { s with completion := s.completion.noteCall call }
  let answer := s.completion.answer call.user
  noteCall (.complete call answer)
  pure answer

end Session

/-- Issue a query whose failure is an error of the review. -/
def ReviewM.query (statement : String) (parameters : Parameters) : ReviewM (List Record) := do
  match ← Session.runQuery statement parameters with
  | .ok rows => pure rows
  | .error e => throw (.graph e)

/-- Ask the completion service; its failure is an error of the review. -/
def ReviewM.complete (call : CompletionCall) : ReviewM String := do
  match ← Session.complete call with
  | .ok text => pure text
  | .error e => throw (.completion e)

end TaintReview
