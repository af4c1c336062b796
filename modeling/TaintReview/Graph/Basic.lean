import TaintReview.Graph.Store
import TaintReview.Text.Quoted

namespace TaintReview

open Text

/-!
# The code graph

A graph in memory.  It does not interpret statements: each one is answered by the handler
that was registered for it, a function of the parameters and of the store.  Writes only add.
A graph may be told to fail certain statements and writes, and it keeps a record of what was
asked of it.
-/

/-- What can be cancelled: the run at hand, or the review with all its later runs. -/
inductive CancelScope where
  | run
  | review
deriving DecidableEq, Repr

/-- The answer to a query, and what was cancelled while it was being answered. -/
structure Reply where
  rows : Except ServiceError (List Record)
  cancels : List CancelScope := []

/-- Computes the answer to a statement. -/
abbrev Handler := Parameters → Store → Reply

/-- A query that was issued. -/
structure QueryCall where
  statement : String
  parameters : Parameters

/-- A graph in memory. -/
structure Graph where
  store : Store := {}
  /-- The identity of the next node. -/
  nextId : NodeId := 1
  /-- Handlers by statement; of two for one statement the first counts. -/
  handlers : List (String × Handler) := []
  failingStatements : List String := []
  /-- Labels whose nodes get no identity and are not kept. -/
  withheldLabels : List String := []
  failingLabels : List String := []
  failingTypes : List String := []
  /-- All queries so far. -/
  queries : List QueryCall := []
  /-- The labels of all nodes that were to be created so far. -/
  attempts : List (List String) := []

namespace Graph

/-! ### Filling a graph -/

/-- Put a node of a chosen identity into the graph. -/
def insertNode (g : Graph) (n : StoredNode) : Graph :=
  { g with
    store := g.store.replaceNode n
    nextId := if g.nextId ≤ n.id then n.id + 1 else g.nextId }

/-- Put a relationship into the graph, whether or not its ends are there. -/
def insertRelationship (g : Graph) (start target : NodeId) (type : String) : Graph :=
  { g with store := g.store.addRelationship { start, target, type, properties := [] } }

/-- Register the handler of a statement. -/
def onQuery (g : Graph) (statement : String) (handler : Handler) : Graph :=
  { g with handlers := (statement, handler) :: g.handlers }

/-- Let a statement fail. -/
def failQuery (g : Graph) (statement : String) : Graph :=
  { g with failingStatements := statement :: g.failingStatements }

/-- Keep no nodes with the label. -/
def withholdIds (g : Graph) (label : String) : Graph :=
  { g with withheldLabels := label :: g.withheldLabels }

/-- Let the creation of nodes with the label fail. -/
def failWrites (g : Graph) (label : String) : Graph :=
  { g with failingLabels := label :: g.failingLabels }

/-- Let the creation of relationships of the type fail. -/
def failRelationships (g : Graph) (type : String) : Graph :=
  { g with failingTypes := type :: g.failingTypes }

/-! ### Queries -/

/-- The answer to a statement; none when no handler is registered for it. -/
def answer? (g : Graph) (statement : String) (parameters : Parameters) : Option Reply :=
  if g.failingStatements.contains statement then
    some { rows := .error (.query s!"scripted failure for statement: {statement}") }
  else (g.handlers.lookup statement).map fun handler => handler parameters g.store

/-- The rows with which a statement is answered; without a handler there are none. -/
def rows (g : Graph) (statement : String) (parameters : Parameters) :
    Except ServiceError (List Record) :=
  match g.answer? statement parameters with
  | some reply => reply.rows
  | none => .ok []

/-- Record a query. -/
def noteQuery (g : Graph) (statement : String) (parameters : Parameters) : Graph :=
  { g with queries := g.queries ++ [{ statement, parameters }] }

/-- How often a statement was issued. -/
def queryCount (g : Graph) (statement : String) : Nat :=
  (g.queries.filter (·.statement == statement)).length

/-! ### Writes -/

/-- How often a node with the label was to be created. -/
def attemptCount (g : Graph) (label : String) : Nat :=
  (g.attempts.filter (·.contains label)).length

/-- Create a node.  The graph assigns its identity, or keeps nothing. -/
def createNode (g : Graph) (labels : List String) (properties : Fields) :
    Except ServiceError (Option NodeId) × Graph :=
  let noted := { g with attempts := g.attempts ++ [labels] }
  if labels.any g.failingLabels.contains then
    (.error (.write s!"scripted write failure for labels {quotedList labels}"), noted)
  else if labels.any g.withheldLabels.contains then (.ok none, noted)
  else
    (.ok (some g.nextId),
      { noted with
        store := g.store.addNode { id := g.nextId, labels, properties }
        nextId := g.nextId + 1 })

/-- Create a relationship.  Both ends must be there; otherwise nothing is done. -/
def createRelationship (g : Graph) (start target : NodeId) (type : String)
    (properties : Fields) : Except ServiceError Bool × Graph :=
  if g.failingTypes.contains type then
    (.error (.write s!"scripted write failure for relationship {type}"), g)
  else if g.store.hasNode start && g.store.hasNode target then
    (.ok true, { g with store := g.store.addRelationship { start, target, type, properties } })
  else (.ok false, g)

end Graph

end TaintReview
