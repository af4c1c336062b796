import TaintReview.Proofs.Steps

namespace TaintReview

/-!
# What a session shows of its calls

Every call of a service is recorded with its answer, and the graph's store is what these
answers say it is: a node is stored for each creation that was given an identity, and a
relationship for each one that was answered by `true`.

* `Creation`, `creations` — the creations of nodes among calls, with their answers;
* `failedLinks` — how many creations of relationships failed;
* `Adds s calls s'` — the session `s'` is `s` with the calls made: nothing in the store was
  changed or removed, and what was added is read off the calls;
* `Reads s s'` — between `s` and `s'` the services were asked and nothing was written, so that
  both would answer as before.
-/

/-! ### Reading calls -/

/-- The answer to the creation of a node. -/
abbrev CreationAnswer := Except ServiceError (Option NodeId)

/-- The creation of a node, as it was asked for and answered. -/
structure Creation where
  labels : List String
  properties : Fields
  answer : CreationAnswer

/-- Was an identity assigned? -/
def isAssigned : CreationAnswer → Bool
  | .ok (some _) => true
  | _ => false

namespace Creation

/-- The node that is stored for a creation. -/
def node? (c : Creation) : Option StoredNode :=
  match c.answer with
  | .ok (some id) => some { id, labels := c.labels, properties := c.properties }
  | _ => none

end Creation

namespace ServiceCall

/-- The creation of a node that a call asks for. -/
def creation? : ServiceCall → Option Creation
  | .createNode labels properties answer => some { labels, properties, answer }
  | _ => none

/-- The relationship that is stored for a call. -/
def relationship? : ServiceCall → Option Relationship
  | .createRelationship start target type (.ok true) =>
    some { start, target, type, properties := [] }
  | _ => none

/-- Does the call ask the graph to store something? -/
def isWrite : ServiceCall → Bool
  | .createNode .. | .createRelationship .. => true
  | .query .. | .complete .. => false

/-- Did the call fail to create a relationship?  One that is not created because an end is not
    there did not fail. -/
def isFailedLink : ServiceCall → Bool
  | .createRelationship _ _ _ (.error _) => true
  | _ => false

end ServiceCall

/-- The creations of nodes among calls. -/
def creations (calls : List ServiceCall) : List Creation := calls.filterMap (·.creation?)

/-- How many relationships could not be created. -/
def failedLinks (calls : List ServiceCall) : Nat := calls.countP (·.isFailedLink)

/-- The creations among calls stand in the order of the calls. -/
@[simp] theorem creations_append (first second : List ServiceCall) :
    creations (first ++ second) = creations first ++ creations second :=
  List.filterMap_append

/-- Relationships that could not be created are counted over all calls. -/
@[simp] theorem failedLinks_append (first second : List ServiceCall) :
    failedLinks (first ++ second) = failedLinks first + failedLinks second :=
  List.countP_append

/-- Among calls that do not write there are no creations. -/
theorem creations_of_reads {calls : List ServiceCall} (h : ∀ c ∈ calls, c.isWrite = false) :
    creations calls = [] := by
  refine List.filterMap_eq_nil_iff.mpr fun c hc => ?_
  cases c with
  | createNode => cases h _ hc
  | query | createRelationship | complete => rfl

/-- Among calls that do not write no relationship failed. -/
theorem failedLinks_of_reads {calls : List ServiceCall} (h : ∀ c ∈ calls, c.isWrite = false) :
    failedLinks calls = 0 := by
  refine List.countP_eq_zero.mpr fun c hc => ?_
  cases c with
  | createRelationship => cases h _ hc
  | query | createNode | complete => exact Bool.false_ne_true

/-! ### Sessions and their calls -/

/-- The second session is the first one after the calls were made.  The store kept all it had,
    and what it has got is what the answers to the calls say. -/
structure Adds (s : Session) (calls : List ServiceCall) (s' : Session) : Prop where
  recorded : s'.calls = s.calls ++ calls
  nodes : s'.graph.store.nodes = s.graph.store.nodes ++ (creations calls).filterMap (·.node?)
  relationships : s'.graph.store.relationships =
    s.graph.store.relationships ++ calls.filterMap (·.relationship?)
  attempts : s'.graph.attempts = s.graph.attempts ++ (creations calls).map (·.labels)

namespace Adds

variable {s s' s'' : Session} {first second : List ServiceCall}

/-- Without calls nothing is added. -/
theorem refl (s : Session) : Adds s [] s where
  recorded := (List.append_nil _).symm
  nodes := (List.append_nil _).symm
  relationships := (List.append_nil _).symm
  attempts := (List.append_nil _).symm

/-- Calls after calls add what both add, in their order. -/
theorem trans (h : Adds s first s') (h' : Adds s' second s'') :
    Adds s (first ++ second) s'' where
  recorded := by rw [h'.recorded, h.recorded, List.append_assoc]
  nodes := by
    rw [h'.nodes, h.nodes, creations_append, List.filterMap_append, List.append_assoc]
  relationships := by
    rw [h'.relationships, h.relationships, List.filterMap_append, List.append_assoc]
  attempts := by rw [h'.attempts, h.attempts, creations_append, List.map_append, List.append_assoc]

theorem log (h : Adds s first s') (events : List LogEvent) :
    Adds s first { s' with log := events } where
  recorded := h.recorded
  nodes := h.nodes
  relationships := h.relationships
  attempts := h.attempts

/-- What was in the log before makes no difference. -/
theorem ofLog {events : List LogEvent} (h : Adds { s with log := events } first s') :
    Adds s first s' where
  recorded := h.recorded
  nodes := h.nodes
  relationships := h.relationships
  attempts := h.attempts

/-- A query adds nothing to the store. -/
theorem runQuery (statement : String) (parameters : Parameters) (s : Session) :
    Adds s [.query statement parameters (s.graph.rows statement parameters)]
      ((Session.runQuery statement parameters).after s) where
  recorded := by
    rw [Session.after_runQuery]
    cases s.graph.answer? statement parameters <;> rfl
  nodes := by rw [Session.graph_runQuery]; exact (List.append_nil _).symm
  relationships := by rw [Session.graph_runQuery]; exact (List.append_nil _).symm
  attempts := by rw [Session.graph_runQuery]; exact (List.append_nil _).symm

/-- A creation adds a node exactly when it assigns an identity. -/
theorem createNode (labels : List String) (properties : Fields) (s : Session) :
    Adds s [.createNode labels properties ((Session.createNode labels properties).value s)]
      ((Session.createNode labels properties).after s) := by
  rw [Session.value_createNode, Session.after_createNode, Graph.createNode]
  -- The graph refuses, assigns no identity or stores the node.
  split
  · exact ⟨rfl, (List.append_nil _).symm, (List.append_nil _).symm, rfl⟩
  · split
    · exact ⟨rfl, (List.append_nil _).symm, (List.append_nil _).symm, rfl⟩
    · exact ⟨rfl, rfl, (List.append_nil _).symm, rfl⟩

/-- A relationship is added exactly when its creation is answered by `true`. -/
theorem createRelationship (start target : NodeId) (type : String) (s : Session) :
    Adds s [.createRelationship start target type
        ((Session.createRelationship start target type).value s)]
      ((Session.createRelationship start target type).after s) := by
  rw [Session.value_createRelationship, Session.after_createRelationship,
    Graph.createRelationship]
  -- The graph refuses, stores the relationship or misses one of its ends.
  split
  · exact ⟨rfl, (List.append_nil _).symm, (List.append_nil _).symm, (List.append_nil _).symm⟩
  · split
    · exact ⟨rfl, (List.append_nil _).symm, rfl, (List.append_nil _).symm⟩
    · exact ⟨rfl, (List.append_nil _).symm, (List.append_nil _).symm, (List.append_nil _).symm⟩

end Adds

/-! ### Asking without writing -/

/-- Between the two sessions the services were asked, and nothing was written. -/
structure Reads (s s' : Session) : Prop where
  graph : ∃ queries, s'.graph = { s.graph with queries }
  completion : ∃ calls, s'.completion = { s.completion with calls }
  calls : ∃ calls, s'.calls = s.calls ++ calls ∧ ∀ c ∈ calls, c.isWrite = false

namespace Reads

variable {s s' s'' : Session}

instance : Std.Refl Reads where
  refl _ := ⟨⟨_, rfl⟩, ⟨_, rfl⟩, [], (List.append_nil _).symm, List.forall_mem_nil _⟩

instance : IsTrans Session Reads where
  trans := by
    intro s s' s'' ⟨⟨queries, hg⟩, ⟨completed, hc⟩, first, hfirst, hreads⟩
      ⟨⟨queries', hg'⟩, ⟨completed', hc'⟩, second, hsecond, hreads'⟩
    refine ⟨⟨queries', by rw [hg', hg]⟩, ⟨completed', by rw [hc', hc]⟩, first ++ second, ?_, ?_⟩
    · rw [hsecond, hfirst, List.append_assoc]
    · exact List.forall_mem_append.mpr ⟨hreads, hreads'⟩

/-- The graph answers as before. -/
theorem rows_eq (h : Reads s s') (statement : String) (parameters : Parameters) :
    s'.graph.rows statement parameters = s.graph.rows statement parameters := by
  obtain ⟨queries, hg⟩ := h.graph
  rw [hg]
  rfl

theorem adds (h : Reads s s') :
    ∃ calls, Adds s calls s' ∧ creations calls = [] ∧ failedLinks calls = 0 := by
  obtain ⟨queries, hg⟩ := h.graph
  obtain ⟨calls, hcalls, hreads⟩ := h.calls
  have hcreations := creations_of_reads hreads
  refine ⟨calls, ⟨hcalls, ?_, ?_, ?_⟩, hcreations, failedLinks_of_reads hreads⟩
  · rw [hg, hcreations, List.filterMap_nil, List.append_nil]
  · -- A relationship is stored by a write alone.
    have hnone : calls.filterMap (·.relationship?) = [] := by
      refine List.filterMap_eq_nil_iff.mpr fun c hc => ?_
      cases c with
      | createRelationship => cases hreads _ hc
      | query | createNode | complete => rfl
    rw [hg, hnone, List.append_nil]
  · rw [hg, hcreations, List.map_nil, List.append_nil]

theorem log (s : Session) (events : List LogEvent) : Reads s { s with log := events } :=
  ⟨⟨_, rfl⟩, ⟨_, rfl⟩, [], (List.append_nil _).symm, List.forall_mem_nil _⟩

theorem note (level : LogLevel) (message : String) : Keeps Reads (Session.note level message) :=
  fun s => log s _

theorem warnOf (category : ErrorCategory) (message : String) :
    Keeps Reads (Session.warnOf category message) :=
  fun s => log s _

/-- A query asks the graph and writes nothing. -/
theorem runQuery (statement : String) (parameters : Parameters) :
    Keeps Reads (Session.runQuery statement parameters) := by
  intro s
  refine ⟨⟨_, Session.graph_runQuery statement parameters s⟩,
    ⟨_, Session.completion_runQuery statement parameters s⟩,
    _, (Adds.runQuery statement parameters s).recorded, ?_⟩
  exact List.forall_mem_singleton.mpr rfl

/-- A completion asks the service and writes nothing. -/
theorem complete (call : CompletionCall) : Keeps Reads (Session.complete call) :=
  fun _ => ⟨⟨_, rfl⟩, ⟨_, rfl⟩, _, rfl, List.forall_mem_singleton.mpr rfl⟩

theorem query (statement : String) (parameters : Parameters) :
    Keeps Reads (ReviewM.query statement parameters).run := by
  intro s
  rw [ReviewM.after_run, ReviewM.after_query]
  exact runQuery statement parameters s

end Reads

end TaintReview
