import TaintReview.Proofs.Calls

namespace TaintReview

/-!
# Steps that act through the services

A step may look at all of a session, its log and its record of calls included.  The steps of a
review do not: what they do depends on how the two services answer, and on nothing else.

* `MadeOf base x` — the step `x` is put together from questions to the services, from events for
  the log and from steps of the kind `base`.  What holds of these and of sequences holds of `x`;
* `Alike s t` — the services of both sessions would answer alike;
* `Faithful x` — in such sessions `x` gives the same value, makes the same calls and cancels the
  same;
* `MadeOf.reads`, `MadeOf.faithful` — steps made of steps that only ask only ask, and steps made
  of faithful ones are faithful.
-/

variable {α β : Type}

/-! ### How steps are put together -/

/-- The step is made of questions to the services, events for the log and steps of a kind. -/
inductive MadeOf (base : (α : Type) → SessionM α → Prop) : {α : Type} → SessionM α → Prop
  | pure {α : Type} (a : α) : MadeOf base (Pure.pure a : SessionM α)
  | bind {α β : Type} {x : SessionM α} {f : α → SessionM β} (first : MadeOf base x)
      (next : ∀ a, MadeOf base (f a)) : MadeOf base (x >>= f : SessionM β)
  | note (level : LogLevel) (message : String) : MadeOf base (Session.note level message)
  | warnOf (category : ErrorCategory) (message : String) :
      MadeOf base (Session.warnOf category message)
  | runQuery (statement : String) (parameters : Parameters) :
      MadeOf base (Session.runQuery statement parameters)
  | complete (call : CompletionCall) : MadeOf base (Session.complete call)
  | base {α : Type} {x : SessionM α} (h : base α x) : MadeOf base x

namespace MadeOf

variable {base : (α : Type) → SessionM α → Prop}

/-- A plain value is made of nothing. -/
theorem run_pure (a : α) : MadeOf base (Pure.pure a : ReviewM α).run := .pure _

theorem run_throw (e : ReviewError) : MadeOf base (throw e : ReviewM α).run := .pure _

theorem run_liftExcept (x : Except ReviewError α) : MadeOf base (liftM x : ReviewM α).run :=
  .pure _

/-- A step that cannot fail is made of the same among steps that can. -/
theorem run_lift {x : SessionM α} (hx : MadeOf base x) : MadeOf base (liftM x : ReviewM α).run :=
  .bind hx fun _ => .pure _

/-- A sequence is made of what its parts are made of. -/
theorem run_bind {x : ReviewM α} {f : α → ReviewM β} (hx : MadeOf base x.run)
    (hf : ∀ a, MadeOf base (f a).run) : MadeOf base (x >>= f : ReviewM β).run := by
  rw [ExceptT.run_bind]
  refine .bind hx fun result => ?_
  cases result with
  | ok a => exact hf a
  -- After a failure nothing more is done, which is made of nothing.
  | error e => exact .pure _

/-- A query of a review is a question to the graph. -/
theorem query (statement : String) (parameters : Parameters) :
    MadeOf base (ReviewM.query statement parameters).run := by
  refine .run_bind (.run_lift (.runQuery statement parameters)) fun rows => ?_
  cases rows with
  | ok rows => exact .run_pure rows
  | error e => exact .run_throw _

/-- A completion of a review is a question to the completion service. -/
theorem ask (call : CompletionCall) : MadeOf base (ReviewM.complete call).run := by
  refine .run_bind (.run_lift (.complete call)) fun answer => ?_
  cases answer with
  | ok text => exact .run_pure text
  | error e => exact .run_throw _

/-- What is made of steps that only ask only asks. -/
theorem reads {x : SessionM α} (h : MadeOf (fun _ => Keeps Reads) x) : Keeps Reads x := by
  induction h with
  | pure a => exact .pure a
  | bind _ _ hx hf => exact .bind hx hf
  | note level message => exact Reads.note level message
  | warnOf category message => exact Reads.warnOf category message
  | runQuery statement parameters => exact Reads.runQuery statement parameters
  | complete call => exact Reads.complete call
  | base h => exact h

end MadeOf

/-! ### Sessions that answer alike -/

/-- The services of the two sessions would answer alike: they differ at most in their records of
    what was asked. -/
structure Alike (s t : Session) : Prop where
  graph : ∃ queries attempts, t.graph = { s.graph with queries, attempts }
  completion : ∃ calls, t.completion = { s.completion with calls }

namespace Alike

variable {s t u : Session}

/-- A session answers like itself. -/
theorem refl (s : Session) : Alike s s := ⟨⟨_, _, rfl⟩, ⟨_, rfl⟩⟩

/-- Which of the two sessions is named first does not matter. -/
theorem symm (h : Alike s t) : Alike t s := by
  obtain ⟨⟨queries, attempts, hg⟩, calls, hc⟩ := h
  exact ⟨⟨s.graph.queries, s.graph.attempts, by rw [hg]⟩, s.completion.calls, by rw [hc]⟩

theorem trans (h : Alike s t) (h' : Alike t u) : Alike s u := by
  obtain ⟨⟨queries, attempts, hg⟩, calls, hc⟩ := h
  obtain ⟨⟨queries', attempts', hg'⟩, calls', hc'⟩ := h'
  exact ⟨⟨queries', attempts', by rw [hg', hg]⟩, calls', by rw [hc', hc]⟩

/-- Asking changes no answer. -/
theorem of_reads (h : Reads s t) : Alike s t := by
  obtain ⟨queries, hg⟩ := h.graph
  exact ⟨⟨queries, s.graph.attempts, hg⟩, h.completion⟩

/-- The graphs of such sessions give one answer, together with what it cancels. -/
theorem answer?_eq (h : Alike s t) (statement : String) (parameters : Parameters) :
    t.graph.answer? statement parameters = s.graph.answer? statement parameters := by
  obtain ⟨queries, attempts, hg⟩ := h.graph
  rw [hg]
  rfl

/-- The graphs of such sessions give the same rows. -/
theorem rows_eq (h : Alike s t) (statement : String) (parameters : Parameters) :
    t.graph.rows statement parameters = s.graph.rows statement parameters := by
  rw [Graph.rows, Graph.rows, h.answer?_eq]

end Alike

/-! ### Faithful steps -/

/-- In two sessions a step gives the same value, leaves the services alike, makes the same calls
    and cancels the same. -/
structure InStep (x : SessionM α) (s t : Session) : Prop where
  value : x.value t = x.value s
  alike : Alike (x.after s) (x.after t)
  calls : ∃ calls, (x.after s).calls = s.calls ++ calls ∧ (x.after t).calls = t.calls ++ calls
  cancels : ∃ scopes : List CancelScope,
    (x.after s).cancellation = scopes.foldl .cancel s.cancellation ∧
      (x.after t).cancellation = scopes.foldl .cancel t.cancellation

/-- The step acts through the services only: it is in step with itself in all sessions whose
    services answer alike. -/
def Faithful (x : SessionM α) : Prop := ∀ s t, Alike s t → InStep x s t

namespace Faithful

/-- A step that makes no call and cancels nothing. -/
theorem of_quiet {x : SessionM α} {a : α}
    (h : ∀ s, x.value s = a ∧ ∃ log, x.after s = { s with log }) : Faithful x := by
  intro s t hst
  obtain ⟨hvalue, log, hafter⟩ := h s
  obtain ⟨hvalue', log', hafter'⟩ := h t
  refine ⟨by rw [hvalue, hvalue'], ?_, ⟨[], ?_, ?_⟩, ⟨[], ?_, ?_⟩⟩
  · rw [hafter, hafter']
    exact ⟨hst.graph, hst.completion⟩
  · rw [hafter, List.append_nil]
  · rw [hafter', List.append_nil]
  · rw [hafter, List.foldl_nil]
  · rw [hafter', List.foldl_nil]

theorem pure (a : α) : Faithful (Pure.pure a : SessionM α) :=
  of_quiet fun s => ⟨rfl, s.log, rfl⟩

theorem note (level : LogLevel) (message : String) : Faithful (Session.note level message) :=
  of_quiet fun _ => ⟨rfl, _, rfl⟩

theorem warnOf (category : ErrorCategory) (message : String) :
    Faithful (Session.warnOf category message) :=
  of_quiet fun _ => ⟨rfl, _, rfl⟩

/-- A sequence of faithful steps is faithful. -/
theorem bind {x : SessionM α} {f : α → SessionM β} (hx : Faithful x)
    (hf : ∀ a, Faithful (f a)) : Faithful (x >>= f : SessionM β) := by
  intro s t hst
  -- The first part leaves the sessions alike, so the second one is in step again.
  have hfirst := hx s t hst
  have hnext := hf (x.value s) (x.after s) (x.after t) hfirst.alike
  obtain ⟨calls, hcalls, hcalls'⟩ := hfirst.calls
  obtain ⟨others, hothers, hothers'⟩ := hnext.calls
  obtain ⟨scopes, hscopes, hscopes'⟩ := hfirst.cancels
  obtain ⟨further, hfurther, hfurther'⟩ := hnext.cancels
  have hafter : (x >>= f : SessionM β).after t = (f (x.value s)).after (x.after t) := by
    rw [SessionM.after_bind, hfirst.value]
  refine ⟨?_, ?_, ⟨calls ++ others, ?_, ?_⟩, ⟨scopes ++ further, ?_, ?_⟩⟩
  · rw [SessionM.value_bind, SessionM.value_bind, hfirst.value, hnext.value]
  · rw [hafter]
    exact hnext.alike
  · rw [SessionM.after_bind, hothers, hcalls, List.append_assoc]
  · rw [hafter, hothers', hcalls', List.append_assoc]
  · rw [SessionM.after_bind, hfurther, hscopes, List.foldl_append]
  · rw [hafter, hfurther', hscopes', List.foldl_append]

/-- What a query cancels is part of its answer. -/
theorem runQuery (statement : String) (parameters : Parameters) :
    Faithful (Session.runQuery statement parameters) := by
  intro s t hst
  have hrows := hst.rows_eq statement parameters
  refine ⟨?_, ⟨?_, ?_⟩, ?_, ?_⟩
  · rw [Session.value_runQuery, Session.value_runQuery, hrows]
  · obtain ⟨queries, attempts, hg⟩ := hst.graph
    rw [Session.graph_runQuery, Session.graph_runQuery, hg]
    exact ⟨_, _, rfl⟩
  · rw [Session.completion_runQuery, Session.completion_runQuery]
    exact hst.completion
  · refine ⟨_, (Adds.runQuery statement parameters s).recorded, ?_⟩
    rw [(Adds.runQuery statement parameters t).recorded, hrows]
  · rw [Session.after_runQuery, Session.after_runQuery, hst.answer?_eq]
    cases s.graph.answer? statement parameters with
    | none => exact ⟨[], rfl, rfl⟩
    | some reply => exact ⟨reply.cancels, rfl, rfl⟩

/-- A completion depends on the prompt and on the service alone. -/
theorem complete (call : CompletionCall) : Faithful (Session.complete call) := by
  intro s t hst
  obtain ⟨calls, hc⟩ := hst.completion
  have hanswer : t.completion.answer call.user = s.completion.answer call.user := by
    rw [hc]
    rfl
  refine ⟨hanswer, ⟨hst.graph, ?_⟩, ⟨_, rfl, ?_⟩, [], rfl, rfl⟩
  · rw [Session.after_complete, Session.after_complete, hc]
    exact ⟨_, rfl⟩
  · rw [Session.after_complete, hanswer]

/-- Whether a node is created does not depend on what was asked before. -/
theorem createNode (labels : List String) (properties : Fields) :
    Faithful (Session.createNode labels properties) := by
  intro s t hst
  obtain ⟨queries, attempts, hg⟩ := hst.graph
  have hanswer : (t.graph.createNode labels properties).1 =
      (s.graph.createNode labels properties).1 := by
    -- The graph looks at its store and its limits only, not at its records.
    rw [hg, Graph.createNode, Graph.createNode]
    split
    · rfl
    · split <;> rfl
  refine ⟨hanswer, ⟨?_, hst.completion⟩,
    ⟨[.createNode labels properties (s.graph.createNode labels properties).1], rfl, ?_⟩,
    [], rfl, rfl⟩
  · rw [Session.after_createNode, Session.after_createNode, hg, Graph.createNode, Graph.createNode]
    split
    · exact ⟨_, _, rfl⟩
    · split <;> exact ⟨_, _, rfl⟩
  · rw [Session.after_createNode, hanswer]

/-- Whether a relationship is created does not depend on what was asked before. -/
theorem createRelationship (start target : NodeId) (type : String) :
    Faithful (Session.createRelationship start target type) := by
  intro s t hst
  obtain ⟨queries, attempts, hg⟩ := hst.graph
  have hanswer : (t.graph.createRelationship start target type []).1 =
      (s.graph.createRelationship start target type []).1 := by
    rw [hg, Graph.createRelationship, Graph.createRelationship]
    split
    · rfl
    · split <;> rfl
  refine ⟨hanswer, ⟨?_, hst.completion⟩,
    ⟨[.createRelationship start target type (s.graph.createRelationship start target type []).1],
      rfl, ?_⟩, [], rfl, rfl⟩
  · rw [Session.after_createRelationship, Session.after_createRelationship, hg,
      Graph.createRelationship, Graph.createRelationship]
    split
    · exact ⟨_, _, rfl⟩
    · split <;> exact ⟨_, _, rfl⟩
  · rw [Session.after_createRelationship, hanswer]

variable {x : SessionM α}

/-- Calls are recorded one after the other, and no record is lost. -/
theorem calls_grow (h : Faithful x) (s : Session) : s.calls <+: (x.after s).calls := by
  obtain ⟨calls, hcalls, -⟩ := (h s s (.refl s)).calls
  rw [hcalls]
  exact List.prefix_append _ _

end Faithful

/-- What is made of faithful steps is faithful. -/
theorem MadeOf.faithful {x : SessionM α} (h : MadeOf (fun _ => Faithful) x) : Faithful x := by
  induction h with
  | pure a => exact .pure a
  | bind _ _ hx hf => exact .bind hx hf
  | note level message => exact .note level message
  | warnOf category message => exact .warnOf category message
  | runQuery statement parameters => exact .runQuery statement parameters
  | complete call => exact .complete call
  | base h => exact h

end TaintReview
