import Mathlib.Order.Defs.Unbundled
import TaintReview.Session

namespace TaintReview

/-!
# What steps give and what they leave

A step on a session gives a value and leaves a session.  All that is said about runs is said
through these two, and this file is where a sequence of steps is taken apart:

* `SessionM.value`, `SessionM.after` — what a step gives and leaves, with one rewriting rule for
  each way to build a step; `ReviewM.value`, `ReviewM.after` are the same for steps that can
  fail;
* `ReviewM.bind_eq_ok` — a sequence succeeds exactly when both of its parts do;
* `Keeps R x` — the step `x` relates every session to the one it leaves by `R`.  A relation that
  steps in a row may be chained by is kept by a sequence when each part keeps it;
* the queries, writes and completions of `Session`, each with its value and what it leaves.
-/

variable {α β : Type}

/-! ### Steps that cannot fail -/

namespace SessionM

/-- What a step gives. -/
def value (x : SessionM α) (s : Session) : α := (x s).1

/-- The session that a step leaves. -/
def after (x : SessionM α) (s : Session) : Session := (x s).2

/-- A plain value is what its step gives. -/
@[simp] theorem value_pure (a : α) (s : Session) : (pure a : SessionM α).value s = a := rfl

/-- A plain value changes nothing. -/
@[simp] theorem after_pure (a : α) (s : Session) : (pure a : SessionM α).after s = s := rfl

/-- Looking at the session gives the session. -/
@[simp] theorem value_get (s : Session) : (get : SessionM Session).value s = s := rfl

/-- Looking at the session changes nothing. -/
@[simp] theorem after_get (s : Session) : (get : SessionM Session).after s = s := rfl

/-- The second part of a sequence is taken on the session that the first one leaves. -/
@[simp] theorem value_bind (x : SessionM α) (f : α → SessionM β) (s : Session) :
    (x >>= f : SessionM β).value s = (f (x.value s)).value (x.after s) := rfl

/-- A sequence leaves what its second part leaves. -/
@[simp] theorem after_bind (x : SessionM α) (f : α → SessionM β) (s : Session) :
    (x >>= f : SessionM β).after s = (f (x.value s)).after (x.after s) := rfl

end SessionM

/-! ### Steps that can fail -/

namespace ReviewM

/-- What a step that can fail gives. -/
def value (x : ReviewM α) (s : Session) : Except ReviewError α := SessionM.value x.run s

/-- The session that a step that can fail leaves, whether or not it fails. -/
def after (x : ReviewM α) (s : Session) : Session := SessionM.after x.run s

/-- Whether the failure is part of the value or of the step, the value is the same. -/
@[simp] theorem value_run (x : ReviewM α) (s : Session) :
    SessionM.value x.run s = x.value s := rfl

/-- So is the session that is left. -/
@[simp] theorem after_run (x : ReviewM α) (s : Session) :
    SessionM.after x.run s = x.after s := rfl

/-- A plain value is a success. -/
@[simp] theorem value_pure (a : α) (s : Session) : (pure a : ReviewM α).value s = .ok a := rfl

/-- A plain value changes nothing, whether or not the step could have failed. -/
@[simp] theorem after_pure (a : α) (s : Session) : (pure a : ReviewM α).after s = s := rfl

/-- A failure is what its step gives. -/
@[simp] theorem value_throw (e : ReviewError) (s : Session) :
    (throw e : ReviewM α).value s = .error e := rfl

/-- A failure by itself changes nothing. -/
@[simp] theorem after_throw (e : ReviewError) (s : Session) :
    (throw e : ReviewM α).after s = s := rfl

/-- A step that cannot fail succeeds among those that can. -/
@[simp] theorem value_lift (x : SessionM α) (s : Session) :
    (liftM x : ReviewM α).value s = .ok (x.value s) := rfl

/-- A step that cannot fail leaves what it leaves on its own. -/
@[simp] theorem after_lift (x : SessionM α) (s : Session) :
    (liftM x : ReviewM α).after s = x.after s := rfl

/-- A result that is known already is what its step gives. -/
@[simp] theorem value_liftExcept (x : Except ReviewError α) (s : Session) :
    (liftM x : ReviewM α).value s = x := rfl

/-- A result that is known already changes nothing. -/
@[simp] theorem after_liftExcept (x : Except ReviewError α) (s : Session) :
    (liftM x : ReviewM α).after s = s := rfl

/-- A failing first part decides what a sequence gives. -/
theorem value_bind (x : ReviewM α) (f : α → ReviewM β) (s : Session) :
    (x >>= f : ReviewM β).value s =
      match x.value s with
      | .ok a => (f a).value (x.after s)
      | .error e => .error e := by
  show SessionM.value (ExceptT.run (x >>= f)) s = _
  rw [ExceptT.run_bind, SessionM.value_bind, value_run]
  -- The second part is reached only in the first case.
  cases x.value s <;> rfl

/-- After a failing first part nothing more is done. -/
theorem after_bind (x : ReviewM α) (f : α → ReviewM β) (s : Session) :
    (x >>= f : ReviewM β).after s =
      match x.value s with
      | .ok a => (f a).after (x.after s)
      | .error _ => x.after s := by
  show SessionM.after (ExceptT.run (x >>= f)) s = _
  rw [ExceptT.run_bind, SessionM.after_bind, value_run]
  cases x.value s <;> rfl

/-- A first part that cannot fail is always followed by the second one. -/
@[simp] theorem value_lift_bind (x : SessionM α) (f : α → ReviewM β) (s : Session) :
    ((liftM x : ReviewM α) >>= f : ReviewM β).value s = (f (x.value s)).value (x.after s) := by
  rw [value_bind, value_lift, after_lift]

/-- The session that is left then is the one of the second part. -/
@[simp] theorem after_lift_bind (x : SessionM α) (f : α → ReviewM β) (s : Session) :
    ((liftM x : ReviewM α) >>= f : ReviewM β).after s = (f (x.value s)).after (x.after s) := by
  rw [after_bind, value_lift, after_lift]

variable {x : ReviewM α} {f : α → ReviewM β} {s : Session} {a : α} {b : β} {e : ReviewError}

/-- After a first part that succeeds, the second one decides. -/
theorem value_bind_of_ok (h : x.value s = .ok a) :
    (x >>= f : ReviewM β).value s = (f a).value (x.after s) := by
  rw [value_bind, h]

/-- After a first part that succeeds, the second one leaves the session. -/
theorem after_bind_of_ok (h : x.value s = .ok a) :
    (x >>= f : ReviewM β).after s = (f a).after (x.after s) := by
  rw [after_bind, h]

/-- After a first part that fails, its failure is what the sequence gives. -/
theorem value_bind_of_error (h : x.value s = .error e) :
    (x >>= f : ReviewM β).value s = .error e := by
  rw [value_bind, h]

/-- After a first part that fails, its session is the one that is left. -/
theorem after_bind_of_error (h : x.value s = .error e) :
    (x >>= f : ReviewM β).after s = x.after s := by
  rw [after_bind, h]

/-- **A sequence succeeds exactly when both parts do.** -/
theorem bind_eq_ok : (x >>= f : ReviewM β).value s = .ok b ↔
    ∃ a, x.value s = .ok a ∧ (f a).value (x.after s) = .ok b := by
  rw [value_bind]
  cases h : x.value s with
  | error e => simp
  | ok a => simp

end ReviewM

/-! ### Relations that steps keep -/

/-- The step relates every session to the one that it leaves. -/
def Keeps (R : Session → Session → Prop) (x : SessionM α) : Prop := ∀ s, R s (x.after s)

namespace Keeps

variable {R : Session → Session → Prop}

/-- A plain value keeps what holds of a session and itself. -/
theorem pure [Std.Refl R] (a : α) : Keeps R (Pure.pure a : SessionM α) :=
  fun s => Std.Refl.refl s

/-- A sequence keeps what each of its parts keeps. -/
theorem bind [IsTrans Session R] {x : SessionM α} {f : α → SessionM β} (hx : Keeps R x)
    (hf : ∀ a, Keeps R (f a)) : Keeps R (x >>= f : SessionM β) :=
  fun s => IsTrans.trans _ _ _ (hx s) (hf _ _)

/-- A plain value keeps such a relation as a step that could have failed, too. -/
theorem run_pure [Std.Refl R] (a : α) : Keeps R (Pure.pure a : ReviewM α).run :=
  fun s => Std.Refl.refl s

/-- A step that cannot fail keeps what it keeps on its own. -/
theorem run_lift {x : SessionM α} (hx : Keeps R x) : Keeps R (liftM x : ReviewM α).run :=
  fun s => hx s

/-- A sequence keeps what each of its parts keeps, also when the first part fails. -/
theorem run_bind [IsTrans Session R] {x : ReviewM α} {f : α → ReviewM β} (hx : Keeps R x.run)
    (hf : ∀ a, Keeps R (f a).run) : Keeps R (x >>= f : ReviewM β).run := by
  intro s
  rw [ReviewM.after_run, ReviewM.after_bind]
  cases x.value s with
  -- The second part is not reached, and the first has left the session.
  | error e => exact hx s
  | ok a => exact IsTrans.trans _ _ _ (hx s) (hf a _)

end Keeps

/-! ### The steps of a session -/

namespace Session

/-- A note is added to the log and to nothing else. -/
@[simp] theorem after_note (level : LogLevel) (message : String) (s : Session) :
    (note level message).after s = { s with log := s.log ++ [{ level, message }] } := rfl

/-- A warning is added to the log, under its category. -/
@[simp] theorem after_warnOf (category : ErrorCategory) (message : String) (s : Session) :
    (warnOf category message).after s =
      { s with log := s.log ++ [{ level := .warn, category := some category, message }] } := rfl

/-- A query gives the rows of the graph. -/
@[simp] theorem value_runQuery (statement : String) (parameters : Parameters) (s : Session) :
    (runQuery statement parameters).value s = s.graph.rows statement parameters := by
  simp only [runQuery, SessionM.value_bind, SessionM.value_get, SessionM.after_get]
  cases s.graph.answer? statement parameters <;> rfl

/-- A query is recorded; its answer may cancel something, and only a missing handler is
    logged. -/
theorem after_runQuery (statement : String) (parameters : Parameters) (s : Session) :
    (runQuery statement parameters).after s =
      let asked : Session :=
        { s with
          graph := s.graph.noteQuery statement parameters
          calls := s.calls ++
            [.query statement parameters (s.graph.rows statement parameters)] }
      match s.graph.answer? statement parameters with
      | some reply =>
        { asked with cancellation := reply.cancels.foldl .cancel s.cancellation }
      | none =>
        (note .debug "MemoryGraph: no handler for statement, returning no rows").after asked := by
  simp only [runQuery, SessionM.after_bind, SessionM.value_get, SessionM.after_get]
  cases s.graph.answer? statement parameters <;> rfl

/-- All that a query does to the graph is to be noted there. -/
@[simp] theorem graph_runQuery (statement : String) (parameters : Parameters) (s : Session) :
    ((runQuery statement parameters).after s).graph = s.graph.noteQuery statement parameters := by
  rw [after_runQuery]
  cases s.graph.answer? statement parameters <;> rfl

/-- A query is nothing to the completion service. -/
@[simp] theorem completion_runQuery (statement : String) (parameters : Parameters)
    (s : Session) : ((runQuery statement parameters).after s).completion = s.completion := by
  rw [after_runQuery]
  cases s.graph.answer? statement parameters <;> rfl

/-- Creating a node gives what the graph gives. -/
@[simp] theorem value_createNode (labels : List String) (properties : Fields) (s : Session) :
    (createNode labels properties).value s = (s.graph.createNode labels properties).1 := rfl

/-- Creating a node changes the graph, and the call is recorded. -/
@[simp] theorem after_createNode (labels : List String) (properties : Fields) (s : Session) :
    (createNode labels properties).after s =
      { s with
        graph := (s.graph.createNode labels properties).2
        calls := s.calls ++
          [.createNode labels properties (s.graph.createNode labels properties).1] } := rfl

/-- Creating a relationship gives what the graph gives. -/
@[simp] theorem value_createRelationship (start target : NodeId) (type : String) (s : Session) :
    (createRelationship start target type).value s =
      (s.graph.createRelationship start target type []).1 := rfl

/-- Creating a relationship changes the graph, and the call is recorded. -/
@[simp] theorem after_createRelationship (start target : NodeId) (type : String) (s : Session) :
    (createRelationship start target type).after s =
      { s with
        graph := (s.graph.createRelationship start target type []).2
        calls := s.calls ++ [.createRelationship start target type
          (s.graph.createRelationship start target type []).1] } := rfl

/-- A completion gives what the service answers to the prompt of the user. -/
@[simp] theorem value_complete (call : CompletionCall) (s : Session) :
    (complete call).value s = s.completion.answer call.user := rfl

/-- A completion is noted by the service, and the call is recorded. -/
@[simp] theorem after_complete (call : CompletionCall) (s : Session) :
    (complete call).after s =
      { s with
        completion := s.completion.noteCall call
        calls := s.calls ++ [.complete call (s.completion.answer call.user)] } := rfl

end Session

namespace ReviewM

/-- The rows of the graph; its failure is an error of the review. -/
@[simp] theorem value_query (statement : String) (parameters : Parameters) (s : Session) :
    (query statement parameters).value s =
      (s.graph.rows statement parameters).mapError .graph := by
  rw [query, value_lift_bind, Session.value_runQuery]
  cases s.graph.rows statement parameters <;> rfl

/-- A query that can fail leaves what the query leaves. -/
@[simp] theorem after_query (statement : String) (parameters : Parameters) (s : Session) :
    (query statement parameters).after s = (Session.runQuery statement parameters).after s := by
  rw [query, after_lift_bind, Session.value_runQuery]
  cases s.graph.rows statement parameters <;> rfl

/-- The answer of the completion service; its failure is an error of the review. -/
@[simp] theorem value_complete (call : CompletionCall) (s : Session) :
    (complete call).value s = (s.completion.answer call.user).mapError .completion := by
  rw [complete, value_lift_bind, Session.value_complete]
  cases s.completion.answer call.user <;> rfl

/-- A completion that can fail leaves what the completion leaves. -/
@[simp] theorem after_complete (call : CompletionCall) (s : Session) :
    (complete call).after s = (Session.complete call).after s := by
  rw [complete, after_lift_bind, Session.value_complete]
  cases s.completion.answer call.user <;> rfl

end ReviewM

end TaintReview
