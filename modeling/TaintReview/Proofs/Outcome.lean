import Mathlib.Data.List.TakeWhile
import TaintReview.Proofs.Stages

namespace TaintReview.Review

open Text

/-!
# How a run ends

A run ends with an error only for a reason of its own: a request that cannot be served, a
cancellation that is seen at a boundary, or an investigation that cannot be looked up.  These
reasons are the `obstacles` of a run, in the order in which it comes to them.  Funnels,
analyzers, the summarizer and the two services may fail in any other way and as often as they
like without ending it.

* `value_runStages`, `value_run` — a run ends at its first obstacle, and with findings when there
  is none;
* `obstacles_eq_none_iff`, `obstacle_cases` — when there is none, and which ones there are;
* `run_ends_at_first_obstacle` — how a run ends, with the conditions spelled out.
-/

/-! ### Obstacles -/

/-- The session in which a run that nobody stops comes to the boundary of a stage. -/
def arrival (r : Review) (stamp : Stamp) (id : String) (stage : Stage) (s : Session) : Session :=
  r.reached stamp id boundaries {} stage ((r.announce id).after s)

/-- The cancellation that a run sees at the boundary of a stage. -/
def cancelledAt (r : Review) (stamp : Stamp) (id : String) (s : Session) (stage : Stage) :
    Option ReviewError :=
  if (r.arrival stamp id stage s).cancellation.isSeen then some (.cancelled stage) else none

/-- What may end a run when it enters its first stage: a cancellation, and then the look-up of
    the investigation. -/
def entryObstacles (r : Review) (stamp : Stamp) (id : String) (s : Session) :
    List (Option ReviewError) :=
  [r.cancelledAt stamp id s .queryCandidates,
   lookupFailure id (s.graph.rows Statement.investigationExists (lookupParameters id))]

/-- The boundaries after the first one. -/
def laterBoundaries : List Stage := [.confirmCandidates, .synthesizeFlows, .persist, .report]

/-- What may end the stages of a run, in the order in which the run comes to it. -/
def stageObstacles (r : Review) (stamp : Stamp) (id : String) (s : Session) :
    List (Option ReviewError) :=
  r.entryObstacles stamp id s ++ laterBoundaries.map (r.cancelledAt stamp id s)

/-- What may end a run, in the order in which the run comes to it. -/
def obstacles (r : Review) (stamp : Stamp) (id : String) (s : Session) :
    List (Option ReviewError) :=
  (if trimmed id = "" then some (.configuration "investigation id is required") else none) ::
    (if r.settings.requireCompletion && !r.hasCompletion then some .completionMissing else none) ::
      r.stageObstacles stamp (trimmed id) s

/-- The first of the obstacles that are there. -/
def firstObstacle : List (Option ReviewError) → Option ReviewError := List.findSome? fun o => o

theorem firstObstacle_append (first second : List (Option ReviewError)) :
    firstObstacle (first ++ second) = (firstObstacle first).or (firstObstacle second) :=
  List.findSome?_append

/-! ### The stages of a run -/

variable {r : Review} {stamp : Stamp} {id : String} {p q : Progress} {s : Session}

/-- Once the investigation is found, only a cancellation can end the stages of a run. -/
theorem walk_laterBoundaries (r : Review) (stamp : Stamp) (id : String) (s : Session)
    (h : p.tracker.current = .queryCandidates) :
    ∃ q, q.tracker.current = .report ∧ (r.walk true stamp id laterBoundaries p).value s =
      match laterBoundaries.find? fun stage =>
        (r.reached stamp id laterBoundaries p stage s).cancellation.isSeen with
      | some stage => .error (.cancelled stage)
      | none => .ok q := by
  have horder : InOrder p.tracker.current laterBoundaries := by
    rw [h, InOrder, laterBoundaries]
    decide
  obtain ⟨q, hq⟩ := walk_isOk r stamp id s horder (by decide)
  exact ⟨q, current_of_walk hq, value_walk_heeding (by decide) hq⟩

/-- The first boundary at which a cancellation is seen is the first obstacle among them. -/
theorem firstObstacle_map_cancelledAt (stages : List Stage) :
    firstObstacle (stages.map (r.cancelledAt stamp id s)) =
      (stages.find? fun stage => (r.arrival stamp id stage s).cancellation.isSeen).map
        .cancelled := by
  induction stages with
  | nil => rfl
  | cons stage rest ih =>
    rw [List.map_cons, firstObstacle, List.findSome?_cons, List.find?_cons]
    cases h : (r.arrival stamp id stage s).cancellation.isSeen with
    | true => rw [cancelledAt, h]; rfl
    | false => rw [cancelledAt, h]; exact ih

/-- The first stage: a cancellation seen at its boundary ends it, then a failing look-up
    does. -/
theorem value_visit_queryCandidates (r : Review) (stamp : Stamp) (id : String) (s : Session) :
    match firstObstacle (r.entryObstacles stamp id s) with
    | some e =>
      (r.visit true stamp id {} .queryCandidates).value ((r.announce id).after s) = .error e
    | none => ∃ p, p.tracker.current = .queryCandidates ∧
      (r.visit true stamp id {} .queryCandidates).value ((r.announce id).after s) = .ok p ∧
      (r.visit false stamp id {} .queryCandidates).value ((r.announce id).after s) = .ok p ∧
      (r.visit true stamp id {} .queryCandidates).after ((r.announce id).after s) =
        (r.visit false stamp id {} .queryCandidates).after ((r.announce id).after s) := by
  have harrival : r.arrival stamp id .queryCandidates s = (r.announce id).after s :=
    reached_head _
  rw [firstObstacle, entryObstacles, cancelledAt, harrival]
  cases hseen : ((r.announce id).after s).cancellation.isSeen with
  | true => exact (visit_of_seen r true stamp id {} .queryCandidates hseen).1
  | false =>
    obtain ⟨hvalue, hafter⟩ := visit_of_not_seen r stamp id {} .queryCandidates hseen
    obtain ⟨log, hwork, -⟩ := visit_of_next (p := {}) r false stamp id
      ((r.announce id).after s) (show Stage.next? .setup = some .queryCandidates from rfl) rfl
    have hlook := value_work_queryCandidates r id
      (Progress.entered {} stamp .queryCandidates) { (r.announce id).after s with log }
    rw [← hwork, ← hvalue] at hlook
    -- Neither the announcement nor the log is part of the graph.
    have hgraph : ({ (r.announce id).after s with log } : Session).graph = s.graph := rfl
    rw [hgraph] at hlook
    cases hfail : lookupFailure id
        (s.graph.rows Statement.investigationExists (lookupParameters id)) with
    | some e =>
      rw [hfail] at hlook
      exact hlook
    | none =>
      rw [hfail] at hlook
      obtain ⟨p, hp, ht⟩ := hlook
      exact ⟨p, ht ▸ rfl, hp, hvalue ▸ hp, hafter⟩

/-- **The stages of a run end at their first obstacle**, and with findings when there is
    none. -/
theorem value_runStages (r : Review) (stamp : Stamp) (id : String) (s : Session) :
    ∃ f, (r.runStages true stamp id).value s =
      match firstObstacle (r.stageObstacles stamp id s) with
      | some e => .error e
      | none => .ok f := by
  have hfirst := value_visit_queryCandidates r stamp id s
  rw [stageObstacles, firstObstacle_append, runStages_eq_walk, ReviewM.value_lift_bind]
  show ∃ f, (r.walk true stamp id (.queryCandidates :: laterBoundaries) {} >>= _).value _ = _
  rw [walk, bind_assoc]
  -- The first stage can end for two reasons, the later ones only by a cancellation.
  cases hobstacle : firstObstacle (r.entryObstacles stamp id s) with
  | some e =>
    rw [hobstacle] at hfirst
    exact ⟨{ investigationId := id }, ReviewM.value_bind_of_error hfirst⟩
  | none =>
    rw [hobstacle] at hfirst
    obtain ⟨p, hp, hvisit, hunheeded, hafter⟩ := hfirst
    obtain ⟨q, hq, hwalk⟩ := walk_laterBoundaries r stamp id
      ((r.visit true stamp id {} .queryCandidates).after ((r.announce id).after s)) hp
    -- The later boundaries are reached from here as they are from the start.
    have harrival : ∀ stage ∈ laterBoundaries, r.reached stamp id laterBoundaries p stage
        ((r.visit true stamp id {} .queryCandidates).after ((r.announce id).after s)) =
        r.arrival stamp id stage s := by
      intro stage hstage
      have hne : stage ≠ .queryCandidates := by
        rintro rfl
        exact absurd hstage (by decide)
      rw [hafter, arrival, ← reached_tail hne hunheeded]
      rfl
    rw [List.find?_congr fun stage hstage => by rw [harrival stage hstage]] at hwalk
    rw [ReviewM.value_bind_of_ok hvisit, Option.none_or, firstObstacle_map_cancelledAt]
    cases hfind : laterBoundaries.find? fun stage =>
        (r.arrival stamp id stage s).cancellation.isSeen with
    | some stage =>
      rw [hfind] at hwalk
      exact ⟨{ investigationId := id }, ReviewM.value_bind_of_error hwalk⟩
    | none =>
      rw [hfind] at hwalk
      rw [ReviewM.value_bind_of_ok hwalk]
      exact conclude_isOk hq

/-! ### Whole runs -/

/-- A text is blank exactly when nothing is left of it without the blanks at its ends. -/
theorem trimmed_eq_empty_iff (text : String) : trimmed text = "" ↔ isBlankText text = true := by
  have hempty : trimmed text = "" ↔ trim text.toList = [] := by
    rw [trimmed, ← String.ofList_nil, String.ofList_inj]
  rw [hempty, trim, strip, stripEnd, List.reverse_eq_nil_iff, List.dropWhile_eq_nil_iff,
    isBlankText, List.all_eq_true]
  constructor
  · intro h
    rw [← List.dropWhile_eq_nil_iff]
    by_contra hne
    -- What is left begins with a character that is no blank.
    have hhead := List.head_dropWhile_not isBlank hne
    rw [h _ (List.mem_reverse.mpr (List.head_mem hne))] at hhead
    exact absurd hhead (by decide)
  · intro h c hc
    exact h c ((List.dropWhile_suffix _).subset (List.mem_reverse.mp hc))

/-- **A run ends at its first obstacle**, and with findings when there is none. -/
theorem value_run (r : Review) (stamp : Stamp) (id : String) (s : Session) :
    ∃ f, (r.run stamp id).value s =
      match firstObstacle (r.obstacles stamp id s) with
      | some e => .error e
      | none => .ok f := by
  rw [run, runHeeding]
  -- A request is refused before its stages are looked at.
  by_cases hblank : isBlankText id = true
  · have htrimmed := (trimmed_eq_empty_iff id).mpr hblank
    rw [if_pos hblank, firstObstacle, obstacles, if_pos htrimmed]
    exact ⟨{ investigationId := id }, rfl⟩
  · have htrimmed := mt (trimmed_eq_empty_iff id).mp hblank
    rw [if_neg hblank, firstObstacle, obstacles, if_neg htrimmed, List.findSome?_cons]
    by_cases hmissing : (r.settings.requireCompletion && !r.hasCompletion) = true
    · rw [if_pos hmissing, if_pos hmissing]
      exact ⟨{ investigationId := id }, rfl⟩
    · rw [if_neg hmissing, if_neg hmissing]
      exact value_runStages r stamp (trimmed id) s

/-- No cancellation is seen at a boundary exactly when its session is not cancelled. -/
theorem cancelledAt_eq_none_iff (stage : Stage) : r.cancelledAt stamp id s stage = none ↔
    (r.arrival stamp id stage s).cancellation.isSeen = false := by
  rw [cancelledAt]
  cases (r.arrival stamp id stage s).cancellation.isSeen <;> simp

/-- A look-up does not fail exactly when it gives a row. -/
theorem lookupFailure_eq_none_iff (rows : Except ServiceError (List Record)) :
    lookupFailure id rows = none ↔ ∃ row rest, rows = .ok (row :: rest) := by
  rcases rows with e | (_ | ⟨row, rest⟩) <;> simp [lookupFailure]

/-- No obstacle is in the way of the stages exactly when no boundary is reached in a cancelled
    session and the investigation is found. -/
theorem stageObstacles_eq_none_iff (r : Review) (stamp : Stamp) (id : String) (s : Session) :
    firstObstacle (r.stageObstacles stamp id s) = none ↔
      (∀ stage ∈ boundaries, (r.arrival stamp id stage s).cancellation.isSeen = false) ∧
      ∃ row rows, s.graph.rows Statement.investigationExists (lookupParameters id) =
        .ok (row :: rows) := by
  have hboundaries : boundaries = .queryCandidates :: laterBoundaries := rfl
  rw [firstObstacle, List.findSome?_eq_none_iff, stageObstacles, entryObstacles,
    List.forall_mem_append, List.forall_mem_cons, List.forall_mem_singleton, List.forall_mem_map,
    cancelledAt_eq_none_iff, lookupFailure_eq_none_iff, hboundaries, List.forall_mem_cons]
  simp only [cancelledAt_eq_none_iff]
  constructor
  · rintro ⟨⟨hfirst, hfound⟩, hlater⟩
    exact ⟨⟨hfirst, hlater⟩, hfound⟩
  · rintro ⟨⟨hfirst, hlater⟩, hfound⟩
    exact ⟨⟨hfirst, hfound⟩, hlater⟩

/-- No obstacle is in the way of a run exactly when its request can be served and none is in
    the way of its stages. -/
theorem obstacles_eq_none_iff (r : Review) (stamp : Stamp) (id : String) (s : Session) :
    firstObstacle (r.obstacles stamp id s) = none ↔
      trimmed id ≠ "" ∧ ¬(r.settings.requireCompletion = true ∧ r.hasCompletion = false) ∧
      firstObstacle (r.stageObstacles stamp (trimmed id) s) = none := by
  have hmissing : (r.settings.requireCompletion && !r.hasCompletion) = true ↔
      r.settings.requireCompletion = true ∧ r.hasCompletion = false := by
    rw [Bool.and_eq_true, Bool.not_eq_true']
  rw [firstObstacle, List.findSome?_eq_none_iff, List.findSome?_eq_none_iff, obstacles,
    List.forall_mem_cons, List.forall_mem_cons, ← hmissing]
  simp only [ite_eq_right_iff, reduceCtorEq, imp_false, ne_eq]

/-- The error of a cancellation names the stage. -/
theorem eq_of_cancelledAt {stage : Stage} {e : ReviewError}
    (h : r.cancelledAt stamp id s stage = some e) : e = .cancelled stage := by
  rw [cancelledAt] at h
  split at h
  · exact (Option.some.inj h).symm
  · cases h

/-- A look-up fails with the error of the graph, or because there is no such investigation. -/
theorem eq_of_lookupFailure {rows : Except ServiceError (List Record)} {e : ReviewError}
    (h : lookupFailure id rows = some e) :
    (∃ error, rows = .error error ∧ e = .graph error) ∨
      rows = .ok [] ∧ e = .investigationNotFound id := by
  rcases rows with error | (_ | ⟨row, rest⟩)
  · exact .inl ⟨error, rfl, (Option.some.inj h).symm⟩
  · exact .inr ⟨rfl, (Option.some.inj h).symm⟩
  · cases h

/-- Every obstacle is an error of the request, a cancellation at a boundary, or an error of the
    look-up. -/
theorem obstacle_cases {e : ReviewError} (h : firstObstacle (r.obstacles stamp id s) = some e) :
    e = .configuration "investigation id is required" ∨ e = .completionMissing ∨
      (∃ stage ∈ boundaries, e = .cancelled stage) ∨ (∃ error, e = .graph error) ∨
      e = .investigationNotFound (trimmed id) := by
  obtain ⟨o, ho, rfl⟩ := List.exists_of_findSome?_eq_some h
  rw [obstacles, stageObstacles, entryObstacles] at ho
  simp only [List.mem_cons, List.mem_append, List.not_mem_nil, or_false, List.mem_map] at ho
  -- The two conditions on the request, those of the first stage, and the later boundaries.
  rcases ho with ho | ho | (ho | ho) | ⟨stage, hstage, ho⟩
  · split at ho
    · exact .inl (Option.some.inj ho)
    · cases ho
  · split at ho
    · exact .inr (.inl (Option.some.inj ho))
    · cases ho
  · exact .inr (.inr (.inl ⟨.queryCandidates, by decide, eq_of_cancelledAt ho.symm⟩))
  · rcases eq_of_lookupFailure ho.symm with ⟨error, -, he⟩ | ⟨-, he⟩
    · exact .inr (.inr (.inr (.inl ⟨error, he⟩)))
    · exact .inr (.inr (.inr (.inr he)))
  · exact .inr (.inr (.inl ⟨stage, List.mem_cons_of_mem _ hstage, eq_of_cancelledAt ho⟩))

/-- An error that ends a run means the end of the run by its category too, and none of the
    errors of an item is among them. -/
theorem isFatal_of_obstacle {e : ReviewError}
    (h : firstObstacle (r.obstacles stamp id s) = some e) :
    e.category.isFatal = true ∧ (∀ current target, e ≠ .invalidTransition current target) ∧
      (∀ error, e ≠ .completion error) ∧ (∀ detail, e ≠ .serialization detail) ∧
      ∀ detail, e ≠ .parse detail := by
  rcases obstacle_cases h with rfl | rfl | ⟨stage, -, rfl⟩ | ⟨error, rfl⟩ | rfl
  all_goals
    refine ⟨rfl, ?_, ?_, ?_, ?_⟩ <;> intros <;> exact fun heq => by cases heq

/-- **Error isolation.** Whatever funnels, analyzers, the summarizer and the services do, a run
    gives findings exactly when its request can be served, no boundary is reached in a cancelled
    session and the investigation is found.  Otherwise it ends with the error of the first of
    these conditions that is violated, in the order in which a run comes to them, and that error
    is fatal by its category. -/
theorem run_ends_at_first_obstacle (r : Review) (stamp : Stamp) (id : String) (s : Session) :
    ((∃ findings, (r.run stamp id).value s = .ok findings) ↔
      trimmed id ≠ "" ∧
      ¬(r.settings.requireCompletion = true ∧ r.hasCompletion = false) ∧
      (∀ stage ∈ boundaries,
        (r.arrival stamp (trimmed id) stage s).cancellation.isSeen = false) ∧
      ∃ row rows, s.graph.rows Statement.investigationExists (lookupParameters (trimmed id)) =
        .ok (row :: rows)) ∧
    (∀ e, (r.run stamp id).value s = .error e ↔
      firstObstacle (r.obstacles stamp id s) = some e) ∧
    ∀ e, (r.run stamp id).value s = .error e →
      e.category.isFatal = true ∧ (∀ current target, e ≠ .invalidTransition current target) ∧
        (∀ error, e ≠ .completion error) ∧ (∀ detail, e ≠ .serialization detail) ∧
        ∀ detail, e ≠ .parse detail := by
  obtain ⟨f, hf⟩ := value_run r stamp id s
  have herror : ∀ e, (r.run stamp id).value s = .error e ↔
      firstObstacle (r.obstacles stamp id s) = some e := by
    intro e
    rw [hf]
    cases firstObstacle (r.obstacles stamp id s) <;> simp
  have hok : (∃ findings, (r.run stamp id).value s = .ok findings) ↔
      firstObstacle (r.obstacles stamp id s) = none := by
    rw [hf]
    cases firstObstacle (r.obstacles stamp id s) <;> simp
  refine ⟨?_, herror, fun e he => isFatal_of_obstacle ((herror e).mp he)⟩
  rw [hok, ← stageObstacles_eq_none_iff, obstacles_eq_none_iff]

end TaintReview.Review
