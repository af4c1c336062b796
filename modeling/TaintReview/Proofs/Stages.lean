import Mathlib.Data.List.Chain
import Mathlib.Data.List.Find
import TaintReview.Proofs.Steps
import TaintReview.Review

namespace TaintReview.Review

/-!
# A run as a walk through its stages

`runStages` is one long sequence of steps.  Here it is cut at the boundaries where a run looks
for a cancellation: what a run does in a stage is `work`, what it knows there is a `Progress`,
and `walk` enters one stage after the other and does its work.  `runStages_eq_walk` shows that
this is the same run, so that a fact about runs is a fact about `enter`, one about `work`, and
an induction over the stages.

`reached` is the session in which a walk that heeds no cancellation comes to the boundary of a
stage, and `value_walk_heeding` says what a walk that heeds them gives: it ends at the first
boundary that is reached in a cancelled session.
-/

/-- The stages at whose boundary a run looks for a cancellation, in the order of a run. -/
def boundaries : List Stage :=
  [.queryCandidates, .confirmCandidates, .synthesizeFlows, .persist, .report]

/-- What a run knows at a boundary. -/
structure Progress where
  tracker : Tracker := {}
  investigation : Investigation := { id := "" }
  candidates : List Candidate × List Candidate := ([], [])
  sourceJudgements : List Judgement := []
  sinkJudgements : List Judgement := []
  paths : List FlowPath := []
  failedAnalyzers : Nat := 0
  persisted : PersistCounts := {}
  summary : String := ""

namespace Progress

/-- The sources that were confirmed. -/
def sources (p : Progress) : List Endpoint := endpoints p.sourceJudgements

/-- The sinks that were confirmed. -/
def sinks (p : Progress) : List Endpoint := endpoints p.sinkJudgements

/-- What a run knows once it has entered a stage. -/
def entered (p : Progress) (stamp : Stamp) (stage : Stage) : Progress :=
  { p with tracker := p.tracker.entered stage (stamp.elapsed p.tracker.current) }

end Progress

/-- What a run does in a stage. -/
def work (r : Review) (id : String) (p : Progress) : Stage → ReviewM Progress
  | .queryCandidates => do
    let investigation ← lookUp id
    let candidates ← r.queryCandidates id
    pure { p with investigation, candidates }
  | .confirmCandidates => do
    let sourceJudgements ← r.confirmAll .source p.candidates.1
    let sinkJudgements ← r.confirmAll .sink p.candidates.2
    let p := { p with sourceJudgements, sinkJudgements }
    Session.note .info
      (s!"SourceSinkWorkflow: confirmed {p.sources.length}/{p.candidates.1.length} " ++
        s!"sources, {p.sinks.length}/{p.candidates.2.length} sinks")
    pure p
  | .synthesizeFlows => do
    let (paths, failedAnalyzers) ← synthesize p.sources p.sinks id r.analyzers
    pure { p with paths, failedAnalyzers }
  | .persist => do
    let persisted ← r.persist p.investigation p.sources p.sinks p.paths
    pure { p with persisted }
  | .report => do
    let summary ← r.summarize p.sources p.sinks p.paths id
    pure { p with summary }
  | .setup | .done => pure p

/-- Enter a stage and do its work. -/
def visit (r : Review) (heeds : Bool) (stamp : Stamp) (id : String) (p : Progress)
    (stage : Stage) : ReviewM Progress := do
  let tracker ← enter heeds stamp p.tracker stage
  r.work id { p with tracker } stage

/-- Visit stages one after the other. -/
def walk (r : Review) (heeds : Bool) (stamp : Stamp) (id : String) :
    List Stage → Progress → ReviewM Progress
  | [], p => pure p
  | stage :: rest, p => do
    let p ← r.visit heeds stamp id p stage
    walk r heeds stamp id rest p

/-- The end of a run, from what is known after its last stage. -/
def conclude (r : Review) (stamp : Stamp) (id : String) (p : Progress) : ReviewM Findings := do
  let elapsed := stamp.elapsed p.tracker.current
  let done := p.tracker.advance .done elapsed
  (done.1 : Except ReviewError Unit)
  Session.note .debug (p.tracker.leaving .done elapsed)
  let recovered : RecoveredFailures :=
    { candidate := failures p.sourceJudgements + failures p.sinkJudgements
      synthesis := p.failedAnalyzers
      persistence := p.persisted.failed }
  Session.note .info
    (s!"SourceSinkWorkflow: investigation {id} done: {p.sources.length} sources, " ++
      s!"{p.sinks.length} sinks, {p.paths.length} paths, {recovered.total} recovered failures")
  pure
    { investigationId := id, sources := p.sources, sinks := p.sinks, paths := p.paths,
      summary := p.summary
      metadata := r.metadata stamp p.candidates p.persisted recovered done.2.timingFields }

/-- The announcement of a run. -/
def announce (r : Review) (id : String) : SessionM Unit :=
  Session.note .info (s!"SourceSinkWorkflow: starting {r.settings.name} for investigation {id} " ++
    s!"({r.funnels.length} funnels, {r.analyzers.length} analyzers)")

/-- **A run is a walk through its stages.** -/
theorem runStages_eq_walk (r : Review) (heeds : Bool) (stamp : Stamp) (id : String) :
    r.runStages heeds stamp id = (do
      r.announce id
      let p ← r.walk heeds stamp id boundaries {}
      r.conclude stamp id p) := by
  -- Both sides are the same steps, bracketed in another way.
  simp only [runStages, announce, walk, visit, boundaries, work, conclude, bind_assoc, pure_bind,
    Progress.sources, Progress.sinks]

/-- A request is refused before anything is done, or the run goes through its stages. -/
theorem run_refused_or_stages (r : Review) (stamp : Stamp) (id : String) :
    (∃ e, r.run stamp id = throw e) ∨
      r.run stamp id = r.runStages true stamp (Text.trimmed id) := by
  rw [run, runHeeding]
  split
  · exact .inl ⟨_, rfl⟩
  · split
    · exact .inl ⟨_, rfl⟩
    · exact .inr rfl

variable {r : Review} {stamp : Stamp} {id : String} {p q : Progress} {s : Session}
  {stage : Stage}

/-! ### Entering a stage -/

/-- Entering a stage fails when a cancellation is heeded and seen, and when the stage is not
    the next one. -/
theorem value_enter (heeds : Bool) (stamp : Stamp) (t : Tracker) (stage : Stage) (s : Session) :
    (enter heeds stamp t stage).value s =
      if heeds && s.cancellation.isSeen then .error (.cancelled stage)
      else if t.current.next? = some stage then .ok (t.entered stage (stamp.elapsed t.current))
      else .error (.invalidTransition t.current.tag stage.tag) := by
  rw [enter]
  show (ite (heeds && s.cancellation.isSeen) _ _ : ReviewM Tracker).value s = _
  split
  · rfl
  · rw [ReviewM.value_bind, ReviewM.value_liftExcept]
    -- Only the tracker can refuse, once no cancellation is seen.
    by_cases hnext : t.current.next? = some stage
    · rw [Tracker.advance_of_next hnext, if_pos hnext]
      rfl
    · rw [Tracker.advance_of_not_next hnext, if_neg hnext]

/-- Who enters a stage comes from the one before it. -/
theorem enter_eq_ok {heeds : Bool} {t next : Tracker}
    (h : (enter heeds stamp t stage).value s = .ok next) :
    t.current.next? = some stage ∧ next = t.entered stage (stamp.elapsed t.current) := by
  rw [value_enter] at h
  split at h
  · cases h
  · split at h
    case isTrue hnext => exact ⟨hnext, (Except.ok.inj h).symm⟩
    case isFalse => cases h

/-- A cancellation that is not seen makes no difference. -/
theorem after_enter_of_not_seen (t : Tracker) (h : s.cancellation.isSeen = false) :
    (enter true stamp t stage).after s = (enter false stamp t stage).after s := by
  rw [enter, enter]
  show (ite (true && s.cancellation.isSeen) _ _ : ReviewM Tracker).after s = _
  rw [h]
  rfl

/-- Entering a stage changes nothing but the log. -/
theorem after_enter (heeds : Bool) (stamp : Stamp) (t : Tracker) (stage : Stage) (s : Session) :
    ∃ log, (enter heeds stamp t stage).after s = { s with log } := by
  rw [enter]
  show ∃ log, (ite (heeds && s.cancellation.isSeen) _ _ : ReviewM Tracker).after s = _
  split
  · exact ⟨_, rfl⟩
  · rw [ReviewM.after_bind, ReviewM.value_liftExcept]
    cases (t.advance stage (stamp.elapsed t.current)).1 <;> exact ⟨_, rfl⟩

/-! ### The work of a stage -/

/-- The work of a stage that looks nothing up never fails: whatever goes wrong is absorbed at
    the item where it went wrong. -/
theorem work_isOk (r : Review) (id : String) (p : Progress) (s : Session)
    (h : stage ≠ .queryCandidates) :
    ∃ q, (r.work id p stage).value s = .ok q ∧ q.tracker = p.tracker := by
  cases stage with
  | queryCandidates => exact absurd rfl h
  | setup => exact ⟨_, rfl, rfl⟩
  | confirmCandidates => exact ⟨_, rfl, rfl⟩
  | synthesizeFlows => exact ⟨_, rfl, rfl⟩
  | persist => exact ⟨_, rfl, rfl⟩
  | report => exact ⟨_, rfl, rfl⟩
  | done => exact ⟨_, rfl, rfl⟩

/-- Why a look-up ends a run, from the rows that answer it. -/
def lookupFailure (id : String) : Except ServiceError (List Record) → Option ReviewError
  | .error e => some (.graph e)
  | .ok [] => some (.investigationNotFound id)
  | .ok (_ :: _) => none

/-- The parameters of a look-up. -/
def lookupParameters (id : String) : Parameters := [("investigation_id", .string id)]

/-- A look-up gives the investigation of the first row, or fails. -/
theorem value_lookUp (id : String) (s : Session) :
    (lookUp id).value s =
      match s.graph.rows Statement.investigationExists (lookupParameters id) with
      | .error e => .error (.graph e)
      | .ok [] => .error (.investigationNotFound id)
      | .ok (row :: _) => .ok (Investigation.ofRecord id row) := by
  rw [lookUp, ReviewM.value_lift_bind, Session.value_runQuery, ← lookupParameters]
  rcases s.graph.rows Statement.investigationExists (lookupParameters id) with
    e | (_ | ⟨row, rows⟩) <;> rfl

/-- The first stage fails exactly as its look-up does. -/
theorem value_work_queryCandidates (r : Review) (id : String) (p : Progress) (s : Session) :
    match lookupFailure id
      (s.graph.rows Statement.investigationExists (lookupParameters id)) with
    | some e => (r.work id p .queryCandidates).value s = .error e
    | none => ∃ q, (r.work id p .queryCandidates).value s = .ok q ∧ q.tracker = p.tracker := by
  rw [work, ReviewM.value_bind, value_lookUp]
  rcases s.graph.rows Statement.investigationExists (lookupParameters id) with
    e | (_ | ⟨row, rows⟩)
  · rfl
  · rfl
  · exact ⟨_, rfl, rfl⟩

/-- The work of a stage leaves the tracker alone. -/
theorem tracker_of_work (h : (r.work id p stage).value s = .ok q) : q.tracker = p.tracker := by
  -- The first stage is the only one whose work can fail.
  by_cases hstage : stage = .queryCandidates
  · subst hstage
    have hlook := value_work_queryCandidates r id p s
    split at hlook
    · rw [hlook] at h
      cases h
    · obtain ⟨q', hq', ht⟩ := hlook
      rw [← Except.ok.inj (hq'.symm.trans h), ht]
  · obtain ⟨q', hq', ht⟩ := work_isOk r id p s hstage
    rw [← Except.ok.inj (hq'.symm.trans h), ht]

/-- After its last stage a run only has findings to give. -/
theorem conclude_isOk (h : p.tracker.current = .report) :
    ∃ f, (r.conclude stamp id p).value s = .ok f := by
  have hdone : p.tracker.current.next? = some .done := by rw [h]; rfl
  rw [conclude, ReviewM.value_bind, ReviewM.value_liftExcept, Tracker.advance_of_next hdone]
  exact ⟨_, rfl⟩

/-! ### Visiting a stage -/

/-- A cancellation that is heeded and seen ends a visit before its work. -/
theorem visit_of_seen (r : Review) (heeds : Bool) (stamp : Stamp) (id : String) (p : Progress)
    (stage : Stage) (h : (heeds && s.cancellation.isSeen) = true) :
    (r.visit heeds stamp id p stage).value s = .error (.cancelled stage) ∧
      ∃ log, (r.visit heeds stamp id p stage).after s = { s with log } := by
  have he : (enter heeds stamp p.tracker stage).value s = .error (.cancelled stage) := by
    rw [value_enter, if_pos h]
  rw [visit, ReviewM.value_bind_of_error he, ReviewM.after_bind_of_error he]
  exact ⟨rfl, after_enter heeds stamp p.tracker stage s⟩

/-- A cancellation that is not seen makes no difference to a visit. -/
theorem visit_of_not_seen (r : Review) (stamp : Stamp) (id : String) (p : Progress)
    (stage : Stage) (h : s.cancellation.isSeen = false) :
    (r.visit true stamp id p stage).value s = (r.visit false stamp id p stage).value s ∧
      (r.visit true stamp id p stage).after s = (r.visit false stamp id p stage).after s := by
  have hv : (enter true stamp p.tracker stage).value s =
      (enter false stamp p.tracker stage).value s := by
    rw [value_enter, value_enter, h]
    rfl
  constructor
  · rw [visit, visit, ReviewM.value_bind, ReviewM.value_bind, hv, after_enter_of_not_seen _ h]
  · rw [visit, visit, ReviewM.after_bind, ReviewM.after_bind, hv, after_enter_of_not_seen _ h]

/-- A visit of the next stage does the stage's work when no cancellation is heeded and
    seen. -/
theorem visit_of_next (r : Review) (heeds : Bool) (stamp : Stamp) (id : String) (s : Session)
    (h : p.tracker.current.next? = some stage) (hseen : (heeds && s.cancellation.isSeen) = false) :
    ∃ log,
      (r.visit heeds stamp id p stage).value s =
        (r.work id (p.entered stamp stage) stage).value { s with log } ∧
      (r.visit heeds stamp id p stage).after s =
        (r.work id (p.entered stamp stage) stage).after { s with log } := by
  have he : (enter heeds stamp p.tracker stage).value s =
      .ok (p.tracker.entered stage (stamp.elapsed p.tracker.current)) := by
    rw [value_enter, hseen, if_neg Bool.false_ne_true, if_pos h]
  obtain ⟨log, hlog⟩ := after_enter heeds stamp p.tracker stage s
  refine ⟨log, ?_, ?_⟩
  · rw [visit, ReviewM.value_bind_of_ok he, hlog, Progress.entered]
  · rw [visit, ReviewM.after_bind_of_ok he, hlog, Progress.entered]

/-- Without cancellations a visit of the next stage succeeds when it looks nothing up. -/
theorem visit_isOk (r : Review) (stamp : Stamp) (id : String) (s : Session)
    (h : p.tracker.current.next? = some stage) (hne : stage ≠ .queryCandidates) :
    ∃ q, (r.visit false stamp id p stage).value s = .ok q := by
  obtain ⟨log, hv, -⟩ := visit_of_next r false stamp id s h rfl
  obtain ⟨q, hq, -⟩ := work_isOk r id (p.entered stamp stage) { s with log } hne
  exact ⟨q, hv.trans hq⟩

/-- A visit that succeeds ends in its stage. -/
theorem current_of_visit {heeds : Bool} (h : (r.visit heeds stamp id p stage).value s = .ok q) :
    q.tracker.current = stage := by
  obtain ⟨t, ht, hwork⟩ := ReviewM.bind_eq_ok.mp h
  rw [tracker_of_work hwork, (enter_eq_ok ht).2, Tracker.current_entered]

/-! ### Walking -/

/-- Each stage is the one after the stage before it, from the stage where the run is. -/
def InOrder (current : Stage) (stages : List Stage) : Prop :=
  (current :: stages).IsChain fun a b => a.next? = some b

/-- A walk through stages that look nothing up succeeds. -/
theorem walk_isOk (r : Review) (stamp : Stamp) (id : String) (s : Session) {stages : List Stage}
    (h : InOrder p.tracker.current stages) (hne : .queryCandidates ∉ stages) :
    ∃ q, (r.walk false stamp id stages p).value s = .ok q := by
  induction stages generalizing p s with
  | nil => exact ⟨p, rfl⟩
  | cons stage rest ih =>
    obtain ⟨hnext, hrest⟩ := List.isChain_cons_cons.mp h
    obtain ⟨hstage, hne⟩ := not_or.mp (mt List.mem_cons.mpr hne)
    obtain ⟨p', hp⟩ := visit_isOk r stamp id s hnext (Ne.symm hstage)
    -- The visit ended in its stage, so that the rest of the stages is in order from there.
    have horder : InOrder p'.tracker.current rest := by
      rw [InOrder, current_of_visit hp]
      exact hrest
    obtain ⟨q, hq⟩ := ih ((r.visit false stamp id p stage).after s) horder hne
    exact ⟨q, by rw [walk, ReviewM.value_bind_of_ok hp, hq]⟩

/-- A walk that succeeds ends in the last of its stages. -/
theorem current_of_walk {heeds : Bool} {stages : List Stage}
    (h : (r.walk heeds stamp id stages p).value s = .ok q) :
    q.tracker.current = stages.getLastD p.tracker.current := by
  induction stages generalizing p s with
  | nil => rw [← Except.ok.inj h, List.getLastD_nil]
  | cons stage rest ih =>
    obtain ⟨p', hvisit, hrest⟩ := ReviewM.bind_eq_ok.mp h
    rw [ih hrest, current_of_visit hvisit, List.getLastD_cons]

/-- A walk can be cut between any two stages. -/
theorem walk_append (r : Review) (heeds : Bool) (stamp : Stamp) (id : String)
    (first second : List Stage) (p : Progress) :
    r.walk heeds stamp id (first ++ second) p =
      r.walk heeds stamp id first p >>= r.walk heeds stamp id second := by
  induction first generalizing p with
  | nil => rw [List.nil_append, walk, pure_bind]
  | cons stage rest ih => simp only [List.cons_append, walk, bind_assoc, ih]

/-- The session in which a walk that heeds no cancellation comes to the boundary of a stage. -/
def reached (r : Review) (stamp : Stamp) (id : String) (stages : List Stage) (p : Progress)
    (stage : Stage) (s : Session) : Session :=
  (r.walk false stamp id (stages.takeWhile (· != stage)) p).after s

/-- The first boundary is reached at once. -/
theorem reached_head (stages : List Stage) :
    r.reached stamp id (stage :: stages) p stage s = s := by
  simp [reached, walk]

/-- A later boundary is reached from where the first visit ends. -/
theorem reached_tail {other : Stage} {stages : List Stage} (hne : other ≠ stage)
    (h : (r.visit false stamp id p stage).value s = .ok q) :
    r.reached stamp id (stage :: stages) p other s =
      r.reached stamp id stages q other ((r.visit false stamp id p stage).after s) := by
  have hw : (stage :: stages).takeWhile (· != other) =
      stage :: stages.takeWhile (· != other) :=
    List.takeWhile_cons_of_pos (bne_iff_ne.mpr (Ne.symm hne))
  rw [reached, reached, hw, walk, ReviewM.after_bind_of_ok h]

/-- **A walk ends at the first boundary that is reached in a cancelled session**, and goes on
    like one that heeds no cancellation when there is none. -/
theorem value_walk_heeding {stages : List Stage} (hn : stages.Nodup)
    (h : (r.walk false stamp id stages p).value s = .ok q) :
    (r.walk true stamp id stages p).value s =
      match stages.find? fun stage =>
        (r.reached stamp id stages p stage s).cancellation.isSeen with
      | some stage => .error (.cancelled stage)
      | none => .ok q := by
  induction stages generalizing p s with
  | nil => exact h
  | cons stage rest ih =>
    obtain ⟨hstage, hrest⟩ := List.nodup_cons.mp hn
    rw [List.find?_cons, reached_head]
    cases hseen : s.cancellation.isSeen with
    | true => rw [walk, ReviewM.value_bind_of_error (visit_of_seen r true stamp id p stage hseen).1]
    | false =>
      obtain ⟨hvalue, hafter⟩ := visit_of_not_seen r stamp id p stage hseen
      rw [walk] at h
      obtain ⟨p', hp, hq⟩ := ReviewM.bind_eq_ok.mp h
      rw [walk, ReviewM.value_bind_of_ok (hvalue.trans hp), hafter, ih hrest hq]
      -- The boundaries of the rest are reached from here as they are from the next stage.
      have hsame : (rest.find? fun other => (r.reached stamp id rest p' other
          ((r.visit false stamp id p stage).after s)).cancellation.isSeen) =
          rest.find? fun other =>
            (r.reached stamp id (stage :: rest) p other s).cancellation.isSeen :=
        List.find?_congr fun other hother => by
          have hne : other ≠ stage := fun heq => hstage (heq ▸ hother)
          rw [reached_tail hne hp]
      rw [hsame]

end TaintReview.Review
