import TaintReview.Graph.Handlers
import TaintReview.Proofs.Accounting
import TaintReview.Proofs.Defaults

namespace TaintReview.Review

/-!
# When a run writes, and what

A review whose parts only ask writes in one place: the stage that writes back what was found.
A run that does not come to it, or must not write there, leaves the store as it was; one that
does adds to the store and changes nothing in it.

* `WritesAtMostOnce` — a step to findings only asks, or it asks, writes back once and asks again;
* `runStages_writesAtMostOnce`, `run_writesAtMostOnce` — runs are of this kind;
* `writes_gated_and_additive` — what this says about the graph before and after a run of the
  default review.
-/

/-! ### Graphs before and after -/

/-- Nothing was written, and nothing was to be written. -/
structure Untouched (g g' : Graph) : Prop where
  nodes : g'.store.nodes = g.store.nodes
  relationships : g'.store.relationships = g.store.relationships
  nextId : g'.nextId = g.nextId
  attempts : g'.attempts = g.attempts

/-- All that was stored is still there, unchanged and in front, and the nodes behind it are
    sources, then sinks, then paths. -/
structure Extended (g g' : Graph) : Prop where
  nodes : ∃ added sources sinks paths, g'.store.nodes = g.store.nodes ++ added ∧
    added.map (·.labels) = List.replicate sources ["Source"] ++
      List.replicate sinks ["Sink"] ++ List.replicate paths ["DataFlowPath"]
  relationships : g.store.relationships <+: g'.store.relationships

/-- Asking leaves the contents of a graph alone. -/
theorem untouched_of_reads {s s' : Session} (h : Reads s s') : Untouched s.graph s'.graph := by
  obtain ⟨queries, hg⟩ := h.graph
  rw [hg]
  exact ⟨rfl, rfl, rfl, rfl⟩

/-- Adding nothing is adding no sources, no sinks and no paths. -/
theorem Untouched.extended {g g' : Graph} (h : Untouched g g') : Extended g g' where
  nodes := ⟨[], 0, 0, 0, by rw [h.nodes, List.append_nil], rfl⟩
  relationships := ⟨[], by rw [h.relationships, List.append_nil]⟩

/-- Asking, writing back once and asking again. -/
def WritesOnce (s s' : Session) : Prop :=
  ∃ mid i sources sinks paths,
    Reads s mid ∧ Reads ((persistAll i sources sinks paths 0).after mid) s'

namespace WritesOnce

variable {s s' s'' : Session}

/-- Asking before a write-back is part of it. -/
theorem after_reads (h : Reads s s') (h' : WritesOnce s' s'') : WritesOnce s s'' := by
  obtain ⟨mid, i, sources, sinks, paths, hbefore, hafter⟩ := h'
  exact ⟨mid, i, sources, sinks, paths, IsTrans.trans _ _ _ h hbefore, hafter⟩

theorem before_reads (h : WritesOnce s s') (h' : Reads s' s'') : WritesOnce s s'' := by
  obtain ⟨mid, i, sources, sinks, paths, hbefore, hafter⟩ := h
  exact ⟨mid, i, sources, sinks, paths, hbefore, IsTrans.trans _ _ _ hafter h'⟩

/-- What is written back stands behind all that was stored before. -/
theorem extended (h : WritesOnce s s') : Extended s.graph s'.graph := by
  obtain ⟨mid, i, sources, sinks, paths, hbefore, hafter⟩ := h
  have hfirst := untouched_of_reads hbefore
  have hlast := untouched_of_reads hafter
  -- The labels of what was added are those of the nodes that were asked for.
  obtain ⟨calls, sourceAnswers, sinkAnswers, attempted, hadds, -, -, hcreations, -⟩ :=
    persistAll_adds i sources sinks paths 0 mid
  have hlabels := labels_persistAll i sources sinks sourceAnswers sinkAnswers attempted
  rw [← hcreations] at hlabels
  constructor
  · exact ⟨_, _, _, _, by rw [hlast.nodes, hadds.nodes, hfirst.nodes], hlabels⟩
  · rw [hlast.relationships, hadds.relationships, hfirst.relationships]
    exact List.prefix_append _ _

end WritesOnce

/-- A step to findings that only asks, or else writes back once.  The latter it does only if it may
    write, and then nothing but a cancellation before the report keeps it from its findings. -/
def WritesAtMostOnce (mayWrite : Bool) (x : ReviewM Findings) (s : Session) : Prop :=
  Reads s (x.after s) ∨
    mayWrite = true ∧
    ((∃ f, x.value s = .ok f) ∨ x.value s = .error (.cancelled .report)) ∧
    WritesOnce s (x.after s)

/-- Asking first makes no difference. -/
theorem WritesAtMostOnce.bind {α : Type} {mayWrite : Bool} {x : ReviewM α}
    {f : α → ReviewM Findings} {s : Session} (hx : Reads s (x.after s))
    (hf : ∀ a, x.value s = .ok a → WritesAtMostOnce mayWrite (f a) (x.after s)) :
    WritesAtMostOnce mayWrite (x >>= f) s := by
  rw [WritesAtMostOnce]
  cases hvalue : x.value s with
  | error e =>
    left
    rw [ReviewM.after_bind_of_error hvalue]
    exact hx
  | ok a =>
    rw [ReviewM.after_bind_of_ok hvalue, ReviewM.value_bind_of_ok hvalue]
    obtain hreads | ⟨hmay, hends, hwrites⟩ := hf a hvalue
    · exact .inl (IsTrans.trans _ _ _ hx hreads)
    · exact .inr ⟨hmay, hends, hwrites.after_reads hx⟩

/-! ### Runs -/

variable {r : Review} {stamp : Stamp} {id : String} {p q : Progress} {s : Session}

/-- The stages before the one that writes back. -/
def askingStages : List Stage := [.queryCandidates, .confirmCandidates, .synthesizeFlows]

theorem not_writesIn_askingStages (r : Review) :
    ∀ stage ∈ askingStages, r.writesIn stage = false := by
  simp [askingStages, writesIn]

/-- What a run does from the boundary before its last stage on. -/
def finish (r : Review) (heeds : Bool) (stamp : Stamp) (id : String) (p : Progress) :
    ReviewM Findings := do
  let p ← r.visit heeds stamp id p .report
  r.conclude stamp id p

/-- A run is its stages up to the one that writes, this one, and the last one. -/
theorem runStages_eq_finish (r : Review) (heeds : Bool) (stamp : Stamp) (id : String) :
    r.runStages heeds stamp id = (do
      r.announce id
      let p ← r.walk heeds stamp id askingStages {}
      let p ← r.visit heeds stamp id p .persist
      r.finish heeds stamp id p) := by
  have hstages : boundaries = askingStages ++ [.persist, .report] := rfl
  rw [runStages_eq_walk, hstages]
  simp only [walk_append, walk, finish, bind_assoc, pure_bind]

/-- Nothing is written after the stage that writes. -/
theorem finish_reads (h : r.AsksOnly) (heeds : Bool) (stamp : Stamp) (id : String)
    (p : Progress) : Keeps Reads (r.finish heeds stamp id p).run :=
  .run_bind (visit_reads h heeds stamp id p rfl) fun _ => conclude_reads r stamp id _

/-- Once a run has written, only a cancellation can keep it from its findings. -/
theorem finish_ends (r : Review) (heeds : Bool) (stamp : Stamp) (id : String) (s : Session)
    (h : p.tracker.current = .persist) :
    (∃ f, (r.finish heeds stamp id p).value s = .ok f) ∨
      (r.finish heeds stamp id p).value s = .error (.cancelled .report) := by
  rw [finish]
  -- Only the boundary before the report can end a run from here on.
  cases hseen : heeds && s.cancellation.isSeen with
  | true =>
    right
    exact ReviewM.value_bind_of_error (visit_of_seen r heeds stamp id p .report hseen).1
  | false =>
    left
    have hnext : p.tracker.current.next? = some .report := by rw [h]; rfl
    obtain ⟨log, hvisit, -⟩ := visit_of_next r heeds stamp id s hnext hseen
    obtain ⟨q, hq, -⟩ := work_isOk r id (p.entered stamp .report) { s with log }
      (show Stage.report ≠ .queryCandidates by decide)
    rw [ReviewM.value_bind_of_ok (hvisit.trans hq)]
    exact conclude_isOk (current_of_visit (hvisit.trans hq))

/-- A visit of the stage that writes is stopped before it writes, or writes back once. -/
theorem visit_persist (heeds : Bool) (stamp : Stamp) (id : String) (s : Session)
    (hon : r.settings.persist = true) (h : p.tracker.current = .synthesizeFlows) :
    (r.visit heeds stamp id p .persist).value s = .error (.cancelled .persist) ∧
        Reads s ((r.visit heeds stamp id p .persist).after s) ∨
      ∃ q, (r.visit heeds stamp id p .persist).value s = .ok q ∧
        WritesOnce s ((r.visit heeds stamp id p .persist).after s) := by
  cases hseen : heeds && s.cancellation.isSeen with
  | true =>
    left
    obtain ⟨hvalue, log, hafter⟩ := visit_of_seen r heeds stamp id p .persist hseen
    rw [hafter]
    exact ⟨hvalue, Reads.log s log⟩
  | false =>
    right
    have hnext : p.tracker.current.next? = some .persist := by rw [h]; rfl
    obtain ⟨log, hvalue, hafter⟩ := visit_of_next r heeds stamp id s hnext hseen
    refine ⟨_, hvalue.trans rfl, { s with log }, p.investigation, p.sources, p.sinks, p.paths,
      Reads.log s log, ?_⟩
    rw [hafter, work, ReviewM.after_lift_bind, ReviewM.after_pure, persist, if_pos hon]
    exact Std.Refl.refl _

/-- From the stage that writes on, a run that may write does so once or is stopped before. -/
theorem persist_writesAtMostOnce (h : r.AsksOnly) (heeds : Bool) (stamp : Stamp) (id : String)
    (s : Session) (hon : r.settings.persist = true) (hp : p.tracker.current = .synthesizeFlows) :
    WritesAtMostOnce true
      (r.visit heeds stamp id p .persist >>= r.finish heeds stamp id) s := by
  obtain ⟨hvisit, hreads⟩ | ⟨q, hvisit, hwrites⟩ := visit_persist heeds stamp id s hon hp
  · left
    rw [ReviewM.after_bind_of_error hvisit]
    exact hreads
  · right
    rw [ReviewM.after_bind_of_ok hvisit, ReviewM.value_bind_of_ok hvisit]
    exact ⟨rfl, finish_ends r heeds stamp id _ (current_of_visit hvisit),
      hwrites.before_reads (finish_reads h heeds stamp id q _)⟩

/-- **A run writes at most once.** -/
theorem runStages_writesAtMostOnce (h : r.AsksOnly) (heeds : Bool) (stamp : Stamp) (id : String)
    (s : Session) :
    WritesAtMostOnce r.settings.persist (r.runStages heeds stamp id) s := by
  cases hon : r.settings.persist with
  | false =>
    -- No stage writes, so all of them only ask.
    left
    have hoff : ∀ stage ∈ boundaries, r.writesIn stage = false := fun stage _ => by
      rw [writesIn, hon, Bool.and_false]
    rw [runStages_eq_walk]
    exact Keeps.run_bind (.run_lift (Reads.note _ _)) (fun _ =>
      .run_bind (walk_reads h heeds stamp id hoff _) fun _ => conclude_reads r stamp id _) s
  | true =>
    rw [runStages_eq_finish]
    refine .bind (Reads.note _ _ s) fun _ _ => .bind ?_ fun p hasked => ?_
    · exact walk_reads h heeds stamp id (not_writesIn_askingStages r) {} _
    · exact persist_writesAtMostOnce h heeds stamp id _ hon (current_of_walk hasked)

/-- A request that is refused does nothing, and any other one runs through the stages. -/
theorem run_writesAtMostOnce (h : r.AsksOnly) (stamp : Stamp) (id : String) (s : Session) :
    WritesAtMostOnce r.settings.persist (r.run stamp id) s := by
  obtain ⟨e, hrefused⟩ | hstages := run_refused_or_stages r stamp id
  · rw [hrefused]
    exact .inl (Std.Refl.refl s)
  · rw [hstages]
    exact runStages_writesAtMostOnce h true stamp (Text.trimmed id) s

/-- **Writes are gated and additive.**  A run of the default review that is not to write, or that
    ends with another error than a cancellation before its report, leaves the graph's contents
    and its record of writes as they were.  Any other run only adds. -/
theorem writes_gated_and_additive {settings : Settings} {hasCompletion : Bool}
    {start : Session} (hr : (withDefaults settings hasCompletion).value start = .ok r)
    (stamp : Stamp) (id : String) (s : Session) :
    let gated := settings.persist = false ∨
      ∃ e, (r.run stamp id).value s = .error e ∧ e ≠ .cancelled .report
    (gated → Untouched s.graph ((r.run stamp id).after s).graph) ∧
      (¬gated → Extended s.graph ((r.run stamp id).after s).graph) := by
  intro gated
  have hasks : r.AsksOnly := by
    rw [eq_defaults_of_withDefaults hr]
    exact asksOnly_defaults settings hasCompletion
  have hsettings : r.settings = settings := by
    rw [eq_defaults_of_withDefaults hr]
    rfl
  obtain hreads | ⟨hon, hends, hwrites⟩ :=
    run_writesAtMostOnce hasks stamp id s
  · have huntouched := untouched_of_reads hreads
    exact ⟨fun _ => huntouched, fun _ => huntouched.extended⟩
  · refine ⟨fun hgated => ?_, fun _ => hwrites.extended⟩
    -- A run that writes back meets neither of the two conditions.
    obtain hoff | ⟨e, he, hne⟩ := hgated
    · rw [hsettings, hoff] at hon
      cases hon
    · obtain ⟨f, hf⟩ | hcancelled := hends
      · cases hf.symm.trans he
      · cases hcancelled.symm.trans he
        exact absurd rfl hne

/-- A graph with two functions that the funnel offers as a source and as a sink, with their code and
    a call path between them. -/
def callingPair : Session where
  graph :=
    { store :=
        { nodes := [{ id := 1, labels := ["Function"], properties := [] },
            { id := 2, labels := ["Function"], properties := [] }] }
      nextId := 3
      handlers :=
        [(Statement.nodeCode,
          .ofRows [[("code", .string "def load(): ..."), ("docstring", .string "sql")]]),
         (Statement.investigationExists, .ofRows [[]]),
         (Statement.callPath, .ofRows [[("path_ids", .array [.ofInt64 1, .ofInt64 2])]]),
         (Statement.findSourceByNodeId, .entities "Source"),
         (Statement.findSinkByNodeId, .entities "Sink"),
         (Statement.keywordSourceCandidates,
          .ofRows [[("name", .string "load"), ("node_id", .ofInt64 1)]]),
         (Statement.keywordSinkCandidates,
          .ofRows [[("name", .string "save"), ("node_id", .ofInt64 2)]])] }

/-- What is known about a run that takes no time. -/
def instant : Stamp where
  runId := "run-1"
  timestamp := "2024-05-01T12:00:00Z"
  elapsed _ := 0

/-- The two sides of the gate: where the investigation is not found nothing is written, and where
    it is found the run adds a source, a sink and the path between them behind what was stored. -/
theorem writes_gated_and_additive_callingPair :
    (withDefaults {} false).value {} = .ok (defaults {} false) ∧
      ((defaults {} false).run instant "i").value {} = .error (.investigationNotFound "i") ∧
      Untouched {} (((defaults {} false).run instant "i").after {}).graph ∧
      (((defaults {} false).run instant "i").value callingPair).isOk = true ∧
      Extended callingPair.graph (((defaults {} false).run instant "i").after callingPair).graph ∧
      (((defaults {} false).run instant "i").after callingPair).graph.store.nodes.map (·.labels) =
        [["Function"], ["Function"], ["Source"], ["Sink"], ["DataFlowPath"]] := by
  have hr : (withDefaults {} false).value {} = .ok (defaults {} false) := rfl
  have hmissing : ((defaults {} false).run instant "i").value {} =
      .error (.investigationNotFound "i") := rfl
  have hrun : ((((defaults {} false).run instant "i").value callingPair).isOk,
      (((defaults {} false).run instant "i").after callingPair).graph.store.nodes.map (·.labels)) =
        (true, [["Function"], ["Function"], ["Source"], ["Sink"], ["DataFlowPath"]]) := by
    decide +kernel
  obtain ⟨hfound, hlabels⟩ := Prod.mk.inj hrun
  refine ⟨hr, hmissing, ?_, hfound, ?_, hlabels⟩
  · exact (writes_gated_and_additive hr instant "i" {}).1
      (.inr ⟨_, hmissing, ReviewError.noConfusion⟩)
  · refine (writes_gated_and_additive hr instant "i" callingPair).2 ?_
    rintro (hoff | ⟨e, he, -⟩)
    · cases hoff
    · rw [he] at hfound
      cases hfound

end TaintReview.Review
