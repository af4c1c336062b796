import TaintReview.Graph.Handlers
import TaintReview.Proofs.Confirmation
import TaintReview.Proofs.FlowEnds
import TaintReview.Proofs.Writes

namespace TaintReview.Review

open Text

/-!
# What findings are made of

The sources and the sinks of a run confirm candidates that the graph offered at its start, and
its flows lead from these sources to these sinks.  The facts are collected stage by stage: which
candidates there are, which endpoints confirm them and which flows join these, and that the later
stages take all of it over.

* `candidates_of_work`, `kept_of_work`, `joins_of_work`, `found_of_visit` — what each stage adds;
* `findings_confirm_candidates` — what this says about the findings of the default review.
-/

/-! ### What each stage adds -/

variable {r : Review} {stamp : Stamp} {id : String} {p q : Progress} {s : Session}
  {stage : Stage}

/-- The keyword funnel's candidates for both roles, as the graph offers them. -/
theorem value_queryCandidates {settings : FunnelSettings} (h : r.funnels = [.keyword settings])
    (id : String) (s : Session) :
    (r.queryCandidates id).value s =
      (Funnel.offered settings .source id s.graph, Funnel.offered settings .sink id s.graph) := by
  have hasked := Funnel.byKeyword_reads settings .source id s
  rw [queryCandidates, h]
  show ((Funnel.byKeyword settings .source id).value s ++ [],
    (Funnel.byKeyword settings .sink id).value
      ((Funnel.byKeyword settings .source id).after s) ++ []) = _
  rw [Funnel.value_byKeyword, Funnel.value_byKeyword, Funnel.offered_of_reads hasked,
    List.append_nil, List.append_nil]

/-- The first stage asks the funnel. -/
theorem candidates_of_work {settings : FunnelSettings} (hfunnels : r.funnels = [.keyword settings])
    (h : (r.work id p .queryCandidates).value s = .ok q) :
    q.candidates =
      (Funnel.offered settings .source id s.graph, Funnel.offered settings .sink id s.graph) := by
  obtain ⟨investigation, -, h⟩ := ReviewM.bind_eq_ok.mp h
  have hlook : Reads s ((lookUp id).after s) := lookUp_reads id s
  rw [ReviewM.value_lift_bind, value_queryCandidates hfunnels, Funnel.offered_of_reads hlook,
    Funnel.offered_of_reads hlook] at h
  rw [← Except.ok.inj h]

/-- Some of the candidates were confirmed by the endpoints, in their order. -/
def Kept (g : Graph) (role : Role) (cs : List Candidate) (es : List Endpoint) : Prop :=
  ∃ kept, kept.Sublist cs ∧ List.Forall₂ (Confirms g role) kept es

/-- What is confirmed after asking is confirmed before it. -/
theorem Kept.of_reads {s s' : Session} {role : Role} {cs : List Candidate} {es : List Endpoint}
    (hreads : Reads s s') (h : Kept s'.graph role cs es) : Kept s.graph role cs es := by
  obtain ⟨kept, hsub, hkept⟩ := h
  exact ⟨kept, hsub, hkept.imp fun _ _ => Confirms.of_reads hreads⟩

/-- The second stage confirms some of the candidates. -/
theorem kept_of_work (hasks : r.AsksOnly) (hconfirms : ∀ a ∈ r.analyzers, a.ConfirmsOnly)
    (h : (r.work id p .confirmCandidates).value s = .ok q) :
    Kept s.graph .source p.candidates.1 q.sources ∧
      Kept s.graph .sink p.candidates.2 q.sinks := by
  rw [← Except.ok.inj h]
  have hsources : Reads s ((r.confirmAll .source p.candidates.1).after s) :=
    confirmAll_reads hasks .source _ s
  exact ⟨confirmAll_kept hasks hconfirms .source p.candidates.1 s,
    .of_reads hsources (confirmAll_kept hasks hconfirms .sink p.candidates.2 _)⟩

/-- The third stage finds flows between the endpoints. -/
theorem joins_of_work (hjoins : ∀ a ∈ r.analyzers, a.JoinsOnly)
    (h : (r.work id p .synthesizeFlows).value s = .ok q) :
    q.sources = p.sources ∧ q.sinks = p.sinks ∧ ∀ x ∈ q.paths, x.Joins p.sources p.sinks := by
  rw [← Except.ok.inj h]
  exact ⟨rfl, rfl, synthesize_joins hjoins p.sources p.sinks id s⟩

/-- What was found so far. -/
def Progress.found (p : Progress) : List Endpoint × List Endpoint × List FlowPath :=
  (p.sources, p.sinks, p.paths)

/-- The findings take over what was found. -/
theorem found_of_conclude {f : Findings} (h : (r.conclude stamp id p).value s = .ok f) :
    (f.sources, f.sinks, f.paths) = p.found := by
  obtain ⟨done, -, h⟩ := ReviewM.bind_eq_ok.mp h
  rw [← Except.ok.inj h]
  rfl

/-! ### Whole runs -/

/-- A visit that succeeds did the work of its stage, and only wrote to the log before. -/
theorem work_of_visit {heeds : Bool} (h : (r.visit heeds stamp id p stage).value s = .ok q) :
    ∃ tracker s', Reads s s' ∧ (r.work id { p with tracker } stage).value s' = .ok q := by
  obtain ⟨tracker, -, hwork⟩ := ReviewM.bind_eq_ok.mp h
  exact ⟨tracker, _, enter_reads heeds stamp p.tracker stage s, hwork⟩

/-- The last two stages take over what was found. -/
theorem found_of_visit {heeds : Bool} (hstage : stage = .persist ∨ stage = .report)
    (h : (r.visit heeds stamp id p stage).value s = .ok q) : q.found = p.found := by
  obtain ⟨tracker, s', -, hwork⟩ := work_of_visit h
  obtain rfl | rfl := hstage
  · rw [← Except.ok.inj hwork]
    rfl
  · rw [← Except.ok.inj hwork]
    rfl

/-- What the stages that only ask have found stands on what the graph offered before them. -/
theorem found_of_asking {settings : FunnelSettings} {heeds : Bool} (hasks : r.AsksOnly)
    (hfunnels : r.funnels = [.keyword settings]) (hconfirms : ∀ a ∈ r.analyzers, a.ConfirmsOnly)
    (hjoins : ∀ a ∈ r.analyzers, a.JoinsOnly)
    (h : (r.walk heeds stamp id askingStages {}).value s = .ok p) :
    Kept s.graph .source (Funnel.offered settings .source id s.graph) p.sources ∧
      Kept s.graph .sink (Funnel.offered settings .sink id s.graph) p.sinks ∧
      ∀ x ∈ p.paths, x.Joins p.sources p.sinks := by
  obtain ⟨asked, hasked, h⟩ := ReviewM.bind_eq_ok.mp h
  obtain ⟨confirmed, hconfirmed, h⟩ := ReviewM.bind_eq_ok.mp h
  obtain ⟨joined, hjoined, h⟩ := ReviewM.bind_eq_ok.mp h
  cases h
  obtain ⟨_, s₁, hreads₁, hasking⟩ := work_of_visit hasked
  obtain ⟨_, s₂, hreads₂, hconfirming⟩ := work_of_visit hconfirmed
  obtain ⟨_, s₃, -, hjoining⟩ := work_of_visit hjoined
  -- The candidates are confirmed in a later session, where the graph answers as at the start.
  have hlater : Reads s s₂ :=
    IsTrans.trans _ _ _ (visit_reads hasks heeds stamp id {} rfl s) hreads₂
  have hcandidates := candidates_of_work hfunnels hasking
  rw [Funnel.offered_of_reads hreads₁, Funnel.offered_of_reads hreads₁] at hcandidates
  obtain ⟨hsources, hsinks⟩ := kept_of_work hasks hconfirms hconfirming
  obtain ⟨hsameSources, hsameSinks, hpaths⟩ := joins_of_work hjoins hjoining
  rw [hcandidates] at hsources hsinks
  rw [hsameSources, hsameSinks]
  exact ⟨hsources.of_reads hlater, hsinks.of_reads hlater, hpaths⟩

/-- The findings of a run are what its asking stages have found. -/
theorem asking_of_run {f : Findings} (h : (r.run stamp id).value s = .ok f) :
    ∃ p, (r.walk true stamp (trimmed id) askingStages {}).value
        ((r.announce (trimmed id)).after s) = .ok p ∧
      (f.sources, f.sinks, f.paths) = p.found := by
  obtain ⟨e, hrefused⟩ | hstages := run_refused_or_stages r stamp id
  · rw [hrefused] at h
    cases h
  rw [hstages, runStages_eq_finish, ReviewM.value_lift_bind] at h
  obtain ⟨p, hwalk, h⟩ := ReviewM.bind_eq_ok.mp h
  obtain ⟨written, hwritten, h⟩ := ReviewM.bind_eq_ok.mp h
  obtain ⟨reported, hreported, h⟩ := ReviewM.bind_eq_ok.mp h
  refine ⟨p, hwalk, ?_⟩
  calc (f.sources, f.sinks, f.paths)
      = reported.found := found_of_conclude h
    _ = written.found := found_of_visit (.inr rfl) hreported
    _ = p.found := found_of_visit (.inl rfl) hwritten

/-- **The findings of the default review stand on its candidates.**  Its sources and its sinks
    confirm some of the candidates that the graph offers for the role, in their order, and each
    of its flows leads from one of these sources to one of these sinks. -/
theorem findings_confirm_candidates {settings : Settings} {hasCompletion : Bool}
    {start : Session} (hr : (withDefaults settings hasCompletion).value start = .ok r)
    {f : Findings} (hf : (r.run stamp id).value s = .ok f) :
    Kept s.graph .source (Funnel.offered settings.funnel .source (trimmed id) s.graph) f.sources ∧
      Kept s.graph .sink (Funnel.offered settings.funnel .sink (trimmed id) s.graph) f.sinks ∧
      ∀ p ∈ f.paths, p.source ∈ f.sources ∧ p.sink ∈ f.sinks := by
  obtain rfl := eq_defaults_of_withDefaults hr
  obtain ⟨p, hwalk, hfound⟩ := asking_of_run hf
  -- What holds of both analyzers of the library holds of those that the defaults choose.
  have hconfirms := forall_mem_analyzers hasCompletion
    (Analyzer.completion_confirmsOnly settings.completion)
    (Analyzer.documentation_confirmsOnly settings.documentation)
  have hjoins := forall_mem_analyzers hasCompletion
    (Analyzer.completion_joinsOnly settings.completion)
    (Analyzer.documentation_joinsOnly settings.documentation)
  obtain ⟨hsources, hsinks, hpaths⟩ :=
    found_of_asking (asksOnly_defaults settings hasCompletion) rfl hconfirms hjoins hwalk
  obtain ⟨hs, hfound⟩ := Prod.mk.inj hfound
  obtain ⟨ht, hp⟩ := Prod.mk.inj hfound
  rw [hs, ht, hp]
  exact ⟨hsources, hsinks, hpaths⟩

/-- A graph in which a function calls a class; the documentation of both speaks of databases. -/
def loadAndStore : Session where
  graph :=
    { handlers :=
        [(Statement.nodeCode,
          .ofRows [[("code", .string "def load(): ..."), ("docstring", .string "sql")]]),
         (Statement.investigationExists, .ofRows [[]]),
         (Statement.callPath, .ofRows [[("path_ids", .array [.ofInt64 7, .ofInt64 8])]]),
         (Statement.keywordSourceCandidates,
          .ofRows [[("name", .string "load"), ("node_id", .ofInt64 7)]]),
         (Statement.keywordSinkCandidates,
          .ofRows [[("kind", .string "Class"), ("name", .string "Store"),
            ("node_id", .ofInt64 8)]])] }

/-- Settings with one keyword for each role that leave the graph alone. -/
def lookOnly : Settings :=
  { persist := false, funnel := { sourceKeywords := ["in"], sinkKeywords := ["out"] } }

/-- A run with one source, one sink and a flow between them. -/
theorem findings_confirm_candidates_loadAndStore :
    (withDefaults lookOnly false).value {} = .ok (defaults lookOnly false) ∧
      ∃ f, ((defaults lookOnly false).run instant " i ").value loadAndStore = .ok f ∧
        (f.sources.map (·.nodeId), f.sinks.map (·.nodeId), f.paths.length) = ([7], [8], 1) ∧
        Kept loadAndStore.graph .source
          (Funnel.offered lookOnly.funnel .source (trimmed " i ") loadAndStore.graph) f.sources ∧
        Kept loadAndStore.graph .sink
          (Funnel.offered lookOnly.funnel .sink (trimmed " i ") loadAndStore.graph) f.sinks ∧
        ∀ p ∈ f.paths, p.source ∈ f.sources ∧ p.sink ∈ f.sinks := by
  have hr : (withDefaults lookOnly false).value {} = .ok (defaults lookOnly false) := rfl
  have hrun : (((defaults lookOnly false).run instant " i ").value loadAndStore).toOption.map
      (fun f => (f.sources.map (·.nodeId), f.sinks.map (·.nodeId), f.paths.length)) =
      some ([7], [8], 1) := by decide +kernel
  cases hok : ((defaults lookOnly false).run instant " i ").value loadAndStore with
  | error e => rw [hok] at hrun; cases hrun
  | ok f =>
    rw [hok] at hrun
    exact ⟨hr, f, rfl, Option.some.inj hrun, findings_confirm_candidates hr hok⟩

end TaintReview.Review
