import TaintReview.Proofs.Acting
import TaintReview.Proofs.Stages

namespace TaintReview

/-!
# The default review only asks

Funnels, analyzers and summarizers are steps on a session, and in general such a step may do
anything.  Those of the default review only ask the two services: they leave the store of the
graph and the answers of both services as they were.

* the lemmas `…_made` say how each function of a review is put together, for steps of any kind;
* `Review.PartsMadeOf`, `Review.AsksOnly` — how all parts of a review are put together, and that
  all of them only ask;
* `Review.eq_defaults_of_withDefaults`, `Review.asksOnly_defaults` — which parts the default
  review has, and that all of them only ask;
* `Review.work_reads`, `Review.walk_reads` — then every stage only asks, but for the one that
  writes.
-/

variable {base : (α : Type) → SessionM α → Prop}

/-! ### Funnels -/

namespace Funnel

/-- Sorting out rows takes notes only. -/
theorem usable_made (rows : List Record) : MadeOf base (usable rows) := by
  induction rows with
  | nil => exact .pure _
  | cons row rest ih =>
    rw [usable]
    cases Candidate.ofRecord row with
    | ok candidate => exact .bind ih fun _ => .pure _
    | error e => exact .bind (.note _ _) fun _ => ih

/-- A keyword funnel asks the graph and takes notes. -/
theorem byKeyword_made (settings : FunnelSettings) (role : Role) (id : String) :
    MadeOf base (byKeyword settings role id) := by
  refine .bind (.runQuery _ _) fun rows => ?_
  cases rows with
  | ok rows => exact .bind (usable_made rows) fun _ => .bind (.note _ _) fun _ => .pure _
  | error e => exact .bind (.note _ _) fun _ => .pure _

theorem byKeyword_reads (settings : FunnelSettings) (role : Role) (id : String) :
    Keeps Reads (byKeyword settings role id) :=
  (byKeyword_made settings role id).reads

end Funnel

/-! ### Analyzers -/

/-- Fetching code is a question to the graph. -/
theorem fetchCode_made (id : NodeId) : MadeOf base (fetchCode id).run :=
  .run_bind (.query _ _) fun _ => .run_pure _

/-- Code is fetched from the first row that the graph answers, and where the graph fails, the
    fetching does. -/
theorem value_fetchCode (id : NodeId) (s : Session) :
    (fetchCode id).value s =
      ((s.graph.rows Statement.nodeCode [("node_id", .ofInt64 id)]).mapError ReviewError.graph).map
        fun rows => rows.head?.bind CodeContext.ofRecord? := by
  rw [fetchCode, ReviewM.value_bind, ReviewM.value_query]
  cases s.graph.rows Statement.nodeCode [("node_id", .ofInt64 id)] <;> rfl

/-- What is fetched where the graph answers. -/
theorem value_fetchCode_of_rows {id : NodeId} {s : Session} {rows : List Record}
    (h : s.graph.rows Statement.nodeCode [("node_id", .ofInt64 id)] = .ok rows) :
    (fetchCode id).value s = .ok (rows.head?.bind CodeContext.ofRecord?) := by
  rw [value_fetchCode, h]
  rfl

namespace DocumentationAnalyzer

/-- Judging by documentation takes the code of the entity and nothing else. -/
theorem judge_made (role : Role) (c : Candidate) : MadeOf base (judge role c).run := by
  refine .run_bind (fetchCode_made _) fun context? => ?_
  cases context? with
  | none => exact .run_bind (.run_lift (.note _ _)) fun _ => .run_pure _
  | some context => exact .run_pure _

/-- Looking for a call path is a question to the graph. -/
theorem pairFlow_made (settings : DocumentationSettings) (id : String)
    (source sink : Endpoint) : MadeOf base (pairFlow settings id source sink) := by
  refine .bind (.runQuery _ _) fun rows => ?_
  cases rows with
  | ok rows => exact .pure _
  | error e => exact .bind (.warnOf _ _) fun _ => .pure _

/-- Looking for several call paths is a question for each pair. -/
theorem pairFlows_made (settings : DocumentationSettings) (id : String)
    (pairs : List (Endpoint × Endpoint)) : MadeOf base (pairFlows settings id pairs) := by
  induction pairs with
  | nil => exact .pure _
  | cons pair rest ih =>
    exact .bind (pairFlow_made settings id pair.1 pair.2) fun _ => .bind ih fun _ => .pure _

/-- Flows along call paths are found by such questions. -/
theorem flows_made (settings : DocumentationSettings) (sources sinks : List Endpoint)
    (id : String) : MadeOf base (flows settings sources sinks id).run := by
  rw [flows]
  split
  · exact .run_pure _
  · exact .run_bind (.run_lift (pairFlows_made settings id _)) fun _ =>
      .run_bind (.run_lift (.note _ _)) fun _ => .run_pure _

end DocumentationAnalyzer

namespace CompletionAnalyzer

/-- Judging by completion takes the code of the entity and one question to the service. -/
theorem judge_made (settings : CompletionSettings) (role : Role) (c : Candidate) :
    MadeOf base (judge settings role c).run := by
  refine .run_bind (fetchCode_made _) fun context? => ?_
  cases context? with
  | none => exact .run_bind (.run_lift (.note _ _)) fun _ => .run_pure _
  | some context => exact .run_bind (.ask _) fun _ => .run_pure _

/-- Texts about endpoints take the code of each of them. -/
theorem entityTexts_made (settings : CompletionSettings) (es : List Endpoint) :
    MadeOf base (entityTexts settings es).run := by
  induction es with
  | nil => exact .run_pure _
  | cons e rest ih =>
    exact .run_bind (fetchCode_made _) fun _ => .run_bind ih fun _ => .run_pure _

/-- The flows of a file take the code of its endpoints and one question to the service. -/
theorem fileFlows_made (settings : CompletionSettings) (file : NodeId)
    (sources sinks : List Endpoint) :
    MadeOf base (fileFlows settings file sources sinks).run :=
  .run_bind (entityTexts_made settings sources) fun _ =>
    .run_bind (entityTexts_made settings sinks) fun _ =>
      .run_bind (.ask _) fun _ => .run_pure _

/-- The flows of several files are asked for file by file. -/
theorem flowsByFile_made (settings : CompletionSettings) (sources sinks : List Endpoint)
    (id : String) (files : List NodeId) :
    MadeOf base (flowsByFile settings sources sinks id files) := by
  induction files with
  | nil => exact .pure _
  | cons file rest ih =>
    rw [flowsByFile]
    -- A file that lacks a source or a sink is passed over.
    split
    · exact ih
    · refine .bind (fileFlows_made settings file _ _) fun found => ?_
      cases found with
      | ok found => exact .bind (.note _ _) fun _ => .bind ih fun _ => .pure _
      | error e => exact .bind (.warnOf _ _) fun _ => ih

/-- Flows within files are found by such questions. -/
theorem flows_made (settings : CompletionSettings) (sources sinks : List Endpoint)
    (id : String) : MadeOf base (flows settings sources sinks id).run := by
  rw [flows]
  split
  · exact .run_pure _
  · exact .run_lift (flowsByFile_made settings sources sinks id _)

/-- A summary is one question to the service. -/
theorem summarize_made (settings : CompletionSettings) (sources sinks : List Endpoint)
    (paths : List FlowPath) (id : String) :
    MadeOf base (summarize settings sources sinks paths id).run := by
  refine .run_bind (.ask _) fun answer => ?_
  split
  · exact .run_throw _
  · exact .run_pure _

end CompletionAnalyzer

namespace Review

/-! ### Reviews whose parts only ask -/

/-- All that the review consults is put together from questions and from steps of a kind. -/
structure PartsMadeOf (base : (α : Type) → SessionM α → Prop) (r : Review) : Prop where
  candidates : ∀ f ∈ r.funnels, ∀ role id, MadeOf base (f.candidates role id)
  judge : ∀ a ∈ r.analyzers, ∀ role c, MadeOf base (a.judge role c).run
  flows : ∀ a ∈ r.analyzers, ∀ sources sinks id, MadeOf base (a.flows sources sinks id).run
  summarize : ∀ f ∈ r.summarizer, ∀ sources sinks paths id,
    MadeOf base (f sources sinks paths id).run

/-- Nothing that the review consults writes. -/
structure AsksOnly (r : Review) : Prop where
  candidates : ∀ f ∈ r.funnels, ∀ role id, Keeps Reads (f.candidates role id)
  judge : ∀ a ∈ r.analyzers, ∀ role c, Keeps Reads (a.judge role c).run
  flows : ∀ a ∈ r.analyzers, ∀ sources sinks id, Keeps Reads (a.flows sources sinks id).run
  summarize : ∀ f ∈ r.summarizer, ∀ sources sinks paths id,
    Keeps Reads (f sources sinks paths id).run

/-- Parts that only ask are made of themselves. -/
theorem AsksOnly.partsMadeOf {r : Review} (h : r.AsksOnly) :
    r.PartsMadeOf fun _ => Keeps Reads where
  candidates f hf role id := .base (h.candidates f hf role id)
  judge a ha role c := .base (h.judge a ha role c)
  flows a ha sources sinks id := .base (h.flows a ha sources sinks id)
  summarize f hf sources sinks paths id := .base (h.summarize f hf sources sinks paths id)

/-- Parts made of steps that only ask only ask. -/
theorem PartsMadeOf.asksOnly {r : Review} (h : r.PartsMadeOf fun _ => Keeps Reads) :
    r.AsksOnly where
  candidates f hf role id := (h.candidates f hf role id).reads
  judge a ha role c := (h.judge a ha role c).reads
  flows a ha sources sinks id := (h.flows a ha sources sinks id).reads
  summarize f hf sources sinks paths id := (h.summarize f hf sources sinks paths id).reads

/-- The default review: what `withDefaults` registers, all at once. -/
def defaults (settings : Settings) (hasCompletion : Bool) : Review where
  settings
  hasCompletion
  funnels := [.keyword settings.funnel]
  analyzers :=
    (if hasCompletion then [.completion settings.completion] else []) ++
      [.documentation settings.documentation]
  summarizer :=
    if hasCompletion then some (CompletionAnalyzer.summarize settings.completion) else none

/-- Registering the default funnel and analyzers gives the default review. -/
theorem eq_defaults_of_withDefaults {settings : Settings} {hasCompletion : Bool} {s : Session}
    {r : Review} (h : (withDefaults settings hasCompletion).value s = .ok r) :
    r = defaults settings hasCompletion := by
  obtain ⟨blank, hblank, hsetup⟩ := ReviewM.bind_eq_ok.mp h
  rw [ReviewM.value_liftExcept, ofSettings] at hblank
  cases hcheck : settings.check with
  | error e => rw [hcheck] at hblank; cases hblank
  | ok _ =>
    rw [hcheck] at hblank
    cases hblank
    cases hasCompletion <;> exact (Except.ok.inj hsetup).symm

/-- The default review has no other analyzers than these two. -/
theorem forall_mem_analyzers {settings : Settings} (hasCompletion : Bool) {P : Analyzer → Prop}
    (hcompletion : P (.completion settings.completion))
    (hdocumentation : P (.documentation settings.documentation)) :
    ∀ a ∈ (defaults settings hasCompletion).analyzers, P a := by
  rw [defaults, List.forall_mem_append, List.forall_mem_singleton]
  refine ⟨?_, hdocumentation⟩
  cases hasCompletion with
  | false => exact List.forall_mem_nil _
  | true => exact List.forall_mem_singleton.mpr hcompletion

/-- The parts of the default review are put together from questions alone. -/
theorem partsMadeOf_defaults (settings : Settings) (hasCompletion : Bool) :
    (defaults settings hasCompletion).PartsMadeOf base where
  candidates := by
    rw [defaults, List.forall_mem_singleton]
    exact Funnel.byKeyword_made settings.funnel
  judge :=
    forall_mem_analyzers hasCompletion (CompletionAnalyzer.judge_made settings.completion)
      DocumentationAnalyzer.judge_made
  flows :=
    forall_mem_analyzers hasCompletion (CompletionAnalyzer.flows_made settings.completion)
      (DocumentationAnalyzer.flows_made settings.documentation)
  summarize := by
    intro f hf
    cases hasCompletion with
    | false => cases hf
    | true =>
      cases hf
      exact CompletionAnalyzer.summarize_made settings.completion

/-- **The default review only asks.** -/
theorem asksOnly_defaults (settings : Settings) (hasCompletion : Bool) :
    (defaults settings hasCompletion).AsksOnly :=
  (partsMadeOf_defaults settings hasCompletion).asksOnly

/-! ### The functions of a review -/

variable {r : Review} {stamp : Stamp} {id : String} {p : Progress} {stage : Stage}

/-- Gathering candidates asks each funnel for sources and for sinks. -/
theorem gather_made (id : String) (fs : List Funnel)
    (h : ∀ f ∈ fs, ∀ role id, MadeOf base (f.candidates role id)) : MadeOf base (gather id fs) := by
  induction fs with
  | nil => exact .pure _
  | cons f rest ih =>
    obtain ⟨hf, hrest⟩ := List.forall_mem_cons.mp h
    exact .bind (hf .source id) fun _ => .bind (hf .sink id) fun _ =>
      .bind (ih hrest) fun _ => .pure _

/-- Looking up the investigation is a question to the graph. -/
theorem lookUp_made (id : String) : MadeOf base (lookUp id).run := by
  refine .run_bind (.run_lift (.runQuery _ _)) fun rows => ?_
  rcases rows with e | (_ | ⟨row, rows⟩)
  · exact .run_bind (.run_lift (.note _ _)) fun _ => .run_throw _
  · exact .run_bind (.run_lift (.note _ _)) fun _ => .run_throw _
  · exact .run_pure _

/-- Looking up the investigation only asks. -/
theorem lookUp_reads (id : String) : Keeps Reads (lookUp id).run := (lookUp_made id).reads

/-- Confirming a candidate asks one analyzer after the other. -/
theorem confirm_made (role : Role) (c : Candidate) (as : List Analyzer)
    (h : ∀ a ∈ as, ∀ role c, MadeOf base (a.judge role c).run) :
    MadeOf base (confirm role c as) := by
  induction as with
  | nil => exact .pure _
  | cons a rest ih =>
    obtain ⟨ha, hrest⟩ := List.forall_mem_cons.mp h
    refine .bind (ha role c) fun verdict => ?_
    -- After a failure or a refusal the next analyzer is asked, and a confirmation is the end.
    rcases verdict with e | (_ | endpoint)
    · exact .bind (.warnOf _ _) fun _ => .bind (ih hrest) fun _ => .pure _
    · exact ih hrest
    · exact .pure _

/-- Confirming a candidate only asks when the analyzers do. -/
theorem confirm_reads (role : Role) (c : Candidate) (as : List Analyzer)
    (h : ∀ a ∈ as, ∀ role c, Keeps Reads (a.judge role c).run) :
    Keeps Reads (confirm role c as) :=
  (confirm_made role c as fun a ha role c => .base (h a ha role c)).reads

/-- Confirming candidates is confirming one after the other. -/
theorem confirmAll_made (h : r.PartsMadeOf base) (role : Role) (cs : List Candidate) :
    MadeOf base (r.confirmAll role cs) := by
  induction cs with
  | nil => exact .pure _
  | cons c rest ih =>
    exact .bind (confirm_made role c r.analyzers h.judge) fun _ => .bind ih fun _ => .pure _

/-- Confirming candidates only asks when the parts of the review do. -/
theorem confirmAll_reads (h : r.AsksOnly) (role : Role) (cs : List Candidate) :
    Keeps Reads (r.confirmAll role cs) :=
  (confirmAll_made h.partsMadeOf role cs).reads

/-- Synthesizing flows asks each analyzer. -/
theorem synthesize_made (sources sinks : List Endpoint) (id : String) (as : List Analyzer)
    (h : ∀ a ∈ as, ∀ sources sinks id, MadeOf base (a.flows sources sinks id).run) :
    MadeOf base (synthesize sources sinks id as) := by
  induction as with
  | nil => exact .pure _
  | cons a rest ih =>
    obtain ⟨ha, hrest⟩ := List.forall_mem_cons.mp h
    refine .bind (ha sources sinks id) fun found => ?_
    cases found with
    | ok found => exact .bind (.note _ _) fun _ => .bind (ih hrest) fun _ => .pure _
    | error e => exact .bind (.warnOf _ _) fun _ => .bind (ih hrest) fun _ => .pure _

/-- Summarizing asks the summarizer, if there is one. -/
theorem summarize_made (h : r.PartsMadeOf base) (sources sinks : List Endpoint)
    (paths : List FlowPath) (id : String) :
    MadeOf base (r.summarize sources sinks paths id) := by
  rw [summarize]
  split
  · exact .pure _
  · next f hf =>
    refine .bind (h.summarize f hf sources sinks paths id) fun summary => ?_
    cases summary with
    | ok summary => exact .pure _
    | error e => exact .bind (.note _ _) fun _ => .pure _

/-- Concluding a run takes notes only. -/
theorem conclude_made (r : Review) (stamp : Stamp) (id : String) (p : Progress) :
    MadeOf base (r.conclude stamp id p).run :=
  .run_bind (.run_liftExcept _) fun _ => .run_bind (.run_lift (.note _ _)) fun _ =>
    .run_bind (.run_lift (.note _ _)) fun _ => .run_pure _

theorem conclude_reads (r : Review) (stamp : Stamp) (id : String) (p : Progress) :
    Keeps Reads (r.conclude stamp id p).run :=
  (conclude_made r stamp id p).reads

/-! ### The stages of a review -/

/-- Does the review write in the stage? -/
def writesIn (r : Review) (stage : Stage) : Bool := stage == .persist && r.settings.persist

/-- How the work of a stage is put together.  Only the stage that writes needs that steps of the
    kind may write. -/
theorem work_made (h : r.PartsMadeOf base) (id : String) (p : Progress)
    (hwrites : r.writesIn stage = true → ∀ i sources sinks paths failedBefore,
      MadeOf base (persistAll i sources sinks paths failedBefore)) :
    MadeOf base (r.work id p stage).run := by
  -- Funnels, analyzers and the summarizer each have their stages; the others need no part at all.
  cases stage with
  | setup => exact .run_pure _
  | queryCandidates =>
    exact .run_bind (lookUp_made id) fun _ => .run_bind (.run_lift
      (.bind (gather_made id r.funnels h.candidates) fun _ => .bind (.note _ _) fun _ =>
        .pure _)) fun _ => .run_pure _
  | confirmCandidates =>
    exact .run_bind (.run_lift (confirmAll_made h .source _)) fun _ =>
      .run_bind (.run_lift (confirmAll_made h .sink _)) fun _ =>
        .run_bind (.run_lift (.note _ _)) fun _ => .run_pure _
  | synthesizeFlows =>
    exact .run_bind (.run_lift (synthesize_made _ _ id r.analyzers h.flows)) fun _ => .run_pure _
  | persist =>
    refine .run_bind (.run_lift ?_) fun _ => .run_pure _
    rw [persist]
    split
    · next hon => exact hwrites hon _ _ _ _ _
    · exact .bind (.note _ _) fun _ => .pure _
  | report => exact .run_bind (.run_lift (summarize_made h _ _ _ id)) fun _ => .run_pure _
  | done => exact .run_pure _

/-- **A stage only asks**, unless it is the one that writes and the settings let it. -/
theorem work_reads (h : r.AsksOnly) (id : String) (p : Progress)
    (hstage : r.writesIn stage = false) : Keeps Reads (r.work id p stage).run :=
  (work_made h.partsMadeOf id p fun hon => by rw [hstage] at hon; cases hon).reads

theorem enter_reads (heeds : Bool) (stamp : Stamp) (t : Tracker) (stage : Stage) :
    Keeps Reads (enter heeds stamp t stage).run := by
  intro s
  obtain ⟨log, hlog⟩ := after_enter heeds stamp t stage s
  rw [ReviewM.after_run, hlog]
  exact Reads.log s log

/-- Entering a stage that does not write and working in it only asks. -/
theorem visit_reads (h : r.AsksOnly) (heeds : Bool) (stamp : Stamp) (id : String) (p : Progress)
    (hstage : r.writesIn stage = false) : Keeps Reads (r.visit heeds stamp id p stage).run :=
  .run_bind (enter_reads heeds stamp p.tracker stage) fun _ => work_reads h id _ hstage

/-- A walk through stages none of which writes only asks. -/
theorem walk_reads (h : r.AsksOnly) (heeds : Bool) (stamp : Stamp) (id : String)
    {stages : List Stage} (hstages : ∀ stage ∈ stages, r.writesIn stage = false) (p : Progress) :
    Keeps Reads (r.walk heeds stamp id stages p).run := by
  induction stages generalizing p with
  | nil => exact .run_pure _
  | cons stage rest ih =>
    obtain ⟨hstage, hrest⟩ := List.forall_mem_cons.mp hstages
    exact .run_bind (visit_reads h heeds stamp id p hstage) fun q => ih hrest q

end Review

end TaintReview
