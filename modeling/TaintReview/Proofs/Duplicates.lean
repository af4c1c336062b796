import TaintReview.Proofs.Independence
import TaintReview.Proofs.Integrity
import TaintReview.Proofs.WriteBack

namespace TaintReview

/-!
# Repeated candidates

Funnels may offer one entity several times: in several rows of one query, or one funnel after the
other.  Nothing puts the repetitions together.  Each candidate is judged for itself, so that the
findings of a review list an entity as often as its candidates are confirmed, and the write-back
stores as many nodes for it.

* `Persistence.countP_persistAll` — how many nodes a write-back stores for a code node;
* `Review.withFunnels` — the default review with more funnels;
* `Review.answers` — what funnels answer when they are asked in turn, and `Review.value_gather` —
  the candidates are these answers, one behind the other;
* `Review.gathering` and `Review.settling` — a run up to the confirmation of its candidates and from
  there on, with `Review.endpoints_of_settling` for what is found and `Review.countP_settling` for
  what is stored;
* `Review.repetitions_are_kept` — what this says about repeated candidates.
-/

/-! ### Nodes for one code node -/

namespace Persistence

/-- Is the node an entity of the role that stands for the code node? -/
def isEntityOf (role : Role) (id : NodeId) (n : StoredNode) : Bool :=
  n.hasLabel (label role) && n.hasProperty "node_id" (.ofInt64 id)

/-- The node of an endpoint stands for the endpoint's code node, in its own role only. -/
theorem isEntityOf_endpoint {i : Investigation} {role : Role} {e : Endpoint} {n : StoredNode}
    (hlabels : n.labels = [label role]) (hproperties : n.properties = endpointProperties i.id e)
    (role' : Role) (id : NodeId) :
    isEntityOf role' id n = (decide (role' = role) && e.nodeId == id) := by
  have hlabel : n.hasLabel (label role') = decide (role' = role) := by
    rw [StoredNode.hasLabel, hlabels]
    cases role <;> cases role' <;> decide
  have hnode : n.hasProperty "node_id" (.ofInt64 id) = (e.nodeId == id) := by
    rw [StoredNode.hasProperty, hproperties, nodeId_endpointProperties]
    -- Properties are compared as numbers, and no two words are one number.
    show (e.nodeId.toInt == id.toInt) = (e.nodeId == id)
    rw [Bool.eq_iff_iff, beq_iff_eq, beq_iff_eq, Int64.toInt_inj]
  rw [isEntityOf, hlabel, hnode]

/-- The node of a path stands for no code node. -/
theorem isEntityOf_path {n : StoredNode} (hlabels : n.labels = [pathLabel]) (role : Role)
    (id : NodeId) : isEntityOf role id n = false := by
  have hlabel : n.hasLabel (label role) = false := by
    rw [StoredNode.hasLabel, hlabels]
    cases role <;> decide
  rw [isEntityOf, hlabel, Bool.false_and]

/-- Endpoints that are written in turn leave one node each. -/
theorem countP_of_writtenInTurn {r : Rules} {i : Investigation} {role : Role}
    {stored nodes : List StoredNode} {es : List Endpoint} {links : List Relationship}
    (h : WrittenInTurn (EndpointBlock r i role) stored es nodes links) (role' : Role)
    (id : NodeId) :
    nodes.countP (isEntityOf role' id) =
      if role' = role then es.countP (·.nodeId == id) else 0 := by
  induction h with
  | nil stored => exact (ite_self 0).symm
  | cons first next ih =>
    rw [List.countP_cons, List.countP_cons, ih,
      isEntityOf_endpoint first.labels first.properties]
    by_cases hrole : role' = role
    · simp [hrole]
    · simp [hrole]

/-- Writing paths adds no nodes but theirs. -/
theorem writePaths_pathNodes (i : Investigation) (sources sinks : List NodeId)
    (paths : List FlowPath) (s : Session) :
    ∃ added,
      ((writePaths i sources sinks paths).after s).graph.store.nodes =
        s.graph.store.nodes ++ added ∧
      ∀ role id, added.countP (isEntityOf role id) = 0 := by
  obtain ⟨calls, attempted, hadds, -, hcreations, -⟩ := writePaths_adds i sources sinks paths s
  refine ⟨_, hadds.nodes, fun role id => List.countP_eq_zero.mpr fun n hn => ?_⟩
  rw [hcreations] at hn
  obtain ⟨creation, hcreation, hnode⟩ := List.mem_filterMap.mp hn
  obtain ⟨x, -, rfl⟩ := List.mem_map.mp hcreation
  have hlabels : n.labels = [pathLabel] := by
    rw [Creation.node?] at hnode
    split at hnode
    · cases hnode
      rfl
    · cases hnode
  rw [isEntityOf_path hlabels role id]
  exact Bool.false_ne_true

/-- **A write-back stores one node for each endpoint**, repeated or not, if the graph keeps nodes
    of the role; and none if it does not. -/
theorem countP_persistAll (i : Investigation) (found : Role → List Endpoint)
    (paths : List FlowPath) (failedBefore : Nat) (s : Session) :
    ∃ added,
      ((persistAll i (found .source) (found .sink) paths failedBefore).after s).graph.store.nodes =
        s.graph.store.nodes ++ added ∧
      ∀ role id, added.countP (isEntityOf role id) =
        (writtenEndpoints s.graph.rules role (found role)).countP (·.nodeId == id) := by
  obtain ⟨log, hafter⟩ := after_persistAll i (found .source) (found .sink) paths failedBefore s
  dsimp only at hafter
  obtain ⟨-, sources, sourceLinks, hsources, hsourceStores⟩ :=
    writeEndpoints_stores i .source (found .source) s
  -- The sessions between the three parts are given names, and their contents do not matter.
  generalize hs₁ : (writeEndpoints i .source (found .source)).after s = s₁ at *
  obtain ⟨-, sinks, sinkLinks, hsinks, hsinkStores⟩ :=
    writeEndpoints_stores i .sink (found .sink) s₁
  generalize hs₂ : (writeEndpoints i .sink (found .sink)).after s₁ = s₂ at *
  rw [hsourceStores.rules] at hsinks
  obtain ⟨pathNodes, hpaths, hnone⟩ := writePaths_pathNodes i
    ((writeEndpoints i .source (found .source)).value s).written
    ((writeEndpoints i .sink (found .sink)).value s₁).written paths s₂
  refine ⟨sources ++ sinks ++ pathNodes, ?_, fun role id => ?_⟩
  · rw [hafter, hpaths, hsinkStores.nodes, hsourceStores.nodes, List.append_assoc,
      List.append_assoc, List.append_assoc]
  · rw [List.countP_append, List.countP_append, countP_of_writtenInTurn hsources,
      countP_of_writtenInTurn hsinks, hnone]
    cases role <;> simp [writtenEndpoints]

end Persistence

/-- The endpoints that were found in a role. -/
def Findings.endpoints (f : Findings) : Role → List Endpoint
  | .source => f.sources
  | .sink => f.sinks

namespace Review

open Persistence Text

variable {r : Review} {stamp : Stamp} {id : String} {p q : Progress} {s t : Session} {f : Findings}

/-! ### More funnels -/

/-- The default review, with more funnels that are asked after its own. -/
def withFunnels (settings : Settings) (hasCompletion : Bool) (more : List Funnel) :
    ReviewM Review := do
  let r ← withDefaults settings hasCompletion
  (more.foldlM register r : SessionM Review)

/-- Funnels that are registered one after the other stand behind those that were there. -/
theorem value_foldlM_register (more : List Funnel) (r : Review) (s : Session) :
    (more.foldlM register r : SessionM Review).value s =
      { r with funnels := r.funnels ++ more } := by
  induction more generalizing r s with
  | nil => rw [List.append_nil]; rfl
  | cons f rest ih =>
    rw [List.foldlM_cons, SessionM.value_bind, ih]
    show { r with funnels := r.funnels ++ [f] ++ rest } = _
    rw [List.append_assoc]
    rfl

/-- The review has the default funnel and then the others; the rest is as in the default review. -/
theorem eq_of_withFunnels {settings : Settings} {hasCompletion : Bool} {more : List Funnel}
    (h : (withFunnels settings hasCompletion more).value s = .ok r) :
    r = { defaults settings hasCompletion with funnels := .keyword settings.funnel :: more } := by
  obtain ⟨first, hfirst, hmore⟩ := ReviewM.bind_eq_ok.mp h
  rw [ReviewM.value_lift, value_foldlM_register, eq_defaults_of_withDefaults hfirst] at hmore
  exact (Except.ok.inj hmore).symm

/-! ### What funnels offer -/

/-- What a funnel answers in a role.  It is asked for sources first, and then for sinks. -/
def answer (id : String) (f : Funnel) (s : Session) : Role → List Candidate
  | .source => (f.candidates .source id).value s
  | .sink => (f.candidates .sink id).value ((f.candidates .source id).after s)

/-- What funnels answer in a role, when they are asked one after the other. -/
def answers (id : String) (role : Role) : List Funnel → Session → List (List Candidate)
  | [], _ => []
  | f :: rest, s => answer id f s role ::
      answers id role rest ((f.candidates .sink id).after ((f.candidates .source id).after s))

/-- The candidates that are gathered are the answers of the funnels, one behind the other. -/
theorem value_gather (id : String) (funnels : List Funnel) (s : Session) :
    (gather id funnels).value s =
      ((answers id .source funnels s).flatten, (answers id .sink funnels s).flatten) := by
  induction funnels generalizing s with
  | nil => rfl
  | cons f rest ih =>
    simp only [gather, SessionM.value_bind, SessionM.value_pure, ih, answers, List.flatten_cons,
      answer]

/-! ### A run around the confirmation of its candidates -/

/-- The candidates that were offered in a role. -/
def Progress.offered (p : Progress) : Role → List Candidate
  | .source => p.candidates.1
  | .sink => p.candidates.2

/-- The endpoints that were confirmed in a role. -/
def Progress.endpoints (p : Progress) : Role → List Endpoint
  | .source => p.sources
  | .sink => p.sinks

/-- A run up to the confirmation of its candidates. -/
def gathering (r : Review) (stamp : Stamp) (id : String) : ReviewM Progress := do
  r.announce id
  let p ← r.visit true stamp id {} .queryCandidates
  let tracker ← enter true stamp p.tracker .confirmCandidates
  pure { p with tracker }

/-- A run from the confirmation of its candidates on. -/
def settling (r : Review) (stamp : Stamp) (id : String) (p : Progress) : ReviewM Findings := do
  let p ← r.work id p .confirmCandidates
  let p ← r.visit true stamp id p .synthesizeFlows
  let p ← r.visit true stamp id p .persist
  r.finish true stamp id p

/-- A run is what happens up to the confirmation of its candidates, and what happens from there
    on. -/
theorem runStages_eq_settling (r : Review) (stamp : Stamp) (id : String) :
    r.runStages true stamp id = r.gathering stamp id >>= r.settling stamp id := by
  rw [runStages_eq_finish]
  simp only [askingStages, walk, gathering, settling, visit, bind_assoc, pure_bind]

/-- A run that gives findings has gathered candidates and settled them. -/
theorem settling_of_run (h : (r.run stamp id).value s = .ok f) :
    ∃ p, (r.gathering stamp (trimmed id)).value s = .ok p ∧
      (r.settling stamp (trimmed id) p).value ((r.gathering stamp (trimmed id)).after s) = .ok f ∧
      (r.run stamp id).after s =
        (r.settling stamp (trimmed id) p).after ((r.gathering stamp (trimmed id)).after s) := by
  obtain ⟨e, hrefused⟩ | hstages := run_refused_or_stages r stamp id
  · rw [hrefused] at h
    cases h
  rw [hstages, runStages_eq_settling] at h ⊢
  obtain ⟨p, hgathered, hsettled⟩ := ReviewM.bind_eq_ok.mp h
  exact ⟨p, hgathered, hsettled, ReviewM.after_bind_of_ok hgathered⟩

/-- **What is gathered is what the funnels answer**, in the session in which the run has looked its
    investigation up. -/
theorem offered_of_gathering (h : (r.gathering stamp id).value s = .ok p) :
    ∃ asked, Reads s asked ∧
      ∀ role, p.offered role = (answers id role r.funnels asked).flatten := by
  obtain ⟨_, -, h⟩ := ReviewM.bind_eq_ok.mp h
  obtain ⟨found, hvisit, h⟩ := ReviewM.bind_eq_ok.mp h
  obtain ⟨tracker, -, hentered⟩ := ReviewM.bind_eq_ok.mp h
  -- Entering the stage and looking the investigation up only ask; then the funnels are asked.
  obtain ⟨tracker', s', hbefore, hwork⟩ := work_of_visit hvisit
  obtain ⟨investigation, -, hgathered⟩ := ReviewM.bind_eq_ok.mp hwork
  refine ⟨(lookUp id).after s', ?_, fun role => ?_⟩
  · have hannounced : Reads s ((r.announce id).after s) := Reads.note _ _ s
    have hlook : Reads s' ((lookUp id).after s') := lookUp_reads id s'
    exact IsTrans.trans _ _ _ (IsTrans.trans _ _ _ hannounced hbefore) hlook
  · have hcandidates : found.candidates = (gather id r.funnels).value ((lookUp id).after s') := by
      rw [← Except.ok.inj hgathered]
      rfl
    rw [← Except.ok.inj hentered]
    show Progress.offered { found with tracker } role = _
    cases role <;> simp only [Progress.offered, hcandidates, value_gather]

/-! ### What becomes of candidates -/

/-- The endpoint of the first analyzer that confirms the candidate, when they are asked in the
    session. -/
def confirmed? (r : Review) (role : Role) (s : Session) (c : Candidate) : Option Endpoint :=
  r.analyzers.findSome? (verdict? role c s)

/-- Confirming candidates only asks, when judging does. -/
theorem confirmAll_asks (h : JudgesByAsking r.analyzers) (role : Role) (cs : List Candidate) :
    Keeps Reads (r.confirmAll role cs) := by
  induction cs with
  | nil => exact .pure _
  | cons c rest ih =>
    have hfirst := confirm_reads role c r.analyzers fun a ha role c => (h a ha role c).2
    exact .bind hfirst fun _ => .bind ih fun _ => .pure _

/-- The endpoints of candidates that are judged in a session that answers alike. -/
theorem endpoints_confirmAll (h : JudgesByAsking r.analyzers) (role : Role) (cs : List Candidate)
    (hst : Alike s t) :
    endpoints ((r.confirmAll role cs).value t) = cs.filterMap (r.confirmed? role s) := by
  rw [(confirmAll_eq h cs hst).1, endpoints, List.filterMap_map]
  rfl

/-- The stage that confirms finds the endpoints of the candidates that are confirmed. -/
theorem endpoints_of_confirming (h : JudgesByAsking r.analyzers)
    (hwork : (r.work id p .confirmCandidates).value t = .ok q) (role : Role) :
    q.endpoints role = (p.offered role).filterMap (r.confirmed? role t) := by
  have hasked : Reads t ((r.confirmAll .source p.candidates.1).after t) :=
    confirmAll_asks h .source p.candidates.1 t
  rw [← Except.ok.inj hwork]
  -- The sinks are judged after the sources, in a session that answers alike.
  cases role with
  | source => exact endpoints_confirmAll h .source p.candidates.1 (.refl t)
  | sink => exact endpoints_confirmAll h .sink p.candidates.2 (.of_reads hasked)

/-- The stage that synthesizes flows leaves the endpoints as they are. -/
theorem endpoints_of_synthesizing
    (h : (r.visit true stamp id p .synthesizeFlows).value s = .ok q) (role : Role) :
    q.endpoints role = p.endpoints role := by
  obtain ⟨tracker, s', -, hwork⟩ := work_of_visit h
  rw [← Except.ok.inj hwork]
  cases role <;> rfl

/-- The later stages take over what was found. -/
theorem endpoints_of_finishing {joined written : Progress}
    (hwritten : (r.visit true stamp id joined .persist).value s = .ok written)
    (h : (r.finish true stamp id written).value t = .ok f) (role : Role) :
    f.endpoints role = joined.endpoints role := by
  obtain ⟨reported, hreported, h⟩ := ReviewM.bind_eq_ok.mp h
  have hfound : (f.sources, f.sinks, f.paths) = joined.found :=
    calc (f.sources, f.sinks, f.paths)
        = reported.found := found_of_conclude h
      _ = written.found := found_of_visit (.inr rfl) hreported
      _ = joined.found := found_of_visit (.inl rfl) hwritten
  cases role with
  | source => exact congrArg (·.1) hfound
  | sink => exact congrArg (·.2.1) hfound

/-- **Candidates that are confirmed are what is found**, each of them for itself. -/
theorem endpoints_of_settling (hjudges : JudgesByAsking r.analyzers)
    (h : (r.settling stamp id p).value t = .ok f) (role : Role) :
    f.endpoints role = (p.offered role).filterMap (r.confirmed? role t) := by
  obtain ⟨confirmed, hconfirmed, h⟩ := ReviewM.bind_eq_ok.mp h
  obtain ⟨joined, hjoined, h⟩ := ReviewM.bind_eq_ok.mp h
  obtain ⟨written, hwritten, h⟩ := ReviewM.bind_eq_ok.mp h
  calc f.endpoints role
      = joined.endpoints role := endpoints_of_finishing hwritten h role
    _ = confirmed.endpoints role := endpoints_of_synthesizing hjoined role
    _ = _ := endpoints_of_confirming hjudges hconfirmed role

/-! ### What is written for them -/

/-- Apart from its funnels, nothing that the review consults writes. -/
def SettlesByAsking (r : Review) : Prop := ({ r with funnels := [] } : Review).AsksOnly

/-- The stage that confirms only asks, when judging does. -/
theorem confirming_reads (h : JudgesByAsking r.analyzers) (id : String) (p : Progress) :
    Keeps Reads (r.work id p .confirmCandidates).run :=
  .run_bind (.run_lift (confirmAll_asks h .source _)) fun _ =>
    .run_bind (.run_lift (confirmAll_asks h .sink _)) fun _ =>
      .run_bind (.run_lift (Reads.note _ _)) fun _ => .run_pure _

/-- The stage that synthesizes flows asks no funnel, so it only asks when the other parts do. -/
theorem synthesizing_reads (h : r.SettlesByAsking) (stamp : Stamp) (id : String) (p : Progress) :
    Keeps Reads (r.visit true stamp id p .synthesizeFlows).run := by
  have hvisit : Keeps Reads
      (({ r with funnels := [] } : Review).visit true stamp id p .synthesizeFlows).run :=
    visit_reads h true stamp id p rfl
  exact hvisit

/-- After the stage that writes a run only asks, when its parts do. -/
theorem finishing_reads (h : r.SettlesByAsking) (stamp : Stamp) (id : String) (p : Progress) :
    Keeps Reads (r.finish true stamp id p).run := by
  have hvisit : Keeps Reads
      (({ r with funnels := [] } : Review).visit true stamp id p .report).run :=
    visit_reads h true stamp id p rfl
  exact .run_bind hvisit fun _ => conclude_reads r stamp id _

/-- The stage that writes stores one node for each endpoint, if it is to write and the graph keeps
    nodes of the role. -/
theorem countP_persisting (h : (r.visit true stamp id p .persist).value s = .ok q) :
    ∃ added,
      ((r.visit true stamp id p .persist).after s).graph.store.nodes =
        s.graph.store.nodes ++ added ∧
      ∀ role node, added.countP (isEntityOf role node) =
        if r.settings.persist && s.graph.rules.keeps (label role) then
          (p.endpoints role).countP (·.nodeId == node)
        else 0 := by
  obtain ⟨tracker, henter, -⟩ := ReviewM.bind_eq_ok.mp h
  obtain ⟨log, hlog⟩ := after_enter true stamp p.tracker .persist s
  rw [visit, ReviewM.after_bind_of_ok henter, hlog, work, ReviewM.after_lift_bind,
    ReviewM.after_pure, persist]
  -- Without write-back the stage takes a note, and nothing is stored.
  cases r.settings.persist with
  | false => exact ⟨[], (List.append_nil _).symm, fun _ _ => rfl⟩
  | true =>
    obtain ⟨added, hnodes, hcount⟩ :=
      countP_persistAll p.investigation p.endpoints p.paths 0 { s with log }
    refine ⟨added, hnodes, fun role node => (hcount role node).trans ?_⟩
    rw [writtenEndpoints, kept, Bool.true_and]
    show List.countP _ (if s.graph.rules.keeps (label role) then p.endpoints role else []) = _
    split <;> rfl

/-- **What is written for a code node**: a node for each endpoint that was found for it, if the
    review is to write and the graph keeps nodes of the role. -/
theorem countP_settling (hasks : r.SettlesByAsking) (hjudges : JudgesByAsking r.analyzers)
    (h : (r.settling stamp id p).value t = .ok f) :
    ∃ added,
      ((r.settling stamp id p).after t).graph.store.nodes = t.graph.store.nodes ++ added ∧
      ∀ role node, added.countP (isEntityOf role node) =
        if r.settings.persist && t.graph.rules.keeps (label role) then
          (f.endpoints role).countP (·.nodeId == node)
        else 0 := by
  obtain ⟨confirmed, hconfirmed, h⟩ := ReviewM.bind_eq_ok.mp h
  obtain ⟨joined, hjoined, h⟩ := ReviewM.bind_eq_ok.mp h
  obtain ⟨written, hwritten, h⟩ := ReviewM.bind_eq_ok.mp h
  -- Before and after the stage that writes the graph is only asked.
  have hbefore : Stores t.graph [] [] [] _ := .of_reads (IsTrans.trans _ _ _
    (confirming_reads hjudges id p t) (synthesizing_reads hasks stamp id confirmed _))
  obtain ⟨added, hnodes, hcount⟩ := countP_persisting hwritten
  have hlast (s : Session) :
      Stores s.graph [] [] [] ((r.finish true stamp id written).after s).graph :=
    .of_reads (finishing_reads hasks stamp id written s)
  refine ⟨added, ?_, fun role node => ?_⟩
  · rw [settling, ReviewM.after_bind_of_ok hconfirmed, ReviewM.after_bind_of_ok hjoined,
      ReviewM.after_bind_of_ok hwritten]
    calc _ = _ ++ [] := (hlast _).nodes
      _ = _ := List.append_nil _
      _ = _ ++ added := hnodes
      _ = t.graph.store.nodes ++ [] ++ added := congrArg (· ++ added) hbefore.nodes
      _ = t.graph.store.nodes ++ added := by rw [List.append_nil]
  · rw [hcount role node, endpoints_of_finishing hwritten h role]
    exact congrArg (fun rules : Rules => if r.settings.persist && rules.keeps (label role) then
      (joined.endpoints role).countP (·.nodeId == node) else 0) hbefore.rules

/-! ### Repetitions -/

/-- The analyzers of the default review judge by asking. -/
theorem judgesByAsking_defaults (settings : Settings) (hasCompletion : Bool) :
    JudgesByAsking (defaults settings hasCompletion).analyzers :=
  judgesByAsking_of_known (forall_mem_analyzers hasCompletion (.inl ⟨_, rfl⟩) (.inr ⟨_, rfl⟩))

/-- An endpoint that confirms a candidate stands for the candidate's code node. -/
theorem nodeId_of_confirmed? (h : ∀ a ∈ r.analyzers, a.ConfirmsOnly) {role : Role} {c : Candidate}
    {e : Endpoint} (he : r.confirmed? role s c = some e) : e.nodeId = c.nodeId := by
  obtain ⟨a, ha, hverdict⟩ := List.exists_of_findSome?_eq_some he
  rw [verdict?] at hverdict
  split at hverdict
  · next endpoint? hjudge =>
    subst hverdict
    exact (h a ha role c s e hjudge).nodeId
  · cases hverdict

/-- What is found stands for the code nodes of the candidates that are confirmed, in their order
    and with their repetitions. -/
theorem map_nodeId_confirmed (h : ∀ a ∈ r.analyzers, a.ConfirmsOnly) (role : Role) (s : Session)
    (cs : List Candidate) :
    (cs.filterMap (r.confirmed? role s)).map (·.nodeId) =
      (cs.filter fun c => (r.confirmed? role s c).isSome).map (·.nodeId) := by
  induction cs with
  | nil => rfl
  | cons c rest ih =>
    cases hc : r.confirmed? role s c with
    | none => rw [List.filterMap_cons_none hc, List.filter_cons_of_neg (by simp [hc]), ih]
    | some e =>
      rw [List.filterMap_cons_some hc, List.filter_cons_of_pos (by simp [hc]), List.map_cons,
        List.map_cons, ih, nodeId_of_confirmed? h hc]

/-- **Repetitions are kept.**  Let a run of the default review, with any further funnels, give
    findings, and let `t` be the session in which it began to confirm the candidates that it had
    gathered.  The candidates are all that the funnels answered, one answer behind the other.  Each
    of them is judged for itself: what was found in a role are the endpoints of the first analyzers
    that confirm a candidate, in the order of the candidates, so that a code node is found as often
    as candidates for it are confirmed, and at most once exactly if no two of these are for one
    node.  For each code node the run stores as many nodes as were found for it, if it is to write
    and the graph keeps nodes of the role, and otherwise none. -/
theorem repetitions_are_kept {settings : Settings} {hasCompletion : Bool} {more : List Funnel}
    {start : Session} (hr : (withFunnels settings hasCompletion more).value start = .ok r)
    (hf : (r.run stamp id).value s = .ok f) :
    ∃ p, (r.gathering stamp (trimmed id)).value s = .ok p ∧
      (∃ asked, Reads s asked ∧
        ∀ role, p.offered role = (answers (trimmed id) role r.funnels asked).flatten) ∧
      let t := (r.gathering stamp (trimmed id)).after s
      let confirmed (role : Role) := (p.offered role).filter fun c => (r.confirmed? role t c).isSome
      (∀ role, f.endpoints role = (p.offered role).filterMap (r.confirmed? role t)) ∧
      (∀ role, (f.endpoints role).map (·.nodeId) = (confirmed role).map (·.nodeId)) ∧
      (∀ role, (∀ node, (f.endpoints role).countP (·.nodeId == node) ≤ 1) ↔
        ((confirmed role).map (·.nodeId)).Nodup) ∧
      ∃ added, ((r.run stamp id).after s).graph.store.nodes = t.graph.store.nodes ++ added ∧
        ∀ role node, added.countP (isEntityOf role node) =
          if settings.persist && t.graph.rules.keeps (label role) then
            (f.endpoints role).countP (·.nodeId == node)
          else 0 := by
  -- The analyzers are those of the default review, whatever the funnels are.
  have heq := eq_of_withFunnels hr
  have hjudges : JudgesByAsking r.analyzers := by
    rw [heq]
    exact judgesByAsking_defaults settings hasCompletion
  have hconfirms : ∀ a ∈ r.analyzers, a.ConfirmsOnly := by
    rw [heq]
    exact forall_mem_analyzers hasCompletion
      (Analyzer.completion_confirmsOnly settings.completion)
      (Analyzer.documentation_confirmsOnly settings.documentation)
  have hasks : r.SettlesByAsking := by
    rw [heq]
    exact { asksOnly_defaults settings hasCompletion with candidates := nofun }
  have hsettings : r.settings = settings := by
    rw [heq]
    rfl
  obtain ⟨p, hgathered, hsettled, hafter⟩ := settling_of_run hf
  have hfound := endpoints_of_settling hjudges hsettled
  have hnodes (role : Role) := (congrArg (List.map (·.nodeId)) (hfound role)).trans
    (map_nodeId_confirmed hconfirms role _ (p.offered role))
  refine ⟨p, hgathered, offered_of_gathering hgathered, hfound, hnodes, fun role => ?_, ?_⟩
  · -- A list has no repetitions when each of its members is counted once.
    rw [← hnodes role, List.nodup_iff_count_le_one]
    simp only [List.count, List.countP_map]
    rfl
  · rw [hafter, ← hsettings]
    exact countP_settling hasks hjudges hsettled

/-- A graph that knows the investigation and the code of its functions. -/
def documented : Session where
  graph :=
    { handlers :=
        [(Statement.nodeCode,
          .ofRows [[("code", .string "def load(): ..."), ("docstring", .string "sql")]]),
         (Statement.investigationExists, .ofRows [[]])] }

/-- A funnel that offers one function as a source, whatever it is asked about. -/
def alwaysLoad : Funnel where
  name := "load"
  candidates role _ :=
    pure (match role with
      | .source => [{ nodeId := 7, name := "load" }]
      | .sink => [])

/-- The default review with two such funnels. -/
def askingTwice : Review :=
  { defaults {} false with funnels := [.keyword {}, alwaysLoad, alwaysLoad] }

/-- A function that two funnels offer is found and stored twice. -/
theorem repetitions_are_kept_askingTwice :
    (withFunnels {} false [alwaysLoad, alwaysLoad]).value {} = .ok askingTwice ∧
      ∃ f p added, (askingTwice.run instant "i").value documented = .ok f ∧
        (askingTwice.gathering instant "i").value documented = .ok p ∧
        f.sources.map (·.nodeId) = [7, 7] ∧
        ((p.offered .source).filter fun c => (askingTwice.confirmed? .source
          ((askingTwice.gathering instant "i").after documented) c).isSome).map (·.nodeId) =
          [7, 7] ∧
        ((askingTwice.run instant "i").after documented).graph.store.nodes =
          ((askingTwice.gathering instant "i").after documented).graph.store.nodes ++ added ∧
        added.countP (isEntityOf .source 7) = 2 := by
  have hr : (withFunnels {} false [alwaysLoad, alwaysLoad]).value {} = .ok askingTwice := rfl
  have hrun : ((askingTwice.run instant "i").value documented).toOption.map
      (fun f => (f.sources.map (·.nodeId), f.sources.countP (·.nodeId == 7))) =
        some ([7, 7], 2) := by decide +kernel
  have hkeeps : ((askingTwice.gathering instant "i").after documented).graph.rules.keeps
      (label .source) = true := by decide +kernel
  cases hf : (askingTwice.run instant "i").value documented with
  | error e =>
    rw [hf] at hrun
    cases hrun
  | ok f =>
    rw [hf] at hrun
    obtain ⟨hsources, hcount⟩ := Prod.mk.inj (Option.some.inj hrun)
    have hkept := repetitions_are_kept hr hf
    rw [show trimmed "i" = "i" by decide] at hkept
    obtain ⟨p, hgathered, -, -, hnodes, -, added, hadded, hstored⟩ := hkept
    have htwice : added.countP (isEntityOf .source 7) = f.sources.countP (·.nodeId == 7) := by
      rw [hstored .source 7, hkeeps]
      rfl
    exact ⟨hr, f, p, added, rfl, hgathered, hsources, (hnodes .source).symm.trans hsources,
      hadded, htwice.trans hcount⟩

/-- Such a graph that offers one function as a source in two rows. -/
def twoRows : Session where
  graph :=
    { handlers := documented.graph.handlers ++
        [(Statement.keywordSourceCandidates,
          .ofRows
            [[("name", .string "load"), ("node_id", .ofInt64 7)],
             [("name", .string "load"), ("node_id", .ofInt64 7)]])] }

/-- Two rows for one function give two sources and two nodes in the store. -/
theorem rows_not_collapsed :
    (withDefaults {} false).value {} = .ok (defaults {} false) ∧
      ∃ f, ((defaults {} false).run instant "i").value twoRows = .ok f ∧
        f.sources.map (·.nodeId) = [7, 7] ∧
        (((defaults {} false).run instant "i").after twoRows).graph.store.nodes.countP
          (isEntityOf .source 7) = 2 := by
  have hrun : ((((defaults {} false).run instant "i").value twoRows).toOption.map
        (fun f => f.sources.map (·.nodeId)),
      (((defaults {} false).run instant "i").after twoRows).graph.store.nodes.countP
        (isEntityOf .source 7)) = (some [7, 7], 2) := by decide +kernel
  obtain ⟨hsources, hstored⟩ := Prod.mk.inj hrun
  cases hf : ((defaults {} false).run instant "i").value twoRows with
  | error e =>
    rw [hf] at hsources
    cases hsources
  | ok f =>
    rw [hf] at hsources
    exact ⟨rfl, f, rfl, Option.some.inj hsources, hstored⟩

end Review

end TaintReview
