import TaintReview.Persistence
import TaintReview.Proofs.Calls

namespace TaintReview

namespace Persistence

/-!
# The accounts of a write-back

Writing findings back counts what was written and what failed.  Each function of the write-back
has a contract here: the calls that it makes, and how its counts are read off them.

* `link_adds`, `linkAll_adds` — links create no nodes, and count the links that failed;
* `writeEndpoint_adds`, `writeEndpoints_adds` — one creation for each endpoint;
* `writePath_adds`, `writePaths_adds` — at most one creation for each path whose ends were
  written, and none for any other path;
* `persistAll_adds` — all calls of a write-back, in blocks;
* `persistAll_accounts` — what the counts say.
-/

/-! ### Links -/

/-- A link is one call, and counts as a failure exactly when that call failed. -/
theorem link_adds (start target : NodeId) (type : String) (s : Session) :
    ∃ answer, Adds s [.createRelationship start target type answer]
        ((link start target type).after s) ∧
      (link start target type).value s =
        failedLinks [.createRelationship start target type answer] := by
  have h := Adds.createRelationship start target type s
  refine ⟨(Session.createRelationship start target type).value s, ?_⟩
  rw [link, SessionM.after_bind, SessionM.value_bind]
  generalize (Session.createRelationship start target type).value s = answer at h ⊢
  rcases answer with e | (_ | _)
  · exact ⟨h.log _, rfl⟩
  · exact ⟨h.log _, rfl⟩
  · exact ⟨h, rfl⟩

/-- Links create no nodes, and what they count is what failed. -/
theorem linkAll_adds (links : List (NodeId × NodeId × String)) (s : Session) :
    ∃ calls, Adds s calls ((linkAll links).after s) ∧ creations calls = [] ∧
      (linkAll links).value s = failedLinks calls := by
  induction links generalizing s with
  | nil => exact ⟨[], Adds.refl s, rfl, rfl⟩
  | cons head rest ih =>
    obtain ⟨start, target, type⟩ := head
    obtain ⟨answer, hfirst, hfailed⟩ := link_adds start target type s
    obtain ⟨calls, hrest, hnone, hothers⟩ := ih ((link start target type).after s)
    refine ⟨_, hfirst.trans hrest, ?_, ?_⟩
    · rw [creations_append, hnone]
      rfl
    · rw [failedLinks_append, ← hfailed, ← hothers]
      rfl

/-! ### Endpoints -/

/-- The creation of an endpoint's node, given the answer to it. -/
def endpointCreation (i : Investigation) (role : Role) (e : Endpoint)
    (answer : CreationAnswer) : Creation :=
  { labels := [label role], properties := endpointProperties i.id e, answer }

/-- An endpoint is one creation.  It is written when it is given an identity, and otherwise
    counts as one failure; every failed link is one more. -/
theorem writeEndpoint_adds (i : Investigation) (role : Role) (e : Endpoint) (s : Session) :
    ∃ calls answer, Adds s calls ((writeEndpoint i role e).after s) ∧
      creations calls = [endpointCreation i role e answer] ∧
      ((writeEndpoint i role e).value s).written = isAssigned answer ∧
      ((writeEndpoint i role e).value s).failures =
        (if isAssigned answer then 0 else 1) + failedLinks calls := by
  have h := Adds.createNode [label role] (endpointProperties i.id e) s
  rw [writeEndpoint, SessionM.after_bind, SessionM.value_bind]
  generalize (Session.createNode [label role] (endpointProperties i.id e)).value s = answer
    at h ⊢
  generalize (Session.createNode [label role] (endpointProperties i.id e)).after s = s₁ at h ⊢
  -- Links are made only for a node that was given an identity.
  rcases answer with error | (_ | entity)
  · exact ⟨_, _, h.log _, rfl, rfl, rfl⟩
  · exact ⟨_, _, h.log _, rfl, rfl, rfl⟩
  · obtain ⟨calls, hlinks, hnone, hfailed⟩ := linkAll_adds (endpointLinks i role e entity) s₁
    refine ⟨_, .ok (some entity), h.trans hlinks, ?_, rfl, ?_⟩
    · rw [creations_append, hnone]
      rfl
    · rw [failedLinks_append, ← hfailed, ← Nat.add_assoc]
      exact (Nat.zero_add _).symm

/-- The code nodes of the endpoints that were given an identity. -/
def assignedNodes (es : List Endpoint) (answers : List CreationAnswer) :
    List NodeId :=
  ((es.zip answers).filter fun x => isAssigned x.2).map (·.1.nodeId)

/-- No more endpoints were given an identity than there are. -/
theorem length_assignedNodes_le (es : List Endpoint) (answers : List CreationAnswer) :
    (assignedNodes es answers).length ≤ es.length := by
  rw [assignedNodes, List.length_map]
  calc ((es.zip answers).filter fun x => isAssigned x.2).length
      ≤ (es.zip answers).length := List.length_filter_le _ _
    _ ≤ es.length := by rw [List.length_zip]; exact Nat.min_le_left _ _

/-- The first endpoint is among those that were given an identity when its answer says so. -/
@[simp] theorem assignedNodes_cons (e : Endpoint) (es : List Endpoint)
    (answer : CreationAnswer)
    (answers : List CreationAnswer) :
    assignedNodes (e :: es) (answer :: answers) =
      if isAssigned answer then e.nodeId :: assignedNodes es answers
      else assignedNodes es answers := by
  rw [assignedNodes, List.zip_cons_cons, List.filter_cons]
  split <;> rfl

/-- Endpoints are written one after the other, and their outcomes are added up. -/
theorem value_writeEndpoints_cons (i : Investigation) (role : Role) (e : Endpoint)
    (rest : List Endpoint) (s : Session) :
    (writeEndpoints i role (e :: rest)).value s =
      let outcome := (writeEndpoint i role e).value s
      let others := (writeEndpoints i role rest).value ((writeEndpoint i role e).after s)
      { written := if outcome.written then e.nodeId :: others.written else others.written
        failures := outcome.failures + others.failures } := rfl

/-- Endpoints are one creation each, in order.  Those that are given an identity are written;
    the others and the failed links are the failures. -/
theorem writeEndpoints_adds (i : Investigation) (role : Role) (es : List Endpoint)
    (s : Session) :
    ∃ calls answers, Adds s calls ((writeEndpoints i role es).after s) ∧
      answers.length = es.length ∧
      creations calls = List.zipWith (endpointCreation i role) es answers ∧
      ((writeEndpoints i role es).value s).written = assignedNodes es answers ∧
      ((writeEndpoints i role es).value s).failures + (assignedNodes es answers).length =
        es.length + failedLinks calls := by
  induction es generalizing s with
  | nil => exact ⟨[], [], Adds.refl s, rfl, rfl, rfl, rfl⟩
  | cons e rest ih =>
    obtain ⟨calls, answer, hfirst, hcreated, hwritten, hfailed⟩ := writeEndpoint_adds i role e s
    obtain ⟨others, answers, hrest, hlength, hcreations, hall, hfailures⟩ :=
      ih ((writeEndpoint i role e).after s)
    refine ⟨calls ++ others, answer :: answers, hfirst.trans hrest, ?_, ?_, ?_, ?_⟩
    · rw [List.length_cons, List.length_cons, hlength]
    · rw [creations_append, hcreated, hcreations, List.zipWith_cons_cons]
      rfl
    · simp only [value_writeEndpoints_cons, hwritten, assignedNodes_cons, hall]
    · simp only [value_writeEndpoints_cons, hfailed, assignedNodes_cons, failedLinks_append,
        List.length_cons]
      -- An endpoint is either written or one more failure.
      cases isAssigned answer with
      | true => simp only [if_true, List.length_cons]; omega
      | false => simp only [Bool.false_eq_true, if_false]; omega

/-! ### Paths -/

/-- The creation of a path's node, given the answer to it. -/
def pathCreation (i : Investigation) (p : FlowPath)
    (answer : CreationAnswer) : Creation :=
  { labels := [pathLabel], properties := pathProperties i.id p, answer }

/-- Looking for an endpoint's node only asks. -/
theorem findEndpoint_reads (i : Investigation) (role : Role) (e : Endpoint) :
    Keeps Reads (findEndpoint i role e).run := by
  refine .run_bind (.run_bind (Reads.query _ _) fun rows => .run_pure _) fun found => ?_
  split
  · exact .run_bind (.run_lift (Reads.warnOf _ _)) fun _ => .run_pure _
  · exact .run_pure _

/-- What became of a path, from the outcome of trying to write it. -/
def outcomeOf : Except ReviewError Outcome → Outcome
  | .ok outcome => outcome
  | .error _ => { written := false, failures := 1 }

/-- Every way to go on from here makes at most the one creation of the path.  The path is
    written when that creation is given an identity, and otherwise counts as one failure; every
    failed link is one more. -/
def WritesPath (i : Investigation) (p : FlowPath) (x : ReviewM Outcome) : Prop :=
  ∀ s, ∃ calls, ∃ answer? : Option CreationAnswer, Adds s calls (x.after s) ∧
    creations calls = (answer?.map (pathCreation i p)).toList ∧
    (outcomeOf (x.value s)).written = answer?.any isAssigned ∧
    (outcomeOf (x.value s)).failures =
      (if answer?.any isAssigned then 0 else 1) + failedLinks calls

namespace WritesPath

variable {i : Investigation} {p : FlowPath}

/-- A path that is given up is one failure and no creation. -/
theorem giveUp : WritesPath i p (pure { written := false, failures := 1 }) :=
  fun s => ⟨[], none, Adds.refl s, rfl, rfl, rfl⟩

/-- What is asked before makes no difference, and a failure of it is one failure. -/
theorem bind_reads {α : Type} {x : ReviewM α} {f : α → ReviewM Outcome}
    (hx : Keeps Reads x.run) (hf : ∀ a, WritesPath i p (f a)) : WritesPath i p (x >>= f) := by
  intro s
  obtain ⟨asked, hasked, hnone, hlinked⟩ := (hx s).adds
  cases hvalue : x.value s with
  | error e =>
    -- Asking failed, and so the path did, without any creation.
    rw [ReviewM.after_bind_of_error hvalue, ReviewM.value_bind_of_error hvalue]
    refine ⟨asked, none, hasked, hnone, rfl, ?_⟩
    rw [hlinked]
    rfl
  | ok a =>
    obtain ⟨calls, answer?, hrest, hcreations, hwritten, hfailures⟩ := hf a (x.after s)
    rw [ReviewM.after_bind_of_ok hvalue, ReviewM.value_bind_of_ok hvalue]
    refine ⟨asked ++ calls, answer?, hasked.trans hrest, ?_, hwritten, ?_⟩
    · rw [creations_append, hnone, hcreations, List.nil_append]
    · rw [hfailures, failedLinks_append, hlinked, Nat.zero_add]

end WritesPath

/-- The creation of a path's node and its links. -/
theorem createPath_writesPath (i : Investigation) (p : FlowPath) (source sink : NodeId) :
    WritesPath i p (do
      let some path ← createPath i p | pure { written := false, failures := 1 }
      let failures ← linkAll (pathLinks i source sink path)
      pure { written := true, failures }) := by
  intro s
  have h := Adds.createNode [pathLabel] (pathProperties i.id p) s
  rw [createPath, bind_assoc, ReviewM.after_lift_bind, ReviewM.value_lift_bind]
  generalize (Session.createNode [pathLabel] (pathProperties i.id p)).value s = answer at h ⊢
  generalize (Session.createNode [pathLabel] (pathProperties i.id p)).after s = s₁ at h ⊢
  -- The graph fails, assigns no identity or stores the node; only then links are made.
  rcases answer with error | (_ | entity)
  · exact ⟨_, some (.error error), h, rfl, rfl, rfl⟩
  · exact ⟨_, some (.ok none), h.log _, rfl, rfl, rfl⟩
  · obtain ⟨calls, hlinks, hnone, hfailed⟩ := linkAll_adds (pathLinks i source sink entity) s₁
    refine ⟨_, some (.ok (some entity)), h.trans hlinks, ?_, rfl, ?_⟩
    · rw [creations_append, hnone]
      rfl
    · rw [failedLinks_append, ← hfailed, ← Nat.add_assoc]
      exact (Nat.zero_add _).symm

/-- A path whose ends are not found is not created. -/
theorem tryPath_writesPath (i : Investigation) (p : FlowPath) : WritesPath i p (tryPath i p) := by
  refine .bind_reads (findEndpoint_reads i .source p.source) fun source? => ?_
  rcases source? with _ | source
  · exact .giveUp
  refine .bind_reads (findEndpoint_reads i .sink p.sink) fun sink? => ?_
  rcases sink? with _ | sink
  · exact .giveUp
  exact createPath_writesPath i p source sink

/-- A path is at most one creation. -/
theorem writePath_adds (i : Investigation) (p : FlowPath) (s : Session) :
    ∃ calls, ∃ answer? : Option CreationAnswer, Adds s calls ((writePath i p).after s) ∧
      creations calls = (answer?.map (pathCreation i p)).toList ∧
      ((writePath i p).value s).written = answer?.any isAssigned ∧
      ((writePath i p).value s).failures =
        (if answer?.any isAssigned then 0 else 1) + failedLinks calls := by
  obtain ⟨calls, answer?, hcalls, hcreations, hwritten, hfailures⟩ := tryPath_writesPath i p s
  rw [writePath, SessionM.after_bind, SessionM.value_bind, ReviewM.value_run, ReviewM.after_run]
  cases hvalue : (tryPath i p).value s with
  | ok outcome =>
    rw [hvalue] at hwritten hfailures
    exact ⟨calls, answer?, hcalls, hcreations, hwritten, hfailures⟩
  | error e =>
    rw [hvalue] at hwritten hfailures
    exact ⟨calls, answer?, hcalls.log _, hcreations, hwritten, hfailures⟩

/-- A path whose ends were not written leaves a trace in the log only. -/
theorem writePaths_skip {sources sinks : List NodeId} {p : FlowPath} (i : Investigation)
    (rest : List FlowPath) (s : Session) (h : ¬isEligible sources sinks p = true) :
    ∃ log,
      (writePaths i sources sinks (p :: rest)).value s =
        (writePaths i sources sinks rest).value { s with log } ∧
      (writePaths i sources sinks (p :: rest)).after s =
        (writePaths i sources sinks rest).after { s with log } := by
  rw [writePaths, if_neg h]
  exact ⟨_, rfl, rfl⟩

/-- A path that was attempted is counted when it was given an identity. -/
theorem countP_attempt (p : FlowPath) (answer? : Option CreationAnswer) :
    ((answer?.map (p, ·)).toList).countP (fun x => isAssigned x.2) =
      if answer?.any isAssigned then 1 else 0 := by
  rcases answer? with _ | answer
  · rfl
  · cases h : isAssigned answer <;> simp [h]

/-- Paths are at most one creation each, and those whose ends were not written are none.  The
    eligible paths that are not written and the failed links are the failures. -/
theorem writePaths_adds (i : Investigation) (sources sinks : List NodeId)
    (paths : List FlowPath) (s : Session) :
    ∃ calls, ∃ attempted : List (FlowPath × CreationAnswer),
      Adds s calls ((writePaths i sources sinks paths).after s) ∧
      (attempted.map (·.1)).Sublist (paths.filter (isEligible sources sinks)) ∧
      creations calls = attempted.map (fun x => pathCreation i x.1 x.2) ∧
      ((writePaths i sources sinks paths).value s).written =
        attempted.countP (fun x => isAssigned x.2) ∧
      ((writePaths i sources sinks paths).value s).failures +
          attempted.countP (fun x => isAssigned x.2) =
        (paths.filter (isEligible sources sinks)).length + failedLinks calls := by
  induction paths generalizing s with
  | nil => exact ⟨[], [], Adds.refl s, .slnil, rfl, rfl, rfl⟩
  | cons p rest ih =>
    by_cases heligible : isEligible sources sinks p = true
    · rw [writePaths, if_pos heligible, List.filter_cons_of_pos heligible]
      obtain ⟨calls, answer?, hfirst, hcreated, hwritten, hfailed⟩ := writePath_adds i p s
      obtain ⟨others, attempted, hrest, hsub, hcreations, hall, hfailures⟩ :=
        ih ((writePath i p).after s)
      refine ⟨calls ++ others, (answer?.map (p, ·)).toList ++ attempted, hfirst.trans hrest,
        ?_, ?_, ?_, ?_⟩
      · -- A path that was looked up in vain was not attempted.
        cases answer? with
        | none => exact hsub.cons p
        | some answer => exact hsub.cons_cons p
      · rw [creations_append, hcreated, hcreations, List.map_append]
        cases answer? <;> rfl
      · rw [List.countP_append, countP_attempt, ← hall, ← hwritten]
        rfl
      · rw [List.countP_append, countP_attempt, failedLinks_append, List.length_cons]
        simp only [SessionM.value_bind, SessionM.value_pure, hfailed]
        split <;> omega
    · obtain ⟨log, hvalue, hafter⟩ := writePaths_skip i rest s heligible
      obtain ⟨calls, attempted, hrest, hfacts⟩ := ih { s with log }
      rw [hvalue, hafter, List.filter_cons_of_neg heligible]
      exact ⟨calls, attempted, hrest.ofLog, hfacts⟩

/-! ### Labels -/

/-- The nodes that are stored for endpoints carry the label of their role, one for each endpoint
    that was given an identity. -/
theorem labels_endpoints (i : Investigation) (role : Role) (es : List Endpoint)
    (answers : List CreationAnswer) :
    ((List.zipWith (endpointCreation i role) es answers).filterMap (·.node?)).map (·.labels) =
      List.replicate (assignedNodes es answers).length [label role] := by
  induction es generalizing answers with
  | nil => rfl
  | cons e rest ih =>
    rcases answers with _ | ⟨answer, answers⟩
    · rfl
    · rw [List.zipWith_cons_cons, List.filterMap_cons, assignedNodes_cons]
      rcases answer with error | (_ | entity)
      · exact ih answers
      · exact ih answers
      · exact congrArg ([label role] :: ·) (ih answers)

/-- The nodes that are stored for paths carry the label of paths, one for each path that was
    given an identity. -/
theorem labels_paths (i : Investigation) (attempted : List (FlowPath × CreationAnswer)) :
    ((attempted.map fun x => pathCreation i x.1 x.2).filterMap (·.node?)).map (·.labels) =
      List.replicate (attempted.countP fun x => isAssigned x.2) [pathLabel] := by
  induction attempted with
  | nil => rfl
  | cons x rest ih =>
    obtain ⟨p, answer⟩ := x
    rw [List.map_cons, List.filterMap_cons, List.countP_cons]
    rcases answer with error | (_ | entity)
    · exact ih
    · exact ih
    · exact congrArg ([pathLabel] :: ·) ih

end Persistence

open Persistence

/-! ### The whole write-back -/

/-- A write-back counts what its three parts wrote and adds up what failed. -/
theorem value_persistAll (i : Investigation) (sources sinks : List Endpoint)
    (paths : List FlowPath) (failedBefore : Nat) (s : Session) :
    (persistAll i sources sinks paths failedBefore).value s =
      let writtenSources := (writeEndpoints i .source sources).value s
      let s₁ := (writeEndpoints i .source sources).after s
      let writtenSinks := (writeEndpoints i .sink sinks).value s₁
      let s₂ := (writeEndpoints i .sink sinks).after s₁
      let writtenPaths := (writePaths i writtenSources.written writtenSinks.written paths).value s₂
      { sources := writtenSources.written.length
        sinks := writtenSinks.written.length
        paths := writtenPaths.written
        failed := failedBefore + writtenSources.failures + writtenSinks.failures
          + writtenPaths.failures } :=
  rfl

/-- A write-back leaves what its three parts leave one after the other, and a line in the log. -/
theorem after_persistAll (i : Investigation) (sources sinks : List Endpoint)
    (paths : List FlowPath) (failedBefore : Nat) (s : Session) :
    ∃ log, (persistAll i sources sinks paths failedBefore).after s =
      let writtenSources := (writeEndpoints i .source sources).value s
      let s₁ := (writeEndpoints i .source sources).after s
      let writtenSinks := (writeEndpoints i .sink sinks).value s₁
      let s₂ := (writeEndpoints i .sink sinks).after s₁
      { (writePaths i writtenSources.written writtenSinks.written paths).after s₂ with log } :=
  ⟨_, rfl⟩

/-- **The calls of a write-back**: creations of all sources, then of all sinks, then of paths
    whose ends were both written.  The counts are those of the creations that were given an
    identity, and every other creation or eligible path and every failed link is a failure. -/
theorem persistAll_adds (i : Investigation) (sources sinks : List Endpoint)
    (paths : List FlowPath) (failedBefore : Nat) (s : Session) :
    ∃ calls sourceAnswers sinkAnswers, ∃ attempted : List (FlowPath × CreationAnswer),
      Adds s calls ((persistAll i sources sinks paths failedBefore).after s) ∧
      sourceAnswers.length = sources.length ∧ sinkAnswers.length = sinks.length ∧
      creations calls =
        List.zipWith (endpointCreation i .source) sources sourceAnswers ++
          List.zipWith (endpointCreation i .sink) sinks sinkAnswers ++
          attempted.map (fun x => pathCreation i x.1 x.2) ∧
      (attempted.map (·.1)).Sublist (paths.filter
        (isEligible (assignedNodes sources sourceAnswers) (assignedNodes sinks sinkAnswers))) ∧
      let counts := (persistAll i sources sinks paths failedBefore).value s
      counts.sources = (assignedNodes sources sourceAnswers).length ∧
      counts.sinks = (assignedNodes sinks sinkAnswers).length ∧
      counts.paths = attempted.countP (fun x => isAssigned x.2) ∧
      counts.failed + counts.sources + counts.sinks + counts.paths =
        failedBefore + sources.length + sinks.length +
          (paths.filter (isEligible (assignedNodes sources sourceAnswers)
            (assignedNodes sinks sinkAnswers))).length + failedLinks calls := by
  -- What the endpoints were given decides which paths are tried.
  obtain ⟨sourceCalls, sourceAnswers, hsources, hsourceLength, hsourceCreations, hsourceWritten,
    hsourceFailures⟩ := writeEndpoints_adds i .source sources s
  obtain ⟨sinkCalls, sinkAnswers, hsinks, hsinkLength, hsinkCreations, hsinkWritten,
    hsinkFailures⟩ := writeEndpoints_adds i .sink sinks ((writeEndpoints i .source sources).after s)
  obtain ⟨pathCalls, attempted, hpaths, hsub, hpathCreations, hpathWritten, hpathFailures⟩ :=
    writePaths_adds i (assignedNodes sources sourceAnswers) (assignedNodes sinks sinkAnswers) paths
      ((writeEndpoints i .sink sinks).after ((writeEndpoints i .source sources).after s))
  refine ⟨sourceCalls ++ sinkCalls ++ pathCalls, sourceAnswers, sinkAnswers, attempted, ?_,
    hsourceLength, hsinkLength, ?_, hsub, ?_⟩
  · obtain ⟨log, hafter⟩ := after_persistAll i sources sinks paths failedBefore s
    rw [hafter]
    simp only [hsourceWritten, hsinkWritten]
    exact ((hsources.trans hsinks).trans hpaths).log log
  · rw [creations_append, creations_append, hsourceCreations, hsinkCreations, hpathCreations]
  · simp only [value_persistAll, hsourceWritten, hsinkWritten, hpathWritten, failedLinks_append,
      true_and]
    omega

/-- Was an endpoint of this code node given an identity? -/
def gotIdentity (es : List Endpoint) (answers : List CreationAnswer) (id : NodeId) : Bool :=
  (es.zip answers).any fun x => x.1.nodeId == id && isAssigned x.2

/-- A code node is among those of written endpoints when one of its endpoints was given an
    identity. -/
theorem contains_assignedNodes (es : List Endpoint) (answers : List CreationAnswer)
    (id : NodeId) : (assignedNodes es answers).contains id = gotIdentity es answers id := by
  rw [Bool.eq_iff_iff, List.contains_iff_mem, assignedNodes, gotIdentity, List.any_eq_true]
  constructor
  · intro h
    obtain ⟨x, hx, rfl⟩ := List.mem_map.mp h
    obtain ⟨hzip, hassigned⟩ := List.mem_filter.mp hx
    exact ⟨x, hzip, by rw [beq_self_eq_true, hassigned]; rfl⟩
  · rintro ⟨x, hzip, h⟩
    obtain ⟨hid, hassigned⟩ := (Bool.and_eq_true _ _).mp h
    exact List.mem_map.mpr ⟨x, List.mem_filter.mpr ⟨hzip, hassigned⟩, beq_iff_eq.mp hid⟩

/-- The labels of what a write-back stored: sources, then sinks, then paths, as many as it
    counts. -/
theorem labels_persistAll (i : Investigation) (sources sinks : List Endpoint)
    (sourceAnswers sinkAnswers : List CreationAnswer)
    (attempted : List (FlowPath × CreationAnswer)) :
    ((List.zipWith (endpointCreation i .source) sources sourceAnswers ++
      List.zipWith (endpointCreation i .sink) sinks sinkAnswers ++
      attempted.map (fun x => pathCreation i x.1 x.2)).filterMap (·.node?)).map (·.labels) =
    List.replicate (assignedNodes sources sourceAnswers).length ["Source"] ++
      List.replicate (assignedNodes sinks sinkAnswers).length ["Sink"] ++
      List.replicate (attempted.countP fun x => isAssigned x.2) ["DataFlowPath"] := by
  rw [List.filterMap_append, List.filterMap_append, List.map_append, List.map_append,
    labels_endpoints, labels_endpoints, labels_paths]
  rfl

/-- How many nodes carry a label can be read off the lists of their labels. -/
theorem countP_hasLabel (nodes : List StoredNode) (name : String) :
    nodes.countP (·.hasLabel name) = (nodes.map (·.labels)).countP (·.contains name) := by
  rw [List.countP_map]
  rfl

/-- **Persistence accounting.**  Whatever the graph refuses to store, the counts of a write-back
    are those of the nodes that it appended.  It asks once for each source and each sink, and for
    no path but those whose two ends were given an identity by this very write-back.  Its failures
    are what it could not write and the links that could not be made; a fresh one has none before
    (`failedBefore = 0`). -/
theorem persistAll_accounts (i : Investigation) (sources sinks : List Endpoint)
    (paths : List FlowPath) (failedBefore : Nat) (s : Session) :
    let counts := (persistAll i sources sinks paths failedBefore).value s
    let s' := (persistAll i sources sinks paths failedBefore).after s
    ∃ calls nodes sourceAnswers sinkAnswers, ∃ attempted : List (FlowPath × CreationAnswer),
      let eligible := paths.filter fun p =>
        gotIdentity sources sourceAnswers p.source.nodeId &&
          gotIdentity sinks sinkAnswers p.sink.nodeId
      -- What this call asked of the services, and what it appended to the store.
      s'.calls = s.calls ++ calls ∧
      s'.graph.store.nodes = s.graph.store.nodes ++ nodes ∧
      s'.graph.attempts = s.graph.attempts ++ (creations calls).map (·.labels) ∧
      -- One creation for each source and each sink, and creations of eligible paths only.
      sourceAnswers.length = sources.length ∧ sinkAnswers.length = sinks.length ∧
      creations calls =
        List.zipWith (endpointCreation i .source) sources sourceAnswers ++
          List.zipWith (endpointCreation i .sink) sinks sinkAnswers ++
          attempted.map (fun x => pathCreation i x.1 x.2) ∧
      (attempted.map (·.1)).Sublist eligible ∧
      -- The counts are those of the nodes that were appended.
      counts.sources = nodes.countP (·.hasLabel "Source") ∧
      counts.sinks = nodes.countP (·.hasLabel "Sink") ∧
      counts.paths = nodes.countP (·.hasLabel "DataFlowPath") ∧
      -- What was not written and every link that failed is a failure, and nothing else is.
      counts.sources ≤ sources.length ∧ counts.sinks ≤ sinks.length ∧
      counts.paths ≤ eligible.length ∧
      counts.failed = failedBefore + (sources.length - counts.sources) +
        (sinks.length - counts.sinks) + (eligible.length - counts.paths) + failedLinks calls := by
  obtain ⟨calls, sourceAnswers, sinkAnswers, attempted, hadds, hsourceLength, hsinkLength,
    hcreations, hsub, hsources, hsinks, hpaths, hfailed⟩ :=
    persistAll_adds i sources sinks paths failedBefore s
  have heligible : (isEligible (assignedNodes sources sourceAnswers)
      (assignedNodes sinks sinkAnswers)) = fun p =>
        gotIdentity sources sourceAnswers p.source.nodeId &&
          gotIdentity sinks sinkAnswers p.sink.nodeId := by
    funext p
    rw [isEligible, contains_assignedNodes, contains_assignedNodes]
  rw [heligible] at hsub hfailed
  have hlabels := labels_persistAll i sources sinks sourceAnswers sinkAnswers attempted
  rw [← hcreations, ← hsources, ← hsinks, ← hpaths] at hlabels
  have hsourcesLe := length_assignedNodes_le sources sourceAnswers
  have hsinksLe := length_assignedNodes_le sinks sinkAnswers
  -- Each path that was written was attempted, and only eligible ones were.
  have hpathsLe : attempted.countP (fun x => isAssigned x.2) ≤ (paths.filter fun p =>
      gotIdentity sources sourceAnswers p.source.nodeId &&
        gotIdentity sinks sinkAnswers p.sink.nodeId).length :=
    calc attempted.countP (fun x => isAssigned x.2)
        ≤ (attempted.map (·.1)).length := by rw [List.length_map]; exact List.countP_le_length
      _ ≤ _ := hsub.length_le
  rw [← hsources] at hsourcesLe
  rw [← hsinks] at hsinksLe
  rw [← hpaths] at hpathsLe
  refine ⟨calls, (creations calls).filterMap (·.node?), sourceAnswers, sinkAnswers, attempted,
    hadds.recorded, hadds.nodes, hadds.attempts, hsourceLength, hsinkLength, hcreations, hsub,
    ?_, ?_, ?_, hsourcesLe, hsinksLe, hpathsLe, by omega⟩
  -- A label counts the block of its own kind and none of the others.
  · rw [countP_hasLabel, hlabels]
    simp [List.countP_replicate]
  · rw [countP_hasLabel, hlabels]
    simp [List.countP_replicate]
  · rw [countP_hasLabel, hlabels]
    simp [List.countP_replicate]

end TaintReview
