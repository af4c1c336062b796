import Mathlib.Data.List.ProdSigma
import TaintReview.Graph.Handlers
import TaintReview.Proofs.Defaults
import TaintReview.Proofs.Entities
import TaintReview.Proofs.FlowEnds
import TaintReview.Proofs.FunnelRows

namespace TaintReview.DocumentationAnalyzer

/-!
# Call paths are asked for pair by pair

For each source and each sink the graph is asked for a call path from one to the other.  The flow of
a pair is read off the answer to its own question, so a question that fails costs one flow at most.

* `pathCall` — the question about a pair, with its answer; `toldFlow` — the flow that the answer
  tells;
* `Follows pair ids path` — the path leads along the nodes of a call path, `toldFlow_isSome` and
  `toldFlow_follows` — when there is a flow, and that it is of this kind;
* `pairFlow_found` — asking about one pair, and **`pairFlows_found`** — asking about many;
* **`flows_cover_pairs`** — each pair is asked about once, and its flow depends on no other pair.
-/

variable {settings : DocumentationSettings} {source sink : Endpoint} {pair : Endpoint × Endpoint}
  {ids : List NodeId} {path : FlowPath} {answer : Except ServiceError (List Record)}
  {s t : Session}

/-! ### The question about a pair -/

/-- The question for a call path from the source to the sink of a pair. -/
def pathQuestion (settings : DocumentationSettings) (pair : Endpoint × Endpoint) : Parameters :=
  [("max_hops", .ofUInt32 settings.maxCallHops), ("sink_id", .ofInt64 pair.2.nodeId),
   ("source_id", .ofInt64 pair.1.nodeId)]

/-- What the graph answers to the question about a pair. -/
def pathAnswer (settings : DocumentationSettings) (g : Graph) (pair : Endpoint × Endpoint) :
    Except ServiceError (List Record) :=
  g.rows Statement.callPath (pathQuestion settings pair)

/-- The call by which the graph is asked about a pair. -/
def pathCall (settings : DocumentationSettings) (g : Graph) (pair : Endpoint × Endpoint) :
    ServiceCall :=
  .query Statement.callPath (pathQuestion settings pair) (pathAnswer settings g pair)

/-- The flow of a pair that an answer tells. -/
def toldFlow (settings : DocumentationSettings) (pair : Endpoint × Endpoint) :
    Except ServiceError (List Record) → Option FlowPath
  | .ok rows =>
    rows.head?.bind fun row => pathOf? settings pair.1 pair.2 (Record.ints row "path_ids")
  | .error _ => none

/-! ### The flow of a pair -/

/-- The path leads from the source to the sink of the pair, along the nodes of a call path. -/
structure Follows (pair : Endpoint × Endpoint) (ids : List NodeId) (path : FlowPath) : Prop where
  source : path.source = pair.1
  sink : path.sink = pair.2
  /-- The ends of the call path are no intermediate nodes. -/
  between : ∃ first last, ids = first :: (path.intermediateNodes ++ [last])
  hops : path.metadata.get? "call_hops" = some (.ofNat (ids.length - 1))

/-- There is one hop more than there are nodes between the ends. -/
theorem Follows.length (h : Follows pair ids path) :
    ids.length - 1 = path.intermediateNodes.length + 1 := by
  obtain ⟨first, last, hids⟩ := h.between
  rw [hids, List.length_cons, List.length_append, List.length_singleton, Nat.add_sub_cancel]

/-- A call path counts when it has a hop and not too many. -/
theorem pathOf?_isSome :
    (pathOf? settings source sink ids).isSome = true ↔
      2 ≤ ids.length ∧ ids.length ≤ settings.maxCallHops.toNat + 1 := by
  rw [pathOf?]
  split
  · next hout =>
    simp only [Bool.or_eq_true, decide_eq_true_eq] at hout
    refine iff_of_false Bool.false_ne_true ?_
    omega
  · next hin =>
    simp only [Bool.or_eq_true, decide_eq_true_eq] at hin
    refine iff_of_true rfl ?_
    omega

/-- The path that is made of a call path follows it. -/
theorem pathOf?_follows (h : pathOf? settings source sink ids = some path) :
    Follows (source, sink) ids path := by
  have hlength := (pathOf?_isSome.mp (Option.isSome_of_eq_some h)).1
  simp only [pathOf?] at h
  split at h
  · cases h
  · cases h
    refine ⟨rfl, rfl, ?_, rfl⟩
    -- With two nodes or more, the first is not the last.
    rcases ids with _ | ⟨first, _ | ⟨second, rest⟩⟩
    · cases hlength
    · exact absurd hlength (Nat.lt_irrefl 1)
    · have hne : second :: rest ≠ [] := List.cons_ne_nil second rest
      exact ⟨first, _, congrArg _ (List.dropLast_concat_getLast hne).symm⟩

/-- A pair has a flow exactly when its answer has a call path in the bounds. -/
theorem toldFlow_isSome :
    (toldFlow settings pair answer).isSome = true ↔
      ∃ row rest ids, answer = .ok (row :: rest) ∧ Record.HasInts row "path_ids" ids ∧
        2 ≤ ids.length ∧ ids.length ≤ settings.maxCallHops.toNat + 1 := by
  rcases answer with e | (_ | ⟨row, rest⟩)
  · exact iff_of_false Bool.false_ne_true (by simp)
  · exact iff_of_false Bool.false_ne_true (by simp)
  · rw [toldFlow, List.head?_cons, Option.bind_some, pathOf?_isSome]
    refine ⟨fun h => ⟨row, rest, _, rfl, Record.hasInts_iff.mpr rfl, h⟩, ?_⟩
    rintro ⟨row', rest', ids, heq, hids, h⟩
    cases heq
    rwa [Record.hasInts_iff.mp hids] at h

/-- The flow of a pair follows the call path in its answer. -/
theorem toldFlow_follows (h : toldFlow settings pair answer = some path) :
    ∃ row rest ids, answer = .ok (row :: rest) ∧ Record.HasInts row "path_ids" ids ∧
      Follows pair ids path := by
  rcases answer with e | (_ | ⟨row, rest⟩)
  · cases h
  · cases h
  · exact ⟨row, rest, _, rfl, Record.hasInts_iff.mpr rfl, pathOf?_follows h⟩

/-- Other answers about some pairs make no difference to the flows of the remaining pairs. -/
theorem filter_toldFlow {pairs : List (Endpoint × Endpoint)}
    {answers answers' : Endpoint × Endpoint → Except ServiceError (List Record)}
    {differs : Endpoint → Endpoint → Bool}
    (h : ∀ pair ∈ pairs, differs pair.1 pair.2 = false → answers' pair = answers pair) :
    (pairs.filterMap fun pair => toldFlow settings pair (answers' pair)).filter
        (fun p => !differs p.source p.sink) =
      (pairs.filterMap fun pair => toldFlow settings pair (answers pair)).filter
        (fun p => !differs p.source p.sink) := by
  rw [List.filter_filterMap, List.filter_filterMap]
  refine List.filterMap_congr fun pair hpair => ?_
  cases hdiffers : differs pair.1 pair.2 with
  | false => rw [h pair hpair hdiffers]
  | true =>
    -- A flow has the ends of its pair, so a flow of this pair is left out on both sides.
    have hnone : ∀ answer,
        (toldFlow settings pair answer).filter (fun p => !differs p.source p.sink) = none := by
      intro answer
      rw [Option.filter_eq_none_iff]
      intro path hpath
      obtain ⟨_, _, _, -, -, hfollows⟩ := toldFlow_follows hpath
      rw [hfollows.source, hfollows.sink, hdiffers]
      exact Bool.false_ne_true
    rw [hnone, hnone]

/-! ### Asking about pairs -/

/-- What is told about a pair is found, and nothing else is asked. -/
theorem pairFlow_found (settings : DocumentationSettings) (id : String)
    (pair : Endpoint × Endpoint) (hst : Alike s t) :
    (pairFlow settings id pair.1 pair.2).value t =
        toldFlow settings pair (pathAnswer settings s.graph pair) ∧
      ((pairFlow settings id pair.1 pair.2).after t).calls =
        t.calls ++ [pathCall settings s.graph pair] := by
  have hrows : t.graph.rows Statement.callPath (pathQuestion settings pair) =
      pathAnswer settings s.graph pair := hst.rows_eq _ _
  have hcalls :
      ((Session.runQuery Statement.callPath (pathQuestion settings pair)).after t).calls =
        t.calls ++ [pathCall settings s.graph pair] := by
    rw [(Adds.runQuery _ _ t).recorded, hrows, pathCall]
  rw [pairFlow, SessionM.value_bind, SessionM.after_bind]
  simp only [Session.value_runQuery]
  rw [← pathQuestion, hrows]
  cases pathAnswer settings s.graph pair with
  | ok rows => exact ⟨rfl, hcalls⟩
  | error e => exact ⟨rfl, hcalls⟩

/-- The pairs are asked about in turn, and what is told about one does not depend on the pairs
    before it. -/
theorem pairFlows_found (settings : DocumentationSettings) (id : String)
    (pairs : List (Endpoint × Endpoint)) (hst : Alike s t) :
    (pairFlows settings id pairs).value t =
        pairs.filterMap (fun pair => toldFlow settings pair (pathAnswer settings s.graph pair)) ∧
      ((pairFlows settings id pairs).after t).calls =
        t.calls ++ pairs.map (pathCall settings s.graph) := by
  induction pairs generalizing t with
  | nil => exact ⟨rfl, (List.append_nil _).symm⟩
  | cons pair rest ih =>
    obtain ⟨hvalue, hcalls⟩ := pairFlow_found settings id pair hst
    -- Asking about the pair has left the graph as it was for the others.
    obtain ⟨hvalues, hrest⟩ :=
      ih (hst.trans (.of_reads ((pairFlow_made settings id pair.1 pair.2).reads t)))
    rw [pairFlows, SessionM.value_bind, SessionM.value_bind, SessionM.value_pure,
      SessionM.after_bind, SessionM.after_bind, SessionM.after_pure, hvalues, hrest, hvalue, hcalls]
    refine ⟨?_, ?_⟩
    · rw [List.filterMap_cons]
      cases toldFlow settings pair (pathAnswer settings s.graph pair) <;> rfl
    · rw [List.append_assoc, List.singleton_append, List.map_cons]

/-- Without sources or without sinks there are no pairs. -/
theorem product_eq_nil {sources sinks : List Endpoint} (h : sources = [] ∨ sinks = []) :
    sources ×ˢ sinks = [] := by
  rcases h with rfl | rfl
  · exact List.nil_product sinks
  · exact List.product_nil sources

/-- The flows are what is told about all pairs, each of which is asked about once. -/
theorem flows_found (settings : DocumentationSettings) (sources sinks : List Endpoint)
    (id : String) (s : Session) :
    (flows settings sources sinks id).value s =
        .ok ((sources ×ˢ sinks).filterMap fun pair =>
          toldFlow settings pair (pathAnswer settings s.graph pair)) ∧
      ((flows settings sources sinks id).after s).calls =
        s.calls ++ (sources ×ˢ sinks).map (pathCall settings s.graph) := by
  rw [flows]
  split
  · next hempty =>
    -- Nothing is asked when there are no pairs.
    simp only [Bool.or_eq_true, List.isEmpty_iff] at hempty
    rw [product_eq_nil hempty]
    exact ⟨rfl, (List.append_nil _).symm⟩
  · obtain ⟨hvalue, hcalls⟩ := pairFlows_found settings id (sources ×ˢ sinks) (.refl s)
    exact ⟨congrArg Except.ok hvalue, hcalls⟩

/-- **Each pair is asked about once, and has the flow of its own call path.**  Whatever the graph
    answers, the step succeeds.  The pairs are asked about source by source, and nothing else is
    asked, in particular nothing without sources or without sinks.  The flows are those of the
    pairs whose answer has a call path with a hop and not too many, in the order of the pairs, and
    they follow these call paths.  Where the answers about some pairs are others, or fail, the
    flows of the remaining pairs stay the same. -/
theorem flows_cover_pairs (settings : DocumentationSettings) (sources sinks : List Endpoint)
    (id : String) (s : Session) :
    let answer := pathAnswer settings s.graph
    let flow := fun pair => toldFlow settings pair (answer pair)
    (flows settings sources sinks id).value s = .ok ((sources ×ˢ sinks).filterMap flow) ∧
    ((flows settings sources sinks id).after s).calls =
      s.calls ++ (sources ×ˢ sinks).map (fun pair =>
        .query Statement.callPath (pathQuestion settings pair) (answer pair)) ∧
    (sources = [] ∨ sinks = [] → ((flows settings sources sinks id).after s).calls = s.calls) ∧
    (∀ pair, (flow pair).isSome = true ↔
      ∃ row rest ids, answer pair = .ok (row :: rest) ∧ Record.HasInts row "path_ids" ids ∧
        2 ≤ ids.length ∧ ids.length ≤ settings.maxCallHops.toNat + 1) ∧
    (∀ pair path, flow pair = some path →
      ∃ row rest ids, answer pair = .ok (row :: rest) ∧ Record.HasInts row "path_ids" ids ∧
        Follows pair ids path ∧ ids.length - 1 = path.intermediateNodes.length + 1) ∧
    ∀ (t : Session) (differs : Endpoint → Endpoint → Bool),
      (∀ pair ∈ sources ×ˢ sinks, differs pair.1 pair.2 = false →
        pathAnswer settings t.graph pair = answer pair) →
      ∃ paths, (flows settings sources sinks id).value t = .ok paths ∧
        paths.filter (fun p => !differs p.source p.sink) =
          ((sources ×ˢ sinks).filterMap flow).filter (fun p => !differs p.source p.sink) := by
  intro answer flow
  obtain ⟨hvalue, hcalls⟩ := flows_found settings sources sinks id s
  refine ⟨hvalue, hcalls, fun hempty => ?_, fun pair => toldFlow_isSome, fun pair path h => ?_,
    fun t differs hsame => ⟨_, (flows_found settings sources sinks id t).1, filter_toldFlow hsame⟩⟩
  · -- Without pairs the calls stay as they were.
    rw [hcalls, product_eq_nil hempty]
    exact List.append_nil _
  · obtain ⟨row, rest, ids, hanswer, hids, hfollows⟩ := toldFlow_follows h
    exact ⟨row, rest, ids, hanswer, hids, hfollows, hfollows.length⟩

/-- Answers with a call path to each sink.  The one to the third node has too many hops, and the
    question about a node that is out of reach fails. -/
def linkedBut (lost : Int) : Handler := fun parameters _ =>
  match Handler.parameter parameters "sink_id" with
  | .number (.int node _) =>
    let ids : List NodeId := if node = 3 then [1, 5, 6, 7, 3] else [1, 9, .ofInt node]
    { rows := if node = lost then .error (.query "down") else
        .ok [[("path_ids", .ofList .ofInt64 ids)]] }
  | _ => { rows := .ok [] }

/-- A session with these answers. -/
def linkedSession (lost : Int) : Session where
  graph := { handlers := [(Statement.callPath, linkedBut lost)] }

/-- The session answers a question as its handler does. -/
theorem pathAnswer_linkedSession (lost : Int) (pair : Endpoint × Endpoint) :
    pathAnswer settings (linkedSession lost).graph pair =
      (linkedBut lost (pathQuestion settings pair) {}).rows :=
  Persistence.rows_of_lookup rfl List.lookup_cons_self _

/-- The sink in the middle is too far away.  When the question about the last sink fails, the flow
    to the first one is found all the same. -/
theorem flows_cover_pairs_linkedSession :
    let load : Endpoint := { nodeId := 1, name := "load", category := .userInput }
    let save : Endpoint := { nodeId := 2, name := "save", category := .fileWrite }
    let send : Endpoint := { nodeId := 3, name := "send", category := .networkSend }
    let log : Endpoint := { nodeId := 4, name := "log", category := .logging }
    let flowsOf := fun lost => (flows {} [load] [save, send, log] "i").value (linkedSession lost)
    ∃ paths paths', flowsOf 0 = .ok paths ∧ flowsOf 4 = .ok paths' ∧
      paths.map (fun p => (p.sink.nodeId, p.intermediateNodes)) = [(2, [9]), (4, [9])] ∧
      paths'.filter (fun p => p.sink.nodeId != 4) = paths.filter (fun p => p.sink.nodeId != 4) := by
  intro load save send log flowsOf
  obtain ⟨hvalue, -, -, -, -, hremaining⟩ :=
    flows_cover_pairs {} [load] [save, send, log] "i" (linkedSession 0)
  have hothers : ∀ pair ∈ [(load, save), (load, send), (load, log)],
      (pair.2.nodeId == 4) = false → pathAnswer {} (linkedSession 4).graph pair =
        pathAnswer {} (linkedSession 0).graph pair := by
    intro pair hpair hother
    rw [pathAnswer_linkedSession, pathAnswer_linkedSession]
    simp only [List.mem_cons, List.not_mem_nil, or_false] at hpair
    rcases hpair with rfl | rfl | rfl
    · rfl
    · rfl
    · cases hother
  obtain ⟨paths', hvalue', hsame⟩ :=
    hremaining (linkedSession 4) (fun _ sink => sink.nodeId == 4) hothers
  refine ⟨_, paths', hvalue, hvalue', ?_, hsame⟩
  simp only [pathAnswer_linkedSession]
  decide +kernel

end TaintReview.DocumentationAnalyzer
