import TaintReview.Graph.Handlers
import TaintReview.Proofs.Defaults

namespace TaintReview

/-!
# Candidates are judged independently

Candidates are judged one after the other in one session, and for each of them the analyzers are
asked in order until one confirms it.  All of this only asks, so that nothing passes from one
candidate to the next: what becomes of a candidate can be read off the verdicts that the analyzers
give on it in the session from which the judging started.

* `callsOf` — the calls that a step makes, which are the same in sessions that answer alike;
* `Review.verdict?`, `Review.fails` — what an analyzer says about a candidate;
* `Review.consulted` — the analyzers that are asked: up to the first that confirms;
* `Review.confirm_eq`, `Review.confirmAll_eq` — judgements and calls read off the verdicts;
* `Review.confirmAll_independent` — first confirmation wins, and candidates are independent.
-/

/-! ### The calls of a step -/

/-- The calls that a step makes. -/
def callsOf {α : Type} (x : SessionM α) (s : Session) : List ServiceCall :=
  (x.after s).calls.drop s.calls.length

/-- A faithful step makes the same calls in sessions that answer alike. -/
theorem Faithful.calls_eq {α : Type} {x : SessionM α} (h : Faithful x) {s t : Session}
    (hst : Alike s t) : (x.after t).calls = t.calls ++ callsOf x s := by
  obtain ⟨calls, hs, ht⟩ := (h s t hst).calls
  rw [ht, callsOf, hs, List.drop_left]

namespace Review

/-- The analyzers judge candidates through the services, and only ask. -/
def JudgesByAsking (as : List Analyzer) : Prop :=
  ∀ a ∈ as, ∀ role c, Faithful (a.judge role c).run ∧ Keeps Reads (a.judge role c).run

/-- The two analyzers of the library do. -/
theorem judgesByAsking_of_known {as : List Analyzer}
    (h : ∀ a ∈ as,
      (∃ settings, a = .completion settings) ∨ ∃ settings, a = .documentation settings) :
    JudgesByAsking as := by
  intro a ha role c
  rcases h a ha with ⟨settings, rfl⟩ | ⟨settings, rfl⟩
  · exact ⟨(CompletionAnalyzer.judge_made settings role c).faithful,
      (CompletionAnalyzer.judge_made settings role c).reads⟩
  · exact ⟨(DocumentationAnalyzer.judge_made role c).faithful,
      (DocumentationAnalyzer.judge_made role c).reads⟩

/-! ### Verdicts -/

section Verdicts

variable (role : Role) (c : Candidate) (s : Session)

/-- The endpoint by which an analyzer confirms the candidate, when asked in the session. -/
def verdict? (a : Analyzer) : Option Endpoint :=
  match (a.judge role c).value s with
  | .ok endpoint? => endpoint?
  | .error _ => none

/-- Does the analyzer fail on the candidate, when asked in the session? -/
def fails (a : Analyzer) : Bool := !((a.judge role c).value s).isOk

/-- The analyzers before the first one that confirms the candidate; all of them when none does. -/
def undecided (as : List Analyzer) : List Analyzer :=
  as.takeWhile fun a => (verdict? role c s a).isNone

/-- The analyzers that are asked about the candidate: those that do not confirm it, and the first
    that does. -/
def consulted (as : List Analyzer) : List Analyzer :=
  undecided role c s as ++ (as.find? fun a => (verdict? role c s a).isSome).toList

/-- The judgement that the verdicts lead to. -/
def judgement (as : List Analyzer) : Judgement where
  endpoint := as.findSome? (verdict? role c s)
  failures := (undecided role c s as).countP (fails role c s)

/-- The calls that judging the candidate takes. -/
def judgingCalls (as : List Analyzer) : List ServiceCall :=
  (consulted role c s as).flatMap fun a => callsOf (a.judge role c).run s

end Verdicts

variable {role : Role} {c : Candidate} {s t : Session} {as : List Analyzer} {r : Review}

/-- An analyzer that does not confirm leaves the candidate to the others. -/
theorem judging_of_none {a : Analyzer} (h : verdict? role c s a = none) (rest : List Analyzer) :
    judgement role c s (a :: rest) =
        { judgement role c s rest with
          failures := (judgement role c s rest).failures + if fails role c s a then 1 else 0 } ∧
      judgingCalls role c s (a :: rest) =
        callsOf (a.judge role c).run s ++ judgingCalls role c s rest := by
  simp [judgement, judgingCalls, consulted, undecided, h, List.countP_cons]

/-- After an analyzer that confirms nobody is asked. -/
theorem judging_of_some {a : Analyzer} {endpoint : Endpoint}
    (h : verdict? role c s a = some endpoint) (rest : List Analyzer) :
    judgement role c s (a :: rest) = { endpoint := some endpoint } ∧
      judgingCalls role c s (a :: rest) = callsOf (a.judge role c).run s := by
  simp [judgement, judgingCalls, consulted, undecided, h]

/-- **The first confirmation wins.**  The judgement of a candidate is that of the analyzers'
    verdicts in any session that answers alike, and nobody is asked after the first that
    confirms. -/
theorem confirm_eq (h : JudgesByAsking as) (role : Role) (c : Candidate) (hst : Alike s t) :
    (confirm role c as).value t = judgement role c s as ∧
      ((confirm role c as).after t).calls = t.calls ++ judgingCalls role c s as := by
  induction as generalizing t with
  | nil => exact ⟨rfl, (List.append_nil _).symm⟩
  | cons a rest ih =>
    obtain ⟨ha, hrest⟩ := List.forall_mem_cons.mp h
    obtain ⟨hfaithful, hreads⟩ := ha role c
    have hvalue : (a.judge role c).value t = (a.judge role c).value s := (hfaithful s t hst).value
    have hcalls : ((a.judge role c).after t).calls = t.calls ++ callsOf (a.judge role c).run s :=
      hfaithful.calls_eq hst
    -- Asking leaves a session that answers alike, so that the next analyzer can be judged from `s`.
    have hnext : Alike s ((a.judge role c).after t) := hst.trans (.of_reads (hreads t))
    rw [confirm, SessionM.value_bind, SessionM.after_bind, ReviewM.value_run, ReviewM.after_run,
      hvalue]
    rcases hverdict : (a.judge role c).value s with e | (_ | endpoint)
    · -- A failure is logged and counted, and the next analyzer is asked.
      have hnone : verdict? role c s a = none := by rw [verdict?, hverdict]
      have hfails : fails role c s a = true := by rw [fails, hverdict]; rfl
      obtain ⟨hjudgement, hmade⟩ := judging_of_none hnone rest
      obtain ⟨hothers, hothersCalls⟩ := ih hrest (hnext.trans (.of_reads (Reads.log _ _)))
      simp only [hfails, if_true] at hjudgement
      rw [hjudgement, hmade]
      refine ⟨congrArg (fun j : Judgement => { j with failures := j.failures + 1 }) hothers, ?_⟩
      rw [← List.append_assoc, ← hcalls]
      exact hothersCalls
    · have hnone : verdict? role c s a = none := by rw [verdict?, hverdict]
      have hfails : fails role c s a = false := by rw [fails, hverdict]; rfl
      obtain ⟨hjudgement, hmade⟩ := judging_of_none hnone rest
      obtain ⟨hothers, hothersCalls⟩ := ih hrest hnext
      rw [hfails] at hjudgement
      rw [hjudgement, hmade]
      refine ⟨hothers, ?_⟩
      rw [← List.append_assoc, ← hcalls]
      exact hothersCalls
    · -- A confirmation ends the search.
      have hsome : verdict? role c s a = some endpoint := by rw [verdict?, hverdict]
      obtain ⟨hjudgement, hmade⟩ := judging_of_some hsome rest
      rw [hjudgement, hmade]
      exact ⟨rfl, hcalls⟩

/-- **Candidates are judged as each one would be alone**, in the session from which the judging
    started or in any other that answers alike. -/
theorem confirmAll_eq (h : JudgesByAsking r.analyzers) (cs : List Candidate) (hst : Alike s t) :
    (r.confirmAll role cs).value t = cs.map (judgement role · s r.analyzers) ∧
      ((r.confirmAll role cs).after t).calls =
        t.calls ++ cs.flatMap (judgingCalls role · s r.analyzers) := by
  induction cs generalizing t with
  | nil => exact ⟨rfl, (List.append_nil _).symm⟩
  | cons c rest ih =>
    obtain ⟨hjudgement, hcalls⟩ := confirm_eq h role c hst
    have hreads := confirm_reads role c r.analyzers (fun a ha role c => (h a ha role c).2) t
    obtain ⟨hothers, hothersCalls⟩ := ih (hst.trans (.of_reads hreads))
    constructor
    · rw [confirmAll, SessionM.value_bind, SessionM.value_bind, SessionM.value_pure, hjudgement,
        hothers, List.map_cons]
    · rw [confirmAll, SessionM.after_bind, SessionM.after_bind, SessionM.after_pure, hothersCalls,
        hcalls, List.append_assoc, List.flatMap_cons]

/-! ### Orders of candidates -/

theorem failures_cons (j : Judgement) (js : List Judgement) :
    failures (j :: js) = j.failures + failures js := rfl

/-- Endpoints and failures of judgements that were made in another order. -/
theorem endpoints_failures_of_perm {js js' : List Judgement} (h : js.Perm js') :
    (endpoints js).Perm (endpoints js') ∧ failures js = failures js' := by
  refine ⟨h.filterMap _, ?_⟩
  induction h with
  | nil => rfl
  | cons j _ ih => rw [failures_cons, failures_cons, ih]
  | swap j k rest =>
    simp only [failures_cons]
    omega
  | trans _ _ ih ih' => exact ih.trans ih'

/-- **First confirmation wins, and candidates are independent.**  With any number of the library's
    analyzers in any order, the judgements stand in the order of the candidates, and each one is
    what confirming its candidate alone gives in the session from which the judging started.  It
    names the endpoint of the first analyzer that confirms and counts those before it that fail;
    analyzers after it make no call.  Another order of the candidates reorders the endpoints and
    leaves the number of failures alone. -/
theorem confirmAll_independent (r : Review)
    (hr : ∀ a ∈ r.analyzers,
      (∃ settings, a = .completion settings) ∨ ∃ settings, a = .documentation settings)
    (role : Role) (cs : List Candidate) (s : Session) :
    (r.confirmAll role cs).value s = cs.map (fun c => (confirm role c r.analyzers).value s) ∧
    ((r.confirmAll role cs).after s).calls =
      s.calls ++ cs.flatMap (fun c => callsOf (confirm role c r.analyzers) s) ∧
    (∀ c, (confirm role c r.analyzers).value s =
        { endpoint := r.analyzers.findSome? (verdict? role c s)
          failures := (undecided role c s r.analyzers).countP (fails role c s) } ∧
      callsOf (confirm role c r.analyzers) s =
        (consulted role c s r.analyzers).flatMap fun a => callsOf (a.judge role c).run s) ∧
    ∀ cs', cs.Perm cs' →
      (endpoints ((r.confirmAll role cs).value s)).Perm
        (endpoints ((r.confirmAll role cs').value s)) ∧
      failures ((r.confirmAll role cs).value s) = failures ((r.confirmAll role cs').value s) := by
  have hasks := judgesByAsking_of_known hr
  have hone : ∀ c, (confirm role c r.analyzers).value s = judgement role c s r.analyzers ∧
      callsOf (confirm role c r.analyzers) s = judgingCalls role c s r.analyzers := by
    intro c
    obtain ⟨hvalue, hcalls⟩ := confirm_eq hasks role c (.refl s)
    refine ⟨hvalue, ?_⟩
    rw [callsOf, hcalls, List.drop_left]
  have hall : ∀ cs, (r.confirmAll role cs).value s = cs.map (judgement role · s r.analyzers) :=
    fun cs => (confirmAll_eq hasks cs (.refl s)).1
  refine ⟨?_, ?_, fun c => hone c, fun cs' hperm => ?_⟩
  · rw [hall cs]
    exact List.map_congr_left fun c _ => (hone c).1.symm
  · rw [(confirmAll_eq hasks cs (.refl s)).2]
    simp only [(hone _).2]
  · rw [hall cs, hall cs']
    exact endpoints_failures_of_perm (hperm.map _)

/-- A graph that knows the code of one node, and a completion service that is down. -/
def serviceDown : Session where
  graph :=
    { store :=
        { nodes :=
            [{ id := 1, labels := ["Function"]
               properties :=
                 [("code", .string "def load(): ..."), ("docstring", .string "sql")] }] }
      nextId := 2
      handlers := [(Statement.nodeCode, .code)] }
  completion := { rules := [("", .failure "down")] }

/-- A review that asks for completions before and after it reads documentation. -/
def threefold : Review where
  settings := {}
  analyzers := [.completion {}, .documentation {}, .completion {}]

/-- One candidate that is confirmed after a failure and one without code, in both orders. -/
theorem confirmAll_independent_threefold :
    (∀ a ∈ threefold.analyzers,
      (∃ settings, a = .completion settings) ∨ ∃ settings, a = .documentation settings) ∧
    let load : Candidate := { nodeId := 1, name := "load" }
    let save : Candidate := { nodeId := 2, name := "save" }
    let judged := (threefold.confirmAll .source [load, save]).value serviceDown
    let swapped := (threefold.confirmAll .source [save, load]).value serviceDown
    ((endpoints judged).map (·.nodeId), failures judged) = ([1], 1) ∧
      (endpoints judged).Perm (endpoints swapped) ∧ failures swapped = 1 := by
  have hknown : ∀ a ∈ threefold.analyzers,
      (∃ settings, a = .completion settings) ∨ ∃ settings, a = .documentation settings := by
    intro a ha
    simp only [threefold, List.mem_cons, List.not_mem_nil, or_false] at ha
    rcases ha with rfl | rfl | rfl
    · exact .inl ⟨_, rfl⟩
    · exact .inr ⟨_, rfl⟩
    · exact .inl ⟨_, rfl⟩
  refine ⟨hknown, ?_⟩
  intro load save judged swapped
  have hjudged : ((endpoints judged).map (·.nodeId), failures judged) = ([1], 1) := by
    decide +kernel
  obtain ⟨hperm, hsame⟩ := (confirmAll_independent threefold hknown .source [load, save]
    serviceDown).2.2.2 [save, load] (.swap save load [])
  exact ⟨hjudged, hperm, hsame.symm.trans (Prod.mk.inj hjudged).2⟩

end Review

end TaintReview
