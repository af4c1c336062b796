import Mathlib.Data.List.TakeDrop
import TaintReview.Proofs.Members
import TaintReview.Proofs.Stages

namespace TaintReview

/-!
# Walking through the stages

A tracker is asked to enter stages, and it may be asked for anything: the next stage, one further
on, one that it has left.  Whatever the requests are, those that are granted go through the stages
in their order.

* `Stage.next?_eq_some_iff` — the stage after another is the one at the next place;
* `Tracker.serve`, `Tracker.serveAll`, `Tracker.granted` — the tracker after requests and the
  requests that it granted;
* `Tracker.Walked t granted` — the tracker has gone through the stages by these requests and no
  others.  A granted request keeps this (`Walked.serve`), hence every sequence of requests does
  (`walked_serveAll`);
* `Review.timings_of_run` — a run that gives findings has gone through all stages and reports how
  long it stayed in each;
* **`Tracker.requests_walk_stages`** — what all requests come to, and what every run reports.
-/

/-! ### Places of stages -/

namespace Stage

/-- Every stage stands at its place. -/
theorem getElem?_all (s : Stage) : all[s.index]? = some s := by
  cases s <;> rfl

/-- A stage stands at its place only. -/
theorem getElem?_all_eq_some_iff {s : Stage} {k : Nat} : all[k]? = some s ↔ k = s.index := by
  constructor
  · intro h
    have hnodup : all.Nodup := by decide
    obtain ⟨hk, -⟩ := List.getElem?_eq_some_iff.mp h
    exact (List.getElem?_inj hk hnodup).mp (h.trans (getElem?_all s).symm)
  · rintro rfl
    exact getElem?_all s

/-- The stage that follows is the one at the next place. -/
theorem next?_eq_some_iff {a b : Stage} : a.next? = some b ↔ b.index = a.index + 1 := by
  constructor
  · exact index_of_next?
  · intro h
    cases a <;> cases b <;> first | rfl | (simp [index] at h)

theorem index_le (s : Stage) : s.index ≤ 6 := by
  cases s <;> decide

theorem eq_done_iff {s : Stage} : s = .done ↔ s.index = 6 := by
  cases s <;> decide

end Stage

/-! ### Requests -/

namespace Tracker

/-- A request to enter a stage, with the time spent in the current one. -/
structure Request where
  target : Stage
  elapsed : UInt64

/-- The answer to a request. -/
def answer (t : Tracker) (q : Request) : Except ReviewError Unit :=
  (t.advance q.target q.elapsed).1

/-- The tracker after a request. -/
def serve (t : Tracker) (q : Request) : Tracker := (t.advance q.target q.elapsed).2

/-- The tracker after requests. -/
def serveAll (t : Tracker) (qs : List Request) : Tracker := qs.foldl serve t

/-- The requests that are granted. -/
def granted (t : Tracker) : List Request → List Request
  | [] => []
  | q :: qs =>
    match t.answer q with
    | .ok _ => q :: (t.serve q).granted qs
    | .error _ => (t.serve q).granted qs

variable {t : Tracker} {q : Request} {gs qs : List Request}

/-- **What a request does.**  The next stage is entered and the current one is timed; any other
    stage is refused and leaves the tracker as it is. -/
theorem request_cases (t : Tracker) (q : Request) :
    (q.target.index = t.current.index + 1 ∧ t.answer q = .ok () ∧
      t.serve q = { current := q.target, timings := t.timings ++ [(t.current, q.elapsed)] }) ∨
    (q.target.index ≠ t.current.index + 1 ∧
      t.answer q = .error (.invalidTransition t.current.tag q.target.tag) ∧ t.serve q = t) := by
  unfold answer serve
  by_cases h : t.current.next? = some q.target
  · rw [advance_of_next h]
    exact .inl ⟨Stage.next?_eq_some_iff.mp h, rfl, rfl⟩
  · rw [advance_of_not_next h]
    exact .inr ⟨mt Stage.next?_eq_some_iff.mpr h, rfl, rfl⟩

/-- The tracker after requests, the last of them apart. -/
theorem serveAll_concat (t : Tracker) (qs : List Request) (q : Request) :
    t.serveAll (qs ++ [q]) = (t.serveAll qs).serve q :=
  List.foldl_concat ..

/-- Later requests are granted by the tracker that the earlier ones leave. -/
theorem granted_append (t : Tracker) (qs qs' : List Request) :
    t.granted (qs ++ qs') = t.granted qs ++ (t.serveAll qs).granted qs' := by
  induction qs generalizing t with
  | nil => rfl
  | cons q qs ih =>
    show granted t (q :: (qs ++ qs')) = _ ++ ((t.serve q).serveAll qs).granted qs'
    rw [granted, granted]
    cases t.answer q with
    | ok _ => exact congrArg (q :: ·) (ih (t.serve q))
    | error _ => exact ih (t.serve q)

/-- A refused request changes nothing. -/
theorem serveAll_concat_of_refused {e : ReviewError} (h : (t.serveAll qs).answer q = .error e) :
    t.serveAll (qs ++ [q]) = t.serveAll qs ∧ t.granted (qs ++ [q]) = t.granted qs := by
  constructor
  · rw [serveAll_concat]
    rcases request_cases (t.serveAll qs) q with ⟨-, hok, -⟩ | ⟨-, -, hsame⟩
    · cases hok.symm.trans h
    · exact hsame
  · rw [granted_append, granted, h]
    exact List.append_nil _

/-! ### Going through the stages -/

/-- The tracker has gone through the stages by the requests, from the first stage on. -/
structure Walked (t : Tracker) (gs : List Request) : Prop where
  current : t.current.index = gs.length
  targets : gs.map Request.target = Stage.all.tail.take gs.length
  timed : t.timings.map Prod.fst = Stage.all.take gs.length
  times : t.timings.map Prod.snd = gs.map Request.elapsed

theorem walked_fresh : Walked {} [] := ⟨rfl, rfl, rfl, rfl⟩

/-- A granted request is one step further. -/
theorem Walked.serve (h : Walked t gs) (hq : t.answer q = .ok ()) :
    Walked (t.serve q) (gs ++ [q]) := by
  rcases request_cases t q with ⟨hindex, -, hnext⟩ | ⟨-, herror, -⟩
  · rw [hnext]
    -- The stage that is left is timed, and the one that is entered stands right behind it.
    have hcurrent : Stage.all[gs.length]? = some t.current := by
      rw [Stage.getElem?_all_eq_some_iff, h.current]
    have htarget : Stage.all.tail[gs.length]? = some q.target := by
      rw [List.getElem?_tail, Stage.getElem?_all_eq_some_iff, hindex, h.current]
    refine ⟨?_, ?_, ?_, ?_⟩
    · simp only [hindex, h.current, List.length_append, List.length_singleton]
    · simp only [List.map_append, h.targets, List.length_append, List.length_singleton,
        List.take_add_one, htarget, List.map_singleton, Option.toList_some]
    · simp only [List.map_append, h.timed, List.length_append, List.length_singleton,
        List.take_add_one, hcurrent, List.map_singleton, Option.toList_some]
    · simp only [List.map_append, h.times, List.map_singleton]
  · rw [herror] at hq
    cases hq

/-- Requests of any kind only ever walk on. -/
theorem Walked.serveAll (h : Walked t gs) (qs : List Request) :
    Walked (t.serveAll qs) (gs ++ t.granted qs) := by
  induction qs generalizing t gs with
  | nil =>
    rw [granted, List.append_nil]
    exact h
  | cons q qs ih =>
    show Walked ((t.serve q).serveAll qs) _
    rw [granted]
    -- A refused request leaves tracker and walk alone, so that the induction goes on from the same
    -- state.
    rcases request_cases t q with ⟨-, hok, -⟩ | ⟨-, herror, hsame⟩
    · rw [hok]
      have hnext := ih (h.serve hok)
      rwa [List.append_assoc] at hnext
    · rw [herror, hsame]
      exact ih h

/-- A fresh tracker has gone through the stages by the requests that it granted. -/
theorem walked_serveAll (qs : List Request) :
    Walked (serveAll {} qs) (granted {} qs) :=
  walked_fresh.serveAll qs

theorem isDone_iff (t : Tracker) : t.isDone = true ↔ t.current.index = 6 := by
  rw [isDone, beq_iff_eq, Stage.eq_done_iff]

/-- Times are numbers, so there is nothing in them to bring into order. -/
theorem fields_timingFields (t : Tracker) :
    t.timingFields.fields =
      Fields.ofList (t.timings.map fun entry => (entry.1.tag, .ofUInt64 entry.2)) := by
  have hordered : Json.MembersOrdered
      (t.timings.map fun entry => (entry.1.tag, Json.ofUInt64 entry.2)) := by
    refine Json.membersOrdered_iff.mpr fun m hm => ?_
    obtain ⟨entry, -, rfl⟩ := List.mem_map.mp hm
    trivial
  exact congrArg Fields.ofList (Json.tidyMembers_of_ordered hordered)

end Tracker

/-! ### The times of a run -/

namespace Review

open Tracker

variable {r : Review} {stamp : Stamp} {id : String} {heeds : Bool} {s : Session} {t : Tracker}
  {stage : Stage} {stages : List Stage} {p q : Progress}

/-- The tracker is one that requests lead to, and each stage was timed as the run was. -/
structure Timed (stamp : Stamp) (t : Tracker) : Prop where
  served : ∃ qs, t = serveAll {} qs
  times : ∀ entry ∈ t.timings, entry.2 = stamp.elapsed entry.1

theorem timed_fresh (stamp : Stamp) : Timed stamp {} := ⟨⟨[], rfl⟩, List.forall_mem_nil _⟩

/-- A request that is made when the run makes it keeps the tracker timed as the run is. -/
theorem Timed.serve (h : Timed stamp t) (stage : Stage) :
    Timed stamp (t.serve ⟨stage, stamp.elapsed t.current⟩) := by
  obtain ⟨⟨qs, hqs⟩, htimes⟩ := h
  constructor
  · refine ⟨qs ++ [⟨stage, stamp.elapsed t.current⟩], ?_⟩
    rw [serveAll_concat, ← hqs]
  · rcases request_cases t ⟨stage, stamp.elapsed t.current⟩ with ⟨-, -, hnext⟩ | ⟨-, -, hsame⟩
    · rw [hnext]
      intro entry hentry
      rcases List.mem_append.mp hentry with hold | hnew
      · exact htimes entry hold
      · rw [List.mem_singleton.mp hnew]
    · rwa [hsame]

/-- A visit keeps the tracker timed as the run is. -/
theorem Timed.visit (h : Timed stamp p.tracker)
    (hvisit : (r.visit heeds stamp id p stage).value s = .ok q) : Timed stamp q.tracker := by
  obtain ⟨t, ht, hwork⟩ := ReviewM.bind_eq_ok.mp hvisit
  obtain ⟨hnext, rfl⟩ := enter_eq_ok ht
  have hserved := h.serve stage
  rw [Tracker.serve, advance_of_next hnext] at hserved
  rw [tracker_of_work hwork]
  exact hserved

/-- Hence a walk does. -/
theorem Timed.walk (h : Timed stamp p.tracker)
    (hwalk : (r.walk heeds stamp id stages p).value s = .ok q) : Timed stamp q.tracker := by
  induction stages generalizing p s with
  | nil =>
    rw [← Except.ok.inj hwalk]
    exact h
  | cons stage rest ih =>
    obtain ⟨p', hvisit, hrest⟩ := ReviewM.bind_eq_ok.mp hwalk
    exact ih (h.visit hvisit) hrest

/-- Who is done has timed each of the six stages before. -/
theorem Timed.timings_eq (h : Timed stamp t) (hdone : t.isDone = true) :
    t.timings = (Stage.all.take 6).map fun stage => (stage, stamp.elapsed stage) := by
  obtain ⟨⟨qs, rfl⟩, htimes⟩ := h
  have hwalked := walked_serveAll qs
  -- Being done means six granted requests, which fixes the stages; the run fixes their times.
  have hsix : (granted {} qs).length = 6 := by
    rw [← hwalked.current, ← isDone_iff]
    exact hdone
  have htimed := hwalked.timed
  rw [hsix] at htimed
  calc (serveAll {} qs).timings
      = (serveAll {} qs).timings.map fun entry => (entry.1, stamp.elapsed entry.1) := by
        conv_lhs => rw [← List.map_id (serveAll {} qs).timings]
        apply List.map_congr_left
        intro entry hentry
        rw [← htimes entry hentry]
        rfl
    _ = ((serveAll {} qs).timings.map Prod.fst).map fun stage => (stage, stamp.elapsed stage) := by
        rw [List.map_map]
        rfl
    _ = (Stage.all.take 6).map fun stage => (stage, stamp.elapsed stage) := by rw [htimed]

/-- The times in the metadata of a run are those that it was given. -/
theorem stageTimings_metadata (r : Review) (stamp : Stamp)
    (candidates : List Candidate × List Candidate) (persisted : PersistCounts)
    (failures : RecoveredFailures) (timings : Metadata) :
    (r.metadata stamp candidates persisted failures timings).get? "stage_timings_ms" =
      some (.object timings.fields) := by
  have hordered : timings.toJson.tidy = .object timings.fields :=
    Json.tidy_of_ordered timings.ordered
  rw [metadata, Metadata.get?_ofFields]
  · exact congrArg some hordered
  · refine Fields.ordered_of_keys ?_
    simp only [List.map_cons, List.map_nil]
    decide

/-- The findings of a run that is concluded report the time of each stage before the last. -/
theorem timings_of_conclude (h : Timed stamp p.tracker) {f : Findings}
    (hconclude : (r.conclude stamp id p).value s = .ok f) :
    ∃ timings, f.metadata.get? "stage_timings_ms" = some (.object timings) ∧
      timings.Perm ((Stage.all.take 6).map fun stage =>
        (stage.tag, .ofUInt64 (stamp.elapsed stage))) := by
  obtain ⟨_, hgranted, hrest⟩ := ReviewM.bind_eq_ok.mp hconclude
  let last : Request := ⟨.done, stamp.elapsed p.tracker.current⟩
  -- The last request was granted, or there would be no findings.
  have hfinal : (p.tracker.serve last).isDone = true := by
    rcases request_cases p.tracker last with ⟨-, -, hnext⟩ | ⟨-, herror, -⟩
    · rw [hnext]
      rfl
    · cases herror.symm.trans hgranted
  refine ⟨(p.tracker.serve last).timingFields.fields, ?_, ?_⟩
  · rw [← Except.ok.inj hrest]
    exact stageTimings_metadata ..
  · rw [fields_timingFields, (h.serve .done).timings_eq hfinal, List.map_map]
    apply Fields.ofList_perm
    show ((Stage.all.take 6).map Stage.tag).Nodup
    decide

/-- A run that gives findings reports the time of each of the six stages before the last. -/
theorem timings_of_run {f : Findings} (h : (r.run stamp id).value s = .ok f) :
    ∃ timings, f.metadata.get? "stage_timings_ms" = some (.object timings) ∧
      timings.Perm ((Stage.all.take 6).map fun stage =>
        (stage.tag, .ofUInt64 (stamp.elapsed stage))) := by
  rcases run_refused_or_stages r stamp id with ⟨e, hrefused⟩ | hstages
  · rw [hrefused] at h
    cases h
  · rw [hstages, runStages_eq_walk] at h
    obtain ⟨_, -, h⟩ := ReviewM.bind_eq_ok.mp h
    obtain ⟨p, hwalk, hconclude⟩ := ReviewM.bind_eq_ok.mp h
    exact timings_of_conclude ((timed_fresh stamp).walk hwalk) hconclude

end Review

/-! ### What requests come to -/

namespace Tracker

/-- What requests to a fresh tracker come to, by how many of them it granted. -/
structure Outcome (qs : List Request) (count : Nat) : Prop where
  atMostSix : count ≤ 6
  /-- The stages that were entered are the first ones after the set-up, in their order. -/
  targets : (granted {} qs).map Request.target = Stage.all.tail.take count
  current : Stage.all[count]? = some (serveAll {} qs).current
  /-- The stages before the current one are timed, and no others. -/
  timed : (serveAll {} qs).timings.map Prod.fst = Stage.all.take count
  times : (serveAll {} qs).timings.map Prod.snd = (granted {} qs).map Request.elapsed
  /-- One more request is granted exactly when it is for the next stage. -/
  grants : ∀ q, (serveAll {} qs).answer q = .ok () ↔ Stage.all[count + 1]? = some q.target
  /-- One more request that is refused is answered by the two stages and changes nothing. -/
  refuses : ∀ q e, (serveAll {} qs).answer q = .error e →
    e = .invalidTransition (serveAll {} qs).current.tag q.target.tag ∧
    (serveAll {} (qs ++ [q])).current = (serveAll {} qs).current ∧
    (serveAll {} (qs ++ [q])).timings = (serveAll {} qs).timings ∧
    granted {} (qs ++ [q]) = granted {} qs
  isDone : (serveAll {} qs).isDone = true ↔ count = 6
  /-- Who is done refuses everything. -/
  ended : (serveAll {} qs).isDone = true → ∀ q, ∃ e, (serveAll {} qs).answer q = .error e

/-- **Requests of any kind walk through the stages in order.**  Of all that a fresh tracker is asked
    for, it grants the stages after the set-up one by one; whatever else it is asked for changes
    nothing.  So every run that gives findings reports the times of the six stages before the last,
    and no others. -/
theorem requests_walk_stages (qs : List Request) (r : Review) (stamp : Stamp) (id : String)
    (s : Session) :
    Outcome qs (granted {} qs).length ∧
    ∀ f, (r.run stamp id).value s = .ok f →
      ∃ timings, f.metadata.get? "stage_timings_ms" = some (.object timings) ∧
        timings.Perm ((Stage.all.take 6).map fun stage =>
          (stage.tag, .ofUInt64 (stamp.elapsed stage))) := by
  refine ⟨?_, fun f hf => Review.timings_of_run hf⟩
  have hwalked := walked_serveAll qs
  have hcurrent := hwalked.current
  have hgrants : ∀ q : Request, Stage.all[(granted {} qs).length + 1]? = some q.target ↔
      q.target.index = (serveAll {} qs).current.index + 1 := by
    intro q
    rw [Stage.getElem?_all_eq_some_iff, hcurrent, eq_comm]
  constructor
  case atMostSix => exact hcurrent ▸ Stage.index_le _
  case targets => exact hwalked.targets
  case current => rw [Stage.getElem?_all_eq_some_iff, hcurrent]
  case timed => exact hwalked.timed
  case times => exact hwalked.times
  case grants =>
    intro q
    rw [hgrants]
    rcases request_cases (serveAll {} qs) q with ⟨hindex, hok, -⟩ | ⟨hindex, herror, -⟩
    · exact iff_of_true hok hindex
    · refine iff_of_false ?_ hindex
      intro hok
      cases herror.symm.trans hok
  case refuses =>
    intro q e he
    obtain ⟨hsame, hgranted⟩ := serveAll_concat_of_refused he
    rw [hsame]
    refine ⟨?_, rfl, rfl, hgranted⟩
    rcases request_cases (serveAll {} qs) q with ⟨-, hok, -⟩ | ⟨-, herror, -⟩
    · cases hok.symm.trans he
    · exact Except.error.inj (he.symm.trans herror)
  case isDone => rw [isDone_iff, hcurrent]
  case ended =>
    intro hdone q
    rcases request_cases (serveAll {} qs) q with ⟨hindex, -⟩ | ⟨-, herror, -⟩
    · -- No stage has a place after the last one.
      have hlast := (isDone_iff _).mp hdone
      have hbound := Stage.index_le q.target
      omega
    · exact ⟨_, herror⟩

end Tracker

end TaintReview
