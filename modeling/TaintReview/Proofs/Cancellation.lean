import TaintReview.Graph.Handlers
import TaintReview.Proofs.Defaults
import TaintReview.Proofs.Entities
import TaintReview.Proofs.Outcome
import TaintReview.Proofs.Writes

namespace TaintReview

/-!
# Cancelled runs

A run looks for a cancellation at the boundaries between its stages and nowhere else.  So a run
that is cancelled is a run that is cut off: up to the boundary where it stops it has done what it
would have done anyway, and after it nothing.

* `Review.FirstSeenAt` — a boundary is the first one that a run comes to in a cancelled session;
* `Review.run_of_firstSeenAt` — there the run stops, in the session in which a run that nobody
  stops enters the stage;
* `Review.walk_made`, `Review.runHeeding_made` — how runs are put together.  A run that heeds no
  cancellation is `Faithful`; one that does is `Steady`, for it depends on the tokens as well;
* `Review.serve`, `Review.serveAll` — runs one after the other, each with its own token;
* `Review.serveAll_of_review` — with the token of the review cancelled they all are refused;
* `Review.serveAll_steady` — otherwise they depend on the services and on that token only.
-/

variable {α β : Type}

/-! ### Writing back acts through the services -/

namespace Persistence

/-- A link is one creation of a relationship. -/
theorem link_made (start target : NodeId) (type : String) :
    MadeOf (fun _ => Faithful) (link start target type) := by
  refine .bind (.base (.createRelationship start target type)) fun answer => ?_
  rcases answer with e | (_ | _)
  · exact .bind (.warnOf _ _) fun _ => .pure _
  · exact .bind (.note _ _) fun _ => .pure _
  · exact .pure _

/-- Links are made one after the other. -/
theorem linkAll_made (links : List (NodeId × NodeId × String)) :
    MadeOf (fun _ => Faithful) (linkAll links) := by
  induction links with
  | nil => exact .pure _
  | cons l rest ih =>
    exact .bind (link_made l.1 l.2.1 l.2.2) fun _ => .bind ih fun _ => .pure _

/-- Writing an endpoint is one creation of a node and its links. -/
theorem writeEndpoint_made (i : Investigation) (role : Role) (e : Endpoint) :
    MadeOf (fun _ => Faithful) (writeEndpoint i role e) := by
  refine .bind (.base (.createNode _ _)) fun answer => ?_
  -- The graph fails, assigns no identity or stores the node.
  rcases answer with error | (_ | entity)
  · exact .bind (.warnOf _ _) fun _ => .pure _
  · exact .bind (.warnOf _ _) fun _ => .pure _
  · exact .bind (linkAll_made _) fun _ => .pure _

/-- Endpoints are written one after the other. -/
theorem writeEndpoints_made (i : Investigation) (role : Role) (es : List Endpoint) :
    MadeOf (fun _ => Faithful) (writeEndpoints i role es) := by
  induction es with
  | nil => exact .pure _
  | cons e rest ih =>
    exact .bind (writeEndpoint_made i role e) fun _ => .bind ih fun _ => .pure _

/-- Looking for an endpoint's node is a question to the graph. -/
theorem findEndpoint_made (i : Investigation) (role : Role) (e : Endpoint) :
    MadeOf (fun _ => Faithful) (findEndpoint i role e).run := by
  refine .run_bind (.run_bind (.query _ _) fun _ => .run_pure _) fun found => ?_
  cases found with
  | none => exact .run_bind (.run_lift (.warnOf _ _)) fun _ => .run_pure _
  | some entity => exact .run_pure _

/-- Creating a path's node is one creation. -/
theorem createPath_made (i : Investigation) (p : FlowPath) :
    MadeOf (fun _ => Faithful) (createPath i p).run := by
  refine .run_bind (.run_lift (.base (.createNode _ _))) fun answer => ?_
  rcases answer with error | (_ | entity)
  · exact .run_throw _
  · exact .run_bind (.run_lift (.warnOf _ _)) fun _ => .run_pure _
  · exact .run_pure _

/-- Writing a path looks for its two ends, creates its node and links it. -/
theorem tryPath_made (i : Investigation) (p : FlowPath) :
    MadeOf (fun _ => Faithful) (tryPath i p).run := by
  refine .run_bind (findEndpoint_made i .source p.source) fun source? => ?_
  -- An end that is not found is where the path is given up.
  cases source? with
  | none => exact .run_pure _
  | some source =>
    refine .run_bind (findEndpoint_made i .sink p.sink) fun sink? => ?_
    cases sink? with
    | none => exact .run_pure _
    | some sink =>
      refine .run_bind (createPath_made i p) fun path? => ?_
      cases path? with
      | none => exact .run_pure _
      | some path => exact .run_bind (.run_lift (linkAll_made _)) fun _ => .run_pure _

/-- A path that cannot be written leaves a warning. -/
theorem writePath_made (i : Investigation) (p : FlowPath) :
    MadeOf (fun _ => Faithful) (writePath i p) := by
  refine .bind (tryPath_made i p) fun outcome => ?_
  cases outcome with
  | ok outcome => exact .pure _
  | error e => exact .bind (.warnOf _ _) fun _ => .pure _

/-- Paths are written one after the other, and those whose ends were not written are skipped. -/
theorem writePaths_made (i : Investigation) (sources sinks : List NodeId)
    (paths : List FlowPath) : MadeOf (fun _ => Faithful) (writePaths i sources sinks paths) := by
  induction paths with
  | nil => exact .pure _
  | cons p rest ih =>
    rw [writePaths]
    split
    · exact .bind (writePath_made i p) fun _ => .bind ih fun _ => .pure _
    · exact .bind (.note _ _) fun _ => ih

end Persistence

open Persistence in
/-- **Writing back acts through the services only.** -/
theorem persistAll_made (i : Investigation) (sources sinks : List Endpoint)
    (paths : List FlowPath) (failedBefore : Nat) :
    MadeOf (fun _ => Faithful) (persistAll i sources sinks paths failedBefore) :=
  .bind (writeEndpoints_made i .source sources) fun _ =>
    .bind (writeEndpoints_made i .sink sinks) fun _ =>
      .bind (writePaths_made i _ _ paths) fun _ => .bind (.note _ _) fun _ => .pure _

/-! ### Steps that also depend on the tokens -/

/-- The services of the two sessions would answer alike, and the same is cancelled in both. -/
structure Matching (s t : Session) : Prop where
  alike : Alike s t
  cancellation : t.cancellation = s.cancellation

/-- In matching sessions the step gives the same value and leaves matching sessions. -/
def Steady (x : SessionM α) : Prop :=
  ∀ s t, Matching s t → x.value t = x.value s ∧ Matching (x.after s) (x.after t)

/-- A step that acts through the services only is steady. -/
theorem Faithful.steady {x : SessionM α} (h : Faithful x) : Steady x := by
  intro s t hst
  have hstep := h s t hst.alike
  obtain ⟨scopes, hs, ht⟩ := hstep.cancels
  refine ⟨hstep.value, hstep.alike, ?_⟩
  -- The step cancels the same in both sessions, and there the same was cancelled before.
  rw [hs, ht, hst.cancellation]

theorem Steady.bind {x : SessionM α} {f : α → SessionM β} (hx : Steady x)
    (hf : ∀ a, Steady (f a)) : Steady (x >>= f : SessionM β) := by
  intro s t hst
  obtain ⟨hvalue, hafter⟩ := hx s t hst
  rw [SessionM.value_bind, SessionM.value_bind, SessionM.after_bind, SessionM.after_bind, hvalue]
  exact hf _ _ _ hafter

/-- What is made of steady steps is steady. -/
theorem MadeOf.steady {x : SessionM α} (h : MadeOf (fun _ => Steady) x) : Steady x := by
  induction h with
  | pure a => exact (Faithful.pure a).steady
  | bind _ _ hx hf => exact .bind hx hf
  | note level message => exact (Faithful.note level message).steady
  | warnOf category message => exact (Faithful.warnOf category message).steady
  | runQuery statement parameters => exact (Faithful.runQuery statement parameters).steady
  | complete call => exact (Faithful.complete call).steady
  | base h => exact h

namespace Review

open Text

variable {r : Review} {stamp : Stamp} {id : String} {p q : Progress} {s t : Session}
  {stage : Stage} {heeds : Bool} {base : (α : Type) → SessionM α → Prop}

/-! ### How runs are put together -/

/-- A walk is put together from its visits, when steps of the kind may enter stages and write. -/
theorem walk_made (h : r.PartsMadeOf base)
    (henter : ∀ t stage, MadeOf base (enter heeds stamp t stage).run)
    (hwrites : r.settings.persist = true → ∀ i sources sinks paths failedBefore,
      MadeOf base (persistAll i sources sinks paths failedBefore))
    (stages : List Stage) (p : Progress) :
    MadeOf base (r.walk heeds stamp id stages p).run := by
  induction stages generalizing p with
  | nil => exact .run_pure _
  | cons stage rest ih =>
    refine .run_bind (.run_bind (henter _ stage) fun _ => work_made h id _ fun hon => ?_) ih
    exact hwrites (Bool.and_eq_true_iff.mp hon).2

/-- A run is refused at once, or put together from a walk and its conclusion. -/
theorem runHeeding_made (h : r.PartsMadeOf base)
    (henter : ∀ t stage, MadeOf base (enter heeds stamp t stage).run)
    (hwrites : r.settings.persist = true → ∀ i sources sinks paths failedBefore,
      MadeOf base (persistAll i sources sinks paths failedBefore)) :
    MadeOf base (r.runHeeding heeds stamp id).run := by
  rw [runHeeding]
  split
  · exact .run_throw _
  · split
    · exact .run_throw _
    · rw [runStages_eq_walk]
      exact .run_bind (.run_lift (.note _ _)) fun _ =>
        .run_bind (walk_made h henter hwrites boundaries {}) fun p => conclude_made r stamp _ p

/-- Who heeds no cancellation enters a stage whatever is cancelled. -/
theorem enter_faithful (stamp : Stamp) (t : Tracker) (stage : Stage) :
    Faithful (enter false stamp t stage).run :=
  .of_quiet fun s => ⟨value_enter false stamp t stage s, after_enter false stamp t stage s⟩

/-- Whether a stage is entered depends on what is cancelled. -/
theorem enter_steady (stamp : Stamp) (t : Tracker) (stage : Stage) :
    Steady (enter true stamp t stage).run := by
  intro s s' hss
  obtain ⟨log, hlog⟩ := after_enter true stamp t stage s
  obtain ⟨log', hlog'⟩ := after_enter true stamp t stage s'
  rw [ReviewM.value_run, ReviewM.value_run, ReviewM.after_run, ReviewM.after_run, value_enter,
    value_enter, hlog, hlog', hss.cancellation]
  exact ⟨rfl, ⟨hss.alike.graph, hss.alike.completion⟩, rfl⟩

/-- A walk that heeds no cancellation acts through the services only. -/
theorem walk_faithful (h : r.PartsMadeOf fun _ => Faithful) (stamp : Stamp) (id : String)
    (stages : List Stage) (p : Progress) : Faithful (r.walk false stamp id stages p).run :=
  (walk_made h (fun t stage => .base (enter_faithful stamp t stage)) (fun _ => persistAll_made)
    stages p).faithful

/-- Parts that act through the services only are steady. -/
theorem PartsMadeOf.steady (h : r.PartsMadeOf fun _ => Faithful) :
    r.PartsMadeOf fun _ => Steady where
  candidates f hf role id := .base (h.candidates f hf role id).faithful.steady
  judge a ha role c := .base (h.judge a ha role c).faithful.steady
  flows a ha sources sinks id := .base (h.flows a ha sources sinks id).faithful.steady
  summarize f hf sources sinks paths id :=
    .base (h.summarize f hf sources sinks paths id).faithful.steady

/-- **A run depends on the services and on what is cancelled**, and on nothing else. -/
theorem run_steady (h : r.PartsMadeOf fun _ => Faithful) (stamp : Stamp) (id : String) :
    Steady (r.run stamp id).run :=
  (runHeeding_made h.steady (fun t stage => .base (enter_steady stamp t stage))
    fun _ i sources sinks paths failedBefore =>
      .base (persistAll_made i sources sinks paths failedBefore).faithful.steady).steady

/-! ### Where a run stops -/

/-- The stages before a boundary. -/
def stagesBefore (stage : Stage) : List Stage := boundaries.takeWhile (· != stage)

/-- A request that can be served is served by going through the stages. -/
theorem runHeeding_eq_runStages (heeds : Bool) (stamp : Stamp) (hid : trimmed id ≠ "")
    (hcompletion : ¬(r.settings.requireCompletion = true ∧ r.hasCompletion = false)) :
    r.runHeeding heeds stamp id = r.runStages heeds stamp (trimmed id) := by
  have hblank : ¬isBlankText id = true := mt (trimmed_eq_empty_iff id).mpr hid
  have hmissing : ¬(r.settings.requireCompletion && !r.hasCompletion) = true := by
    rw [Bool.and_eq_true, Bool.not_eq_true']
    exact hcompletion
  rw [runHeeding, if_neg hblank, if_neg hmissing]

/-- Where no boundary is reached in a cancelled session, a walk that heeds cancellations is one
    that heeds none. -/
theorem walk_of_not_seen {stages : List Stage} (hn : stages.Nodup)
    (h : ∀ stage ∈ stages, (r.reached stamp id stages p stage s).cancellation.isSeen = false) :
    (r.walk true stamp id stages p).value s = (r.walk false stamp id stages p).value s ∧
      (r.walk true stamp id stages p).after s = (r.walk false stamp id stages p).after s := by
  induction stages generalizing p s with
  | nil => exact ⟨rfl, rfl⟩
  | cons stage rest ih =>
    obtain ⟨hstage, hrest⟩ := List.nodup_cons.mp hn
    have hhead := h stage List.mem_cons_self
    rw [reached_head] at hhead
    obtain ⟨hvalue, hafter⟩ := visit_of_not_seen r stamp id p stage hhead
    rw [walk, walk]
    cases hv : (r.visit false stamp id p stage).value s with
    | error e =>
      rw [hv] at hvalue
      rw [ReviewM.value_bind_of_error hv, ReviewM.value_bind_of_error hvalue,
        ReviewM.after_bind_of_error hv, ReviewM.after_bind_of_error hvalue]
      exact ⟨rfl, hafter⟩
    | ok q =>
      rw [hv] at hvalue
      rw [ReviewM.value_bind_of_ok hv, ReviewM.value_bind_of_ok hvalue,
        ReviewM.after_bind_of_ok hv, ReviewM.after_bind_of_ok hvalue, hafter]
      -- From the next stage on the boundaries are the same ones.
      refine ih hrest fun other hother => ?_
      have hne : other ≠ stage := fun heq => hstage (heq ▸ hother)
      rw [← reached_tail hne hv]
      exact h other (List.mem_cons_of_mem _ hother)

/-- A run that comes to no boundary in a cancelled session is one that heeds no cancellation. -/
theorem run_of_not_seen (h : ∀ stage ∈ boundaries,
      (r.arrival stamp (trimmed id) stage s).cancellation.isSeen = false) :
    (r.run stamp id).value s = (r.runHeeding false stamp id).value s ∧
      (r.run stamp id).after s = (r.runHeeding false stamp id).after s := by
  obtain ⟨hvalue, hafter⟩ := walk_of_not_seen (by decide) h
  rw [run, runHeeding, runHeeding]
  split
  · exact ⟨rfl, rfl⟩
  · split
    · exact ⟨rfl, rfl⟩
    · rw [runStages_eq_walk, runStages_eq_walk, ReviewM.value_lift_bind, ReviewM.value_lift_bind,
        ReviewM.after_lift_bind, ReviewM.after_lift_bind, ReviewM.value_bind, ReviewM.value_bind,
        ReviewM.after_bind, ReviewM.after_bind, hvalue, hafter]
      exact ⟨rfl, rfl⟩

/-- The boundary of the stage is the first one that the run comes to in a cancelled session. -/
structure FirstSeenAt (r : Review) (stamp : Stamp) (id : String) (s : Session)
    (stage : Stage) : Prop where
  boundary : stage ∈ boundaries
  named : trimmed id ≠ ""
  served : ¬(r.settings.requireCompletion = true ∧ r.hasCompletion = false)
  /-- Only a run that finds its investigation comes to the boundaries after the first one. -/
  found : stage ≠ .queryCandidates → ∃ row rows,
    s.graph.rows Statement.investigationExists (lookupParameters (trimmed id)) = .ok (row :: rows)
  before : ∀ earlier ∈ stagesBefore stage,
    (r.arrival stamp (trimmed id) earlier s).cancellation.isSeen = false
  seen : (r.arrival stamp (trimmed id) stage s).cancellation.isSeen = true

/-- A run that nobody stops and that finds its investigation comes to every boundary. -/
theorem walk_stagesBefore_isOk (r : Review) (stamp : Stamp) (id : String)
    (hstage : stage ∈ boundaries)
    (hfound : stage ≠ .queryCandidates → ∃ row rows,
      s.graph.rows Statement.investigationExists (lookupParameters id) = .ok (row :: rows)) :
    ∃ q, (r.walk false stamp id (stagesBefore stage) {}).value ((r.announce id).after s) =
      .ok q := by
  by_cases hfirst : stage = .queryCandidates
  · subst hfirst
    exact ⟨{}, rfl⟩
  · have hsplit : stagesBefore stage =
        .queryCandidates :: laterBoundaries.takeWhile (· != stage) :=
      List.takeWhile_cons_of_pos (bne_iff_ne.mpr (Ne.symm hfirst))
    obtain ⟨row, rows, hrows⟩ := hfound hfirst
    -- The first stage succeeds because the investigation is found; after it no stage can fail.
    obtain ⟨log, hvisit, -⟩ := visit_of_next (p := {}) r false stamp id
      ((r.announce id).after s) (show Stage.next? .setup = some .queryCandidates from rfl) rfl
    have hlook := value_work_queryCandidates r id
      (Progress.entered {} stamp .queryCandidates) { (r.announce id).after s with log }
    have hgraph : ({ (r.announce id).after s with log } : Session).graph = s.graph := rfl
    rw [hgraph, hrows] at hlook
    obtain ⟨p, hp, -⟩ := hlook
    rw [← hvisit] at hp
    have horder : ∀ stage ∈ boundaries, InOrder .queryCandidates
        (laterBoundaries.takeWhile (· != stage)) := by
      unfold InOrder
      decide
    have hlater : ∀ stage ∈ boundaries,
        .queryCandidates ∉ laterBoundaries.takeWhile (· != stage) := by decide
    obtain ⟨q, hq⟩ := walk_isOk r stamp id
      ((r.visit false stamp id {} .queryCandidates).after ((r.announce id).after s))
      (p := p) (by rw [current_of_visit hp]; exact horder stage hstage) (hlater stage hstage)
    exact ⟨q, by rw [hsplit, walk, ReviewM.value_bind_of_ok hp, hq]⟩

/-- The stages before a boundary are the first ones that a run goes through. -/
theorem boundaries_split (h : stage ∈ boundaries) :
    ∃ rest, boundaries = stagesBefore stage ++ stage :: rest := by
  have hsplit : ∀ stage ∈ boundaries, boundaries = stagesBefore stage ++
      stage :: boundaries.drop ((stagesBefore stage).length + 1) := by decide
  exact ⟨_, hsplit stage h⟩

/-- **A cancelled run stops at the first boundary where it can see it**, in the session in which
    a run that nobody stops comes to that boundary. -/
theorem run_of_firstSeenAt (h : r.FirstSeenAt stamp id s stage) :
    (r.run stamp id).value s = .error (.cancelled stage) ∧
      ∃ log, (r.run stamp id).after s = { r.arrival stamp (trimmed id) stage s with log } := by
  obtain ⟨rest, hsplit⟩ := boundaries_split h.boundary
  obtain ⟨q, hq⟩ := walk_stagesBefore_isOk r stamp (trimmed id) h.boundary h.found
  -- Up to the boundary the run is one that heeds no cancellation.
  have hreached : ∀ stage ∈ boundaries, ∀ earlier ∈ stagesBefore stage,
      (stagesBefore stage).takeWhile (· != earlier) = stagesBefore earlier := by decide
  have hnodup : (stagesBefore stage).Nodup :=
    (by decide : boundaries.Nodup).sublist (List.takeWhile_sublist _)
  have hbefore : ∀ earlier ∈ stagesBefore stage, (r.reached stamp (trimmed id)
      (stagesBefore stage) {} earlier ((r.announce (trimmed id)).after s)).cancellation.isSeen =
        false := by
    intro earlier hearlier
    rw [reached, hreached stage h.boundary earlier hearlier]
    exact h.before earlier hearlier
  obtain ⟨hvalue, hafter⟩ := walk_of_not_seen hnodup hbefore
  rw [hq] at hvalue
  -- There it sees the cancellation.
  obtain ⟨hstop, log, hleft⟩ := visit_of_seen r true stamp (trimmed id) q stage h.seen
  have hwalk : (r.walk true stamp (trimmed id) boundaries {}).value
      ((r.announce (trimmed id)).after s) = .error (.cancelled stage) ∧
      (r.walk true stamp (trimmed id) boundaries {}).after
        ((r.announce (trimmed id)).after s) =
          { r.arrival stamp (trimmed id) stage s with log } := by
    rw [hsplit, walk_append, ReviewM.value_bind_of_ok hvalue, ReviewM.after_bind_of_ok hvalue,
      hafter, walk]
    exact ⟨ReviewM.value_bind_of_error hstop, (ReviewM.after_bind_of_error hstop).trans hleft⟩
  rw [run, runHeeding_eq_runStages true stamp h.named h.served, runStages_eq_walk,
    ReviewM.value_lift_bind, ReviewM.after_lift_bind, ReviewM.value_bind_of_error hwalk.1,
    ReviewM.after_bind_of_error hwalk.1]
  exact ⟨rfl, log, hwalk.2⟩

/-! ### Cancelled and uncancelled runs -/

/-- Whatever is cancelled, a run that nobody stops comes to a boundary with the same calls made
    and with services that answer alike. -/
theorem arrival_of_alike (h : r.PartsMadeOf fun _ => Faithful) (stamp : Stamp) (id : String)
    (stage : Stage) (hst : Alike s t) :
    Alike (r.arrival stamp id stage s) (r.arrival stamp id stage t) ∧
      ∃ calls, (r.arrival stamp id stage s).calls = s.calls ++ calls ∧
        (r.arrival stamp id stage t).calls = t.calls ++ calls := by
  -- The announcement is for the log only.
  have hannounced : Alike ((r.announce id).after s) ((r.announce id).after t) :=
    ⟨hst.graph, hst.completion⟩
  have hstep := walk_faithful h stamp id (stagesBefore stage) {} _ _ hannounced
  exact ⟨hstep.alike, hstep.calls⟩

/-- What follows on a step that acts through the services only adds calls. -/
theorem calls_grow_bind {x : ReviewM α} {f : α → ReviewM β} (hf : ∀ a, Faithful (f a).run)
    (s : Session) : (x.after s).calls <+: ((x >>= f : ReviewM β).after s).calls := by
  rw [ReviewM.after_bind]
  cases x.value s with
  | error e => exact List.prefix_rfl
  | ok a => exact (hf a).calls_grow _

/-- The calls that a run has made when it comes to a boundary are the first ones of the run. -/
theorem arrival_calls_first (h : r.PartsMadeOf fun _ => Faithful) (stamp : Stamp)
    (hid : trimmed id ≠ "")
    (hcompletion : ¬(r.settings.requireCompletion = true ∧ r.hasCompletion = false))
    (hstage : stage ∈ boundaries) (s : Session) :
    (r.arrival stamp (trimmed id) stage s).calls <+:
      ((r.runHeeding false stamp id).after s).calls := by
  obtain ⟨rest, hsplit⟩ := boundaries_split hstage
  have hrest : ∀ p, Faithful (r.walk false stamp (trimmed id) (stage :: rest) p >>=
      r.conclude stamp (trimmed id)).run := fun p =>
    (MadeOf.run_bind (.base (walk_faithful h stamp (trimmed id) (stage :: rest) p))
      fun q => conclude_made r stamp (trimmed id) q).faithful
  rw [runHeeding_eq_runStages false stamp hid hcompletion, runStages_eq_walk,
    ReviewM.after_lift_bind, hsplit, walk_append, bind_assoc]
  exact calls_grow_bind hrest _

/-! ### Runs one after the other -/

/-- A request for a run, with a token of its own if it can be cancelled by itself. -/
structure Request where
  stamp : Stamp
  id : String
  token : Option Bool := none

/-- The session with another token of the run. -/
def withToken (s : Session) (token : Option Bool) : Session :=
  { s with cancellation := { review := s.cancellation.review, run := token } }

/-- Run the review for a request.  Its token is there for the run only. -/
def serve (r : Review) (request : Request) : SessionM (Except ReviewError Findings) := do
  modify (withToken · request.token)
  let outcome ← (r.run request.stamp request.id).run
  modify (withToken · none)
  pure outcome

/-- A request is answered by a run in the session with its token. -/
theorem value_serve (r : Review) (request : Request) (s : Session) :
    (r.serve request).value s =
      (r.run request.stamp request.id).value (withToken s request.token) := rfl

/-- After a request its token is gone. -/
theorem after_serve (r : Review) (request : Request) (s : Session) :
    (r.serve request).after s =
      withToken ((r.run request.stamp request.id).after (withToken s request.token)) none := rfl

/-- Run the review for requests one after the other. -/
def serveAll (r : Review) : List Request → SessionM (List (Except ReviewError Findings))
  | [] => pure []
  | request :: rest => do
    let outcome ← r.serve request
    let others ← serveAll r rest
    pure (outcome :: others)

/-- The first request is served first, and the others find the session that it leaves. -/
theorem value_serveAll_cons (r : Review) (request : Request) (rest : List Request)
    (s : Session) :
    (r.serveAll (request :: rest)).value s =
      (r.serve request).value s :: (r.serveAll rest).value ((r.serve request).after s) := rfl

/-- What is left after all requests is left by those after the first one. -/
theorem after_serveAll_cons (r : Review) (request : Request) (rest : List Request)
    (s : Session) :
    (r.serveAll (request :: rest)).after s =
      (r.serveAll rest).after ((r.serve request).after s) := rfl

/-- Requests in two groups are served group by group. -/
theorem value_serveAll_append (r : Review) (first second : List Request) (s : Session) :
    (r.serveAll (first ++ second)).value s =
      (r.serveAll first).value s ++ (r.serveAll second).value ((r.serveAll first).after s) := by
  induction first generalizing s with
  | nil => rfl
  | cons request rest ih =>
    rw [List.cons_append, value_serveAll_cons, value_serveAll_cons, after_serveAll_cons, ih,
      List.cons_append]

/-- Each request has one outcome. -/
theorem length_serveAll (r : Review) (requests : List Request) (s : Session) :
    ((r.serveAll requests).value s).length = requests.length := by
  induction requests generalizing s with
  | nil => rfl
  | cons request rest ih => rw [value_serveAll_cons, List.length_cons, List.length_cons, ih]

/-- Why a cancelled review refuses a request. -/
def refusal (r : Review) (id : String) : ReviewError :=
  if trimmed id = "" then .configuration "investigation id is required"
  else if r.settings.requireCompletion && !r.hasCompletion then .completionMissing
  else .cancelled .queryCandidates

/-- A run that begins in a cancelled session does nothing. -/
theorem run_of_seen (r : Review) (stamp : Stamp) (id : String)
    (h : s.cancellation.isSeen = true) :
    (r.run stamp id).value s = .error (r.refusal id) ∧
      ∃ log, (r.run stamp id).after s = { s with log } := by
  by_cases hid : trimmed id = ""
  · have hblank := (trimmed_eq_empty_iff id).mp hid
    rw [run, runHeeding, if_pos hblank, refusal, if_pos hid]
    exact ⟨rfl, s.log, rfl⟩
  · by_cases hmissing : (r.settings.requireCompletion && !r.hasCompletion) = true
    · have hblank := mt (trimmed_eq_empty_iff id).mpr hid
      rw [run, runHeeding, if_neg hblank, if_pos hmissing, refusal, if_neg hid, if_pos hmissing]
      exact ⟨rfl, s.log, rfl⟩
    · -- Nothing is done before the first boundary, so the cancellation is seen there.
      have harrival : r.arrival stamp (trimmed id) .queryCandidates s =
          (r.announce (trimmed id)).after s := reached_head _
      have hfirst : r.FirstSeenAt stamp id s .queryCandidates :=
        { boundary := by decide
          named := hid
          served := by rwa [Bool.and_eq_true, Bool.not_eq_true'] at hmissing
          found := fun hne => absurd rfl hne
          before := by
            rw [show stagesBefore .queryCandidates = [] from by decide]
            exact List.forall_mem_nil _
          seen := by rw [harrival]; exact h }
      obtain ⟨hvalue, log, hafter⟩ := run_of_firstSeenAt hfirst
      rw [refusal, if_neg hid, if_neg hmissing]
      exact ⟨hvalue, log, by rw [hafter, harrival]; rfl⟩

/-- A request to a cancelled review is refused, and nothing is done. -/
theorem serve_of_review (r : Review) (request : Request) (h : s.cancellation.review = true) :
    (r.serve request).value s = .error (r.refusal request.id) ∧
      ∃ log, (r.serve request).after s = { withToken s none with log } := by
  have hseen : (withToken s request.token).cancellation.isSeen = true := by
    rw [withToken, Cancellation.isSeen, h, Bool.true_or]
  obtain ⟨hvalue, log, hafter⟩ := run_of_seen r request.stamp request.id hseen
  rw [value_serve, after_serve, hafter]
  exact ⟨hvalue, log, rfl⟩

/-- **After the review is cancelled every request is refused**, and nothing is done. -/
theorem serveAll_of_review (r : Review) (requests : List Request)
    (h : s.cancellation.review = true) :
    (r.serveAll requests).value s = requests.map (fun q => .error (r.refusal q.id)) ∧
      ∃ log token, (r.serveAll requests).after s = { withToken s token with log } := by
  induction requests generalizing s with
  | nil => exact ⟨rfl, s.log, s.cancellation.run, rfl⟩
  | cons request rest ih =>
    obtain ⟨hvalue, log, hafter⟩ := serve_of_review r request h
    -- The token of the review is never taken back.
    have hstill : ((r.serve request).after s).cancellation.review = true := by
      rw [hafter]
      exact h
    obtain ⟨hvalues, log', token, hend⟩ := ih hstill
    rw [value_serveAll_cons, after_serveAll_cons, hvalue, hvalues, hend, hafter]
    exact ⟨rfl, log', token, rfl⟩

/-- A request is served alike where the services answer alike and the review is cancelled in
    both sessions or in none: the token of an earlier run is gone. -/
theorem serve_steady (h : r.PartsMadeOf fun _ => Faithful) (request : Request) (hst : Alike s t)
    (hreview : t.cancellation.review = s.cancellation.review) :
    (r.serve request).value t = (r.serve request).value s ∧
      Alike ((r.serve request).after s) ((r.serve request).after t) ∧
      ((r.serve request).after t).cancellation.review =
        ((r.serve request).after s).cancellation.review := by
  have hmatching : Matching (withToken s request.token) (withToken t request.token) := by
    refine ⟨⟨hst.graph, hst.completion⟩, ?_⟩
    rw [withToken, withToken, hreview]
  obtain ⟨hvalue, hafter⟩ := run_steady h request.stamp request.id _ _ hmatching
  have hsame := congrArg Cancellation.review hafter.cancellation
  rw [value_serve, value_serve, after_serve, after_serve]
  exact ⟨hvalue, ⟨hafter.alike.graph, hafter.alike.completion⟩, hsame⟩

/-- **Requests depend on the services and on the token of the review only.** -/
theorem serveAll_steady (h : r.PartsMadeOf fun _ => Faithful) (requests : List Request)
    (hst : Alike s t) (hreview : t.cancellation.review = s.cancellation.review) :
    (r.serveAll requests).value t = (r.serveAll requests).value s := by
  induction requests generalizing s t with
  | nil => rfl
  | cons request rest ih =>
    obtain ⟨hvalue, halike, hsame⟩ := serve_steady h request hst hreview
    rw [value_serveAll_cons, value_serveAll_cons, hvalue, ih halike hsame]

/-- Without write-back, a review that only asks leaves the services as they were. -/
theorem serve_alike (h : r.AsksOnly) (hoff : r.settings.persist = false) (request : Request)
    (s : Session) : Alike s ((r.serve request).after s) := by
  -- The run heeds cancellations, which asks nothing.
  have hreads : Keeps Reads (r.run request.stamp request.id).run :=
    (runHeeding_made h.partsMadeOf
      (fun t stage => .base (enter_reads true request.stamp t stage))
      fun hon => by rw [hoff] at hon; cases hon).reads
  have hrun := Alike.of_reads (hreads (withToken s request.token))
  rw [after_serve]
  exact ⟨hrun.graph, hrun.completion⟩

/-- The outcomes of the requests around one of them. -/
theorem getElem?_serveAll (r : Review) (before later : List Request) (request : Request)
    (s : Session) {n : Nat} (hn : n ≠ before.length) :
    ((r.serveAll (before ++ request :: later)).value s)[n]? =
      if n < before.length then ((r.serveAll before).value s)[n]?
      else ((r.serveAll later).value
        ((r.serve request).after ((r.serveAll before).after s)))[n - before.length - 1]? := by
  rw [value_serveAll_append, value_serveAll_cons, List.getElem?_append, length_serveAll]
  split
  · rfl
  · obtain ⟨k, hk⟩ : ∃ k, n - before.length = k + 1 := ⟨n - before.length - 1, by omega⟩
    rw [hk, List.getElem?_cons_succ, Nat.add_sub_cancel]

/-- **Cancelled runs are runs cut off at a boundary.**  A run that comes to no boundary in a
    cancelled session runs as if there were no cancellations.  Otherwise it stops at the first
    such boundary, in the session in which a run that nobody stops comes there.  After the review
    is cancelled every request that can be served is refused at the first boundary and no
    service is called.

    Where the parts of the review act through the services only, as those of the default review
    do, it does not matter what else is cancelled in the run that is cut off: the calls and the
    store are those of the same run under any other cancellation, and the calls are the first ones
    of the whole run.  The token of a run is of no concern to the runs before it.  The runs after
    it have the same outcomes whatever the token was, if the run leaves services that answer alike
    and the review is cancelled after it in either case or in none; the services do answer alike
    when nothing is written. -/
theorem cancellation_cuts_runs_off (r : Review) :
    (∀ stamp id s, (∀ stage ∈ boundaries,
        (r.arrival stamp (trimmed id) stage s).cancellation.isSeen = false) →
      (r.run stamp id).value s = (r.runHeeding false stamp id).value s ∧
        (r.run stamp id).after s = (r.runHeeding false stamp id).after s) ∧
    (∀ stamp id s stage, r.FirstSeenAt stamp id s stage →
      (r.run stamp id).value s = .error (.cancelled stage) ∧
        ∃ log, (r.run stamp id).after s = { r.arrival stamp (trimmed id) stage s with log }) ∧
    (∀ (requests : List Request) (s : Session), s.cancellation.review = true →
      (r.serveAll requests).value s = requests.map (fun q => .error (r.refusal q.id)) ∧
        ∃ log token, (r.serveAll requests).after s = { withToken s token with log }) ∧
    (r.PartsMadeOf (fun _ => Faithful) →
      (∀ stamp id s stage (other : Cancellation), r.FirstSeenAt stamp id s stage →
        let t : Session := { s with cancellation := other }
        Alike (r.arrival stamp (trimmed id) stage t) ((r.run stamp id).after s) ∧
          ((r.run stamp id).after s).calls = (r.arrival stamp (trimmed id) stage t).calls ∧
          ((r.run stamp id).after s).calls <+: ((r.runHeeding false stamp id).after t).calls) ∧
      ∀ (before later : List Request) (request : Request) (token : Option Bool) (s : Session),
        let left := (r.serve request).after ((r.serveAll before).after s)
        let left' := (r.serve { request with token }).after ((r.serveAll before).after s)
        (r.AsksOnly → r.settings.persist = false → Alike left left') ∧
        (∀ n < before.length, ((r.serveAll (before ++ request :: later)).value s)[n]? =
          ((r.serveAll (before ++ { request with token } :: later)).value s)[n]?) ∧
        (Alike left left' → left'.cancellation.review = left.cancellation.review →
          ∀ n, n ≠ before.length →
            ((r.serveAll (before ++ request :: later)).value s)[n]? =
              ((r.serveAll (before ++ { request with token } :: later)).value s)[n]?)) := by
  refine ⟨fun stamp id s => run_of_not_seen, fun stamp id s stage => run_of_firstSeenAt,
    fun requests s => serveAll_of_review r requests, fun hparts => ⟨?_, ?_⟩⟩
  · intro stamp id s stage other hfirst t
    obtain ⟨-, log, hafter⟩ := run_of_firstSeenAt hfirst
    -- The two sessions differ in what is cancelled and in nothing else.
    have hst : Alike s t := ⟨⟨_, _, rfl⟩, _, rfl⟩
    obtain ⟨halike, calls, hs, ht⟩ := arrival_of_alike hparts stamp (trimmed id) stage hst
    have hcalls : ((r.run stamp id).after s).calls =
        (r.arrival stamp (trimmed id) stage t).calls := by
      rw [hafter, ht]
      exact hs
    refine ⟨?_, hcalls, ?_⟩
    · rw [hafter]
      exact ⟨halike.symm.graph, halike.symm.completion⟩
    · rw [hcalls]
      exact arrival_calls_first hparts stamp hfirst.named hfirst.served hfirst.boundary t
  · intro before later request token s left left'
    refine ⟨fun hasks hoff => ?_, fun n hn => ?_, fun halike hreview n hn => ?_⟩
    · -- Either run leaves the services as they were before it.
      exact (serve_alike hasks hoff request _).symm.trans
        (serve_alike hasks hoff { request with token } _)
    · rw [getElem?_serveAll r before later request s (Nat.ne_of_lt hn),
        getElem?_serveAll r before later _ s (Nat.ne_of_lt hn), if_pos hn, if_pos hn]
    · rw [getElem?_serveAll r before later request s hn, getElem?_serveAll r before later _ s hn,
        serveAll_steady hparts later halike hreview]

/-! ### A review that pairs what it is given -/

/-- Each investigation has candidates of its own. -/
def assigned : Funnel where
  name := "assigned"
  candidates role investigation := pure <|
    match role, investigation with
    | .source, "a" => [{ nodeId := 2, name := "save" }]
    | .source, "b" => [{ nodeId := 1, name := "load" }]
    | .sink, "b" => [{ nodeId := 2, name := "save" }]
    | _, _ => []

/-- Every candidate is confirmed, and there is a flow from each source to each sink. -/
def pairing : Analyzer where
  name := "pairing"
  judge role c := pure (some
    { nodeId := c.nodeId, name := c.name,
      category := match role with | .source => .userInput | .sink => .databaseWrite })
  flows sources sinks _ := pure (sources.flatMap fun source => sinks.map fun sink =>
    { source, sink, vulnerabilityType := "SQL Injection" })

/-- The review of these two parts. -/
def pairingReview (persist : Bool) : Review where
  settings := { persist }
  funnels := [assigned]
  analyzers := [pairing]

/-- Funnel and analyzer give what they have without asking anyone. -/
theorem partsMadeOf_pairingReview (persist : Bool) : (pairingReview persist).PartsMadeOf base where
  candidates := List.forall_mem_singleton.mpr fun _ _ => .pure _
  judge := List.forall_mem_singleton.mpr fun _ _ => .run_pure _
  flows := List.forall_mem_singleton.mpr fun _ _ _ => .run_pure _
  summarize := nofun

/-- A run for an investigation. -/
def request (id : String) (token : Option Bool) : Request := { stamp := instant, id, token }

/-- A graph with one investigation under two names, which finds a sink where a source was
    written. -/
def sourcesAsSinks : Session where
  graph :=
    { handlers :=
       [(Statement.investigationExists, .ofRows [[("investigation_id", .string "x")]]),
        (Statement.findSourceByNodeId, .entities "Source"),
        (Statement.findSinkByNodeId, .entities "Source")] }

/-- A graph whose look-ups cancel something. -/
def cancelledOnLookUp (scope : CancelScope) : Session where
  graph := { handlers := [(Statement.investigationExists, .cancelling scope (.ofRows [[]]))] }

/-- One review for all: a run that is not cancelled, one that is cut off after its look-up, two
    that are refused, and one that is not concerned by the token of the run before it. -/
theorem cancellation_cuts_runs_off_pairing :
    let r := pairingReview false
    let s := withToken (cancelledOnLookUp .run) (some false)
    let cancelled : Session := { cancellation := { review := true } }
    (r.run instant "b").value sourcesAsSinks =
        (r.runHeeding false instant "b").value sourcesAsSinks ∧
      (r.run instant "b").value s = .error (.cancelled .confirmCandidates) ∧
      ((r.run instant "b").after s).calls <+: ((r.runHeeding false instant "b").after s).calls ∧
      (r.serveAll [request "a" none, request " " none]).value cancelled =
        [.error (.cancelled .queryCandidates),
         .error (.configuration "investigation id is required")] ∧
      ((r.serveAll [request "a" (some false), request "b" none]).value sourcesAsSinks)[1]? =
        ((r.serveAll [request "a" (some true), request "b" none]).value sourcesAsSinks)[1]? := by
  intro r s cancelled
  obtain ⟨hnever, hfirst, hreview, hparts⟩ := cancellation_cuts_runs_off r
  obtain ⟨hcalls, hothers⟩ := hparts (partsMadeOf_pairingReview false)
  have hlookup : s.graph.handlers.lookup Statement.investigationExists =
      some (.cancelling .run (.ofRows [[]])) := List.lookup_cons_self
  have hs : r.FirstSeenAt instant "b" s .confirmCandidates :=
    { boundary := by decide
      named := by decide
      served := by decide
      found := fun _ => ⟨[], [], Persistence.rows_of_lookup rfl hlookup _⟩
      before := by decide +kernel
      seen := by decide +kernel }
  have hquiet : ∀ stage ∈ boundaries,
      (r.arrival instant (trimmed "b") stage sourcesAsSinks).cancellation.isSeen = false := by
    decide +kernel
  obtain ⟨halike, -, hsame⟩ := hothers [] [request "b" none] (request "a" (some false)) (some true)
    sourcesAsSinks
  refine ⟨(hnever instant "b" sourcesAsSinks hquiet).1, (hfirst instant "b" s _ hs).1,
    (hcalls instant "b" s _ s.cancellation hs).2.2, ?_, ?_⟩
  · rw [(hreview _ _ rfl).1]
    rfl
  · exact hsame (halike (partsMadeOf_pairingReview false).asksOnly rfl) (by decide +kernel) 1
      (by decide)

/-- How many paths a run wrote, or why it ended. -/
def pathsWritten : Except ReviewError Findings → String
  | .ok f => Json.compact ((f.metadata.get? "persisted").getD .null)
  | .error e => e.message

/-- **The token of a run can reach the next one**, through what the run would have written and
    through a cancellation of the review that it would have caused. -/
theorem token_reaches_next_run :
    (let outcomes (token : Option Bool) :=
      ((pairingReview true).serveAll [request "a" token, request "b" none]).value sourcesAsSinks
    (outcomes (some true))[1]? ≠ (outcomes (some false))[1]?) ∧
    let outcomes (token : Option Bool) :=
      ((pairingReview true).serveAll [request "a" token, request "b" none]).value
        (cancelledOnLookUp .review)
    (outcomes (some true))[1]? ≠ (outcomes (some false))[1]? := by
  refine ⟨?_, ?_⟩
  all_goals
    intro outcomes heq
    have hwritten := congrArg (Option.map pathsWritten) heq
    revert hwritten
    decide +kernel

end Review

end TaintReview
