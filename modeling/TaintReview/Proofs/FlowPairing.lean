import Mathlib.Data.List.Chain
import TaintReview.Proofs.FlowLayout

namespace TaintReview.Extraction

open Text

/-!
# Which passages a path is read from

A text may be made of passages, each with one line for its source and one for its sink, and a
name in such a line may be that of no known endpoint.  The end that is known then waits, and it
is joined to the next end of the other kind, which a later passage tells.  So a path may lead
from the source of one passage to the sink of another.

* `Waiting`, `pairings` — the end that waits, and the passages from which each path takes its
  source, its sink and its details; `Passes` — what one passage can do;
* `Orderly` — the passages name known ends in such an order that no end meets a wrong one;
  **`pairings_of_orderlyAfter`** and **`orderlyAfter_of_pairings`** — this is so exactly when
  every path takes its source and its sink from one passage;
* `reading_pairings` — the paths that are read are those of the pairings;
* **`flows_within_passages_iff`** — what all this means for the flows of a text, and
  `flows_cross_passages`, a text from which a path is read that none of its passages tells.
-/

/-! ### Ends that wait -/

/-- The end that waits for its other end, with the passage that told it. -/
inductive Waiting (α : Type) where
  | nothing
  | source (a : α)
  | sink (a : α)

/-- The passages that told the source, the sink and the details of a path. -/
structure Pairing (α : Type) where
  source : α
  sink : α
  details : α

/-- All of the path was told by one passage. -/
def Pairing.of {α : Type} (a : α) : Pairing α := ⟨a, a, a⟩

namespace Waiting

variable {α : Type}

/-- A passage tells its source.  What is not known is passed over. -/
def onSource (known : Bool) (a : α) (w : Waiting α) : Waiting α × Option (Pairing α) :=
  match known, w with
  | false, w => (w, none)
  | true, sink b => (nothing, some ⟨a, b, a⟩)
  | true, _ => (source a, none)

/-- A passage tells its sink. -/
def onSink (known : Bool) (a : α) (w : Waiting α) : Waiting α × Option (Pairing α) :=
  match known, w with
  | false, w => (w, none)
  | true, source b => (nothing, some ⟨b, a, a⟩)
  | true, _ => (sink a, none)

end Waiting

section Pairings

variable {α : Type} (knowsSource knowsSink : α → Bool)

/-- One more passage: what waits after it, and the paths that it completes. -/
def pass (w : Waiting α) (a : α) : Waiting α × List (Pairing α) :=
  let first := w.onSource (knowsSource a) a
  let second := first.1.onSink (knowsSink a) a
  (second.1, first.2.toList ++ second.2.toList)

/-- The pairings of passages, in the order of the paths. -/
def pairings (w : Waiting α) : List α → List (Pairing α)
  | [] => []
  | a :: as =>
    (pass knowsSource knowsSink w a).2 ++ pairings (pass knowsSource knowsSink w a).1 as

/-- What one passage can do: nothing, let an end wait, or complete a path with an end of its own or
    with the end that waits. -/
inductive Passes (a : α) : Waiting α → Waiting α → List (Pairing α) → Prop
  | unnamed (hsource : knowsSource a = false) (hsink : knowsSink a = false) (w : Waiting α) :
      Passes a w w []
  | sourceWaits (hsource : knowsSource a = true) (hsink : knowsSink a = false) {w : Waiting α}
      (hw : ∀ b, w ≠ .sink b) : Passes a w (.source a) []
  | sourceMeets (hsource : knowsSource a = true) (hsink : knowsSink a = false) (b : α) :
      Passes a (.sink b) .nothing [⟨a, b, a⟩]
  | sinkWaits (hsource : knowsSource a = false) (hsink : knowsSink a = true) {w : Waiting α}
      (hw : ∀ b, w ≠ .source b) : Passes a w (.sink a) []
  | sinkMeets (hsource : knowsSource a = false) (hsink : knowsSink a = true) (b : α) :
      Passes a (.source b) .nothing [⟨b, a, a⟩]
  | whole (hsource : knowsSource a = true) (hsink : knowsSink a = true) {w : Waiting α}
      (hw : ∀ b, w ≠ .sink b) : Passes a w .nothing [.of a]
  | shifted (hsource : knowsSource a = true) (hsink : knowsSink a = true) (b : α) :
      Passes a (.sink b) (.sink a) [⟨a, b, a⟩]

/-- What a passage does is one of these, by what it knows and what waits. -/
theorem passes_pass (w : Waiting α) (a : α) :
    Passes knowsSource knowsSink a w (pass knowsSource knowsSink w a).1
      (pass knowsSource knowsSink w a).2 := by
  cases hsource : knowsSource a <;> cases hsink : knowsSink a <;>
    simp only [pass, hsource, hsink]
  · cases w <;> exact .unnamed hsource hsink _
  · cases w with
    | nothing | sink b => exact .sinkWaits hsource hsink (by simp)
    | source b => exact .sinkMeets hsource hsink b
  · cases w with
    | nothing | source b => exact .sourceWaits hsource hsink (by simp)
    | sink b => exact .sourceMeets hsource hsink b
  · cases w with
    | nothing | source b => exact .whole hsource hsink (by simp)
    | sink b => exact .shifted hsource hsink b

/-! ### Passages in order -/

/-- The passage names a known end. -/
def named (a : α) : Bool := knowsSource a || knowsSink a

/-- The passage names a known source and no known sink. -/
def onlySource (a : α) : Bool := knowsSource a && !knowsSink a

/-- The passage names a known sink and no known source. -/
def onlySink (a : α) : Bool := !knowsSource a && knowsSink a

/-- No passage after one with a known sink only names a known source; and of the passages that name
    any known end, none with a source only stands right before one with a sink only. -/
structure Orderly (as : List α) : Prop where
  no_source_later : as.Pairwise fun a b =>
    onlySink knowsSource knowsSink a = true → knowsSource b = false
  no_sink_next : (as.filter (named knowsSource knowsSink)).IsChain fun a b =>
    onlySource knowsSource knowsSink a = true → onlySink knowsSource knowsSink b = false

/-- The first passage that names a known end does not name a sink only. -/
def NoSinkNext (as : List α) : Prop :=
  ∀ b ∈ (as.filter (named knowsSource knowsSink)).head?, onlySink knowsSource knowsSink b = false

/-- Passages in order, after what waits. -/
def OrderlyAfter (as : List α) : Waiting α → Prop
  | .nothing => Orderly knowsSource knowsSink as
  | .source _ => Orderly knowsSource knowsSink as ∧ NoSinkNext knowsSource knowsSink as
  | .sink _ => ∀ b ∈ as, knowsSource b = false

/-- What waits was left by a passage with no other known end. -/
def Lone : Waiting α → Prop
  | .nothing => True
  | .source a => onlySource knowsSource knowsSink a = true
  | .sink a => onlySink knowsSource knowsSink a = true

variable {knowsSource knowsSink} {a : α} {as : List α} {w : Waiting α}

theorem noSinkNext_cons_of_named (h : named knowsSource knowsSink a = true) :
    NoSinkNext knowsSource knowsSink (a :: as) ↔ onlySink knowsSource knowsSink a = false := by
  rw [NoSinkNext, List.filter_cons_of_pos h, List.head?_cons]
  exact ⟨fun hall => hall a rfl, fun ha b hb => by cases hb; exact ha⟩

theorem noSinkNext_cons_of_not_named (h : ¬ named knowsSource knowsSink a = true) :
    NoSinkNext knowsSource knowsSink (a :: as) ↔ NoSinkNext knowsSource knowsSink as := by
  rw [NoSinkNext, NoSinkNext, List.filter_cons_of_neg h]

/-- Passages are in order when those after the first are, and none of them is taken for its other
    end. -/
theorem orderly_cons :
    Orderly knowsSource knowsSink (a :: as) ↔
      Orderly knowsSource knowsSink as ∧
      (onlySink knowsSource knowsSink a = true → ∀ b ∈ as, knowsSource b = false) ∧
      (onlySource knowsSource knowsSink a = true → NoSinkNext knowsSource knowsSink as) := by
  -- A passage with a source only does name a known end.
  have hlone (ha : onlySource knowsSource knowsSink a = true) :
      named knowsSource knowsSink a = true := by
    rw [onlySource, Bool.and_eq_true] at ha
    rw [named, ha.1, Bool.true_or]
  constructor
  · rintro ⟨hlater, hnext⟩
    obtain ⟨hfirst, hrest⟩ := List.pairwise_cons.mp hlater
    refine ⟨⟨hrest, ?_⟩, fun ha b hb => hfirst b hb ha, fun ha => ?_⟩
    · by_cases hnamed : named knowsSource knowsSink a = true
      · rw [List.filter_cons_of_pos hnamed, List.isChain_cons] at hnext
        exact hnext.2
      · rwa [List.filter_cons_of_neg hnamed] at hnext
    · rw [List.filter_cons_of_pos (hlone ha), List.isChain_cons] at hnext
      exact fun b hb => hnext.1 b hb ha
  · rintro ⟨⟨hlater, hnext⟩, hsource, hsink⟩
    refine ⟨List.pairwise_cons.mpr ⟨fun b hb ha => hsource ha b hb, hlater⟩, ?_⟩
    by_cases hnamed : named knowsSource knowsSink a = true
    · rw [List.filter_cons_of_pos hnamed, List.isChain_cons]
      exact ⟨fun b hb ha => hsink ha b hb, hnext⟩
    · rwa [List.filter_cons_of_neg hnamed]

/-- Passages that follow on anything but a sink are in order by themselves. -/
theorem OrderlyAfter.orderly (h : OrderlyAfter knowsSource knowsSink as w)
    (hw : ∀ b, w ≠ .sink b) : Orderly knowsSource knowsSink as := by
  cases w with
  | nothing => exact h
  | source b => exact h.1
  | sink b => exact absurd rfl (hw b)

/-- A passage in order is paired with nothing but itself. -/
theorem pass_of_orderlyAfter (h : OrderlyAfter knowsSource knowsSink (a :: as) w) :
    OrderlyAfter knowsSource knowsSink as (pass knowsSource knowsSink w a).1 ∧
      (pass knowsSource knowsSink w a).2 =
        if knowsSource a && knowsSink a then [Pairing.of a] else [] := by
  have hpass := passes_pass knowsSource knowsSink w a
  generalize (pass knowsSource knowsSink w a).1 = w' at hpass ⊢
  generalize (pass knowsSource knowsSink w a).2 = new at hpass ⊢
  -- In order, the cases in which two passages are joined do not occur.
  cases hpass with
  | unnamed hsource hsink =>
    have hnamed : ¬ named knowsSource knowsSink a = true := by simp [named, hsource, hsink]
    refine ⟨?_, by rw [hsource]; rfl⟩
    cases w with
    | nothing => exact (orderly_cons.mp h).1
    | source b => exact ⟨(orderly_cons.mp h.1).1, (noSinkNext_cons_of_not_named hnamed).mp h.2⟩
    | sink b => exact (List.forall_mem_cons.mp h).2
  | sourceWaits hsource hsink hw =>
    obtain ⟨hrest, -, hnext⟩ := orderly_cons.mp (h.orderly hw)
    exact ⟨⟨hrest, hnext (by simp [onlySource, hsource, hsink])⟩, by rw [hsource, hsink]; rfl⟩
  | sourceMeets hsource hsink b | shifted hsource hsink b =>
    -- After a lone sink there are no known sources.
    have hnone := (List.forall_mem_cons.mp h).1
    rw [hsource] at hnone
    cases hnone
  | sinkWaits hsource hsink hw =>
    refine ⟨?_, by rw [hsource]; rfl⟩
    cases w with
    | nothing => exact (orderly_cons.mp h).2.1 (by simp [onlySink, hsource, hsink])
    | source b => exact absurd rfl (hw b)
    | sink b => exact (List.forall_mem_cons.mp h).2
  | sinkMeets hsource hsink b =>
    -- After a lone source the next known end is no lone sink.
    have hnamed : named knowsSource knowsSink a = true := by simp [named, hsink]
    have hnot := (noSinkNext_cons_of_named hnamed).mp h.2
    simp [onlySink, hsource, hsink] at hnot
  | whole hsource hsink hw =>
    exact ⟨(orderly_cons.mp (h.orderly hw)).1, by rw [hsource, hsink]; rfl⟩

/-- **Passages in order are paired with themselves**: those that name two known ends, in turn. -/
theorem pairings_of_orderlyAfter (h : OrderlyAfter knowsSource knowsSink as w) :
    pairings knowsSource knowsSink w as =
      (as.filter fun a => knowsSource a && knowsSink a).map Pairing.of := by
  induction as generalizing w with
  | nil => rfl
  | cons a as ih =>
    obtain ⟨hafter, hnew⟩ := pass_of_orderlyAfter h
    rw [pairings, ih hafter, hnew, List.filter_cons]
    split <;> rfl

/-- Passages without known sources are in order. -/
theorem orderly_of_no_source (h : ∀ b ∈ as, knowsSource b = false) :
    Orderly knowsSource knowsSink as := by
  induction as with
  | nil => exact ⟨.nil, .nil⟩
  | cons a as ih =>
    obtain ⟨ha, hrest⟩ := List.forall_mem_cons.mp h
    refine orderly_cons.mpr ⟨ih hrest, fun _ => hrest, fun hlone => ?_⟩
    simp [onlySource, ha] at hlone

/-- A passage that joins no two passages keeps what waits lone, and it is in order if those after it
    are. -/
theorem orderlyAfter_cons_of_pass (hlone : Lone knowsSource knowsSink w)
    (hsame : ∀ π ∈ (pass knowsSource knowsSink w a).2, π.source = π.sink) :
    Lone knowsSource knowsSink (pass knowsSource knowsSink w a).1 ∧
      (OrderlyAfter knowsSource knowsSink as (pass knowsSource knowsSink w a).1 →
        OrderlyAfter knowsSource knowsSink (a :: as) w) := by
  have hpass := passes_pass knowsSource knowsSink w a
  generalize (pass knowsSource knowsSink w a).1 = w' at hpass ⊢
  generalize (pass knowsSource knowsSink w a).2 = new at hpass hsame
  cases hpass with
  | unnamed hsource hsink =>
    have hnamed : ¬ named knowsSource knowsSink a = true := by simp [named, hsource, hsink]
    have hcons : Orderly knowsSource knowsSink as → Orderly knowsSource knowsSink (a :: as) :=
      fun h => orderly_cons.mpr ⟨h, by simp [onlySink, hsink], by simp [onlySource, hsource]⟩
    refine ⟨hlone, fun h => ?_⟩
    cases w with
    | nothing => exact hcons h
    | source b => exact ⟨hcons h.1, (noSinkNext_cons_of_not_named hnamed).mpr h.2⟩
    | sink b => exact List.forall_mem_cons.mpr ⟨hsource, h⟩
  | sourceWaits hsource hsink hw =>
    have hnamed : named knowsSource knowsSink a = true := by simp [named, hsource]
    have hnot : onlySink knowsSource knowsSink a = false := by simp [onlySink, hsource]
    refine ⟨by simp [Lone, onlySource, hsource, hsink], fun h => ?_⟩
    have hcons : Orderly knowsSource knowsSink (a :: as) :=
      orderly_cons.mpr ⟨h.1, by simp [hnot], fun _ => h.2⟩
    cases w with
    | nothing => exact hcons
    | source b => exact ⟨hcons, (noSinkNext_cons_of_named hnamed).mpr hnot⟩
    | sink b => exact absurd rfl (hw b)
  | sourceMeets hsource hsink b | shifted hsource hsink b =>
    -- A sink that waits came with no known source, so it is the sink of another passage.
    obtain rfl : a = b := hsame _ (List.mem_singleton_self _)
    simp [Lone, onlySink, hsource] at hlone
  | sinkWaits hsource hsink hw =>
    refine ⟨by simp [Lone, onlySink, hsource, hsink], fun h => ?_⟩
    cases w with
    | nothing =>
      exact orderly_cons.mpr
        ⟨orderly_of_no_source h, fun _ => h, by simp [onlySource, hsource]⟩
    | source b => exact absurd rfl (hw b)
    | sink b => exact List.forall_mem_cons.mpr ⟨hsource, h⟩
  | sinkMeets hsource hsink b =>
    -- A source that waits came with no known sink, so it is the source of another passage.
    obtain rfl : b = a := hsame _ (List.mem_singleton_self _)
    simp [Lone, onlySource, hsource] at hlone
  | whole hsource hsink hw =>
    have hnamed : named knowsSource knowsSink a = true := by simp [named, hsource]
    have hnot : onlySink knowsSource knowsSink a = false := by simp [onlySink, hsource]
    refine ⟨trivial, fun h => ?_⟩
    have hcons : Orderly knowsSource knowsSink (a :: as) :=
      orderly_cons.mpr ⟨h, by simp [hnot], by simp [onlySource, hsink]⟩
    cases w with
    | nothing => exact hcons
    | source b => exact ⟨hcons, (noSinkNext_cons_of_named hnamed).mpr hnot⟩
    | sink b => exact absurd rfl (hw b)

/-- **Where no two passages are joined, they are in order.** -/
theorem orderlyAfter_of_pairings (hlone : Lone knowsSource knowsSink w)
    (hsame : ∀ π ∈ pairings knowsSource knowsSink w as, π.source = π.sink) :
    OrderlyAfter knowsSource knowsSink as w := by
  induction as generalizing w with
  | nil =>
    cases w with
    | nothing => exact ⟨.nil, .nil⟩
    | source a => exact ⟨⟨.nil, .nil⟩, nofun⟩
    | sink a => exact List.forall_mem_nil _
  | cons a as ih =>
    rw [pairings, List.forall_mem_append] at hsame
    obtain ⟨hnext, hback⟩ := orderlyAfter_cons_of_pass hlone hsame.1
    exact hback (ih hnext hsame.2)

/-- A passage completes one path at most, and the details of the path are its own. -/
theorem details_pass (w : Waiting α) (a : α) :
    ((pass knowsSource knowsSink w a).2.map (·.details)).Sublist [a] := by
  have hpass := passes_pass knowsSource knowsSink w a
  generalize (pass knowsSource knowsSink w a).1 = w' at hpass
  generalize (pass knowsSource knowsSink w a).2 = new at hpass ⊢
  cases hpass with
  | unnamed | sourceWaits | sinkWaits => exact List.nil_sublist _
  | sourceMeets | sinkMeets | whole | shifted => exact List.Sublist.refl _

/-- No two paths have the details of one passage. -/
theorem details_pairings (w : Waiting α) (as : List α) :
    ((pairings knowsSource knowsSink w as).map (·.details)).Sublist as := by
  induction as generalizing w with
  | nil => exact .slnil
  | cons a as ih =>
    rw [pairings, List.map_append]
    exact (details_pass w a).append (ih _)

/-- Whether passages are in order is a matter of what they know. -/
theorem orderly_map {β : Type} (f : β → α) {bs : List β} :
    Orderly knowsSource knowsSink (bs.map f) ↔
      Orderly (fun b => knowsSource (f b)) (fun b => knowsSink (f b)) bs := by
  induction bs with
  | nil => exact ⟨fun _ => ⟨.nil, .nil⟩, fun _ => ⟨.nil, .nil⟩⟩
  | cons b bs ih =>
    -- The first passage with a known end is the image of the first such one.
    have hnext : NoSinkNext knowsSource knowsSink (bs.map f) ↔
        NoSinkNext (fun b => knowsSource (f b)) (fun b => knowsSink (f b)) bs := by
      rw [NoSinkNext, NoSinkNext, List.filter_map, List.head?_map]
      simp only [Option.mem_def, Option.map_eq_some_iff, forall_exists_index, and_imp,
        forall_apply_eq_imp_iff₂]
      exact Iff.rfl
    rw [List.map_cons, orderly_cons, orderly_cons, ih, hnext, List.forall_mem_map]
    exact Iff.rfl

end Pairings

/-! ### Drafts that wait -/

/-- A passage and its place in the text. -/
abbrev Placed := Passage × Nat

namespace Passage

/-- The source that the passage names. -/
def source? (sources : List Endpoint) (p : Passage) : Option Endpoint :=
  resolve p.source.toList sources

/-- The sink that the passage names. -/
def sink? (sinks : List Endpoint) (p : Passage) : Option Endpoint :=
  resolve p.sink.toList sinks

/-- Does the passage name a known source? -/
def knowsSource (sources : List Endpoint) (p : Passage) : Bool := (p.source? sources).isSome

/-- Does the passage name a known sink? -/
def knowsSink (sinks : List Endpoint) (p : Passage) : Bool := (p.sink? sinks).isSome

/-- The kind of vulnerability that the passage tells for a sink. -/
def vulnerabilityAt (sink : Endpoint) (p : Passage) : String :=
  if p.vulnerability.isEmpty then (Lexicon.profile sink.category).vulnerabilityType
  else p.vulnerability

end Passage

section Drafts

variable (sources sinks : List Endpoint)

/-- The pairings of the passages of a text. -/
def passagePairings (w : Waiting Placed) (as : List Placed) : List (Pairing Placed) :=
  pairings (fun a => a.1.knowsSource sources) (fun a => a.1.knowsSink sinks) w as

/-- The passages name known endpoints in order. -/
def InOrder (ps : List Passage) : Prop :=
  Orderly (Passage.knowsSource sources) (Passage.knowsSink sinks) ps

/-- The path has the source, the sink and the details that the passages of the pairing told. -/
structure Backs (π : Pairing Placed) (path : FlowPath) : Prop where
  source : π.source.1.source? sources = some path.source
  sink : π.sink.1.sink? sinks = some path.sink
  vulnerabilityType : path.vulnerabilityType = π.details.1.vulnerabilityAt path.sink
  impact : path.impact = (Impact.ofLabel? π.details.1.impact).getD .medium
  description : path.description = π.details.1.description

/-- The draft knows the end that waits and no other one. -/
def Keeping (d : Draft) : Waiting Placed → Prop
  | .nothing => d.source = none ∧ d.sink = none
  | .source a => (∃ e, a.1.source? sources = some e ∧ d.source = some e) ∧ d.sink = none
  | .sink a => d.source = none ∧ ∃ e, a.1.sink? sinks = some e ∧ d.sink = some e

/-- The draft has the details of a passage. -/
structure Draft.Tells (d : Draft) (p : Passage) : Prop where
  vulnerability : d.vulnerability = some p.vulnerability
  impact : d.impact = Impact.ofLabel? p.impact
  description : d.description = some p.description

end Drafts

variable {sources sinks : List Endpoint} {d : Draft} {w : Waiting Placed}

/-- A draft that waits for an end is no path yet. -/
theorem Keeping.path?_eq_none (h : Keeping sources sinks d w) : d.path? = none := by
  rw [path?_eq_none_iff]
  cases w with
  | nothing => exact .inl h.1
  | source a => exact .inr h.2
  | sink a => exact .inl h.1

/-- The details of a passage leave what waits. -/
theorem Keeping.told (h : Keeping sources sinks d w) (p : Passage) :
    Keeping sources sinks (d.told p) w := by
  cases w <;> exact h

/-- A draft has the details that it was told last. -/
theorem Draft.tells_told (d : Draft) (p : Passage) : (d.told p).Tells p := ⟨rfl, rfl, rfl⟩

/-- A draft with both ends is a path with the details of the passage that was told last. -/
theorem path?_of_tells {a b c : Placed} {s t : Endpoint} (hd : d.Tells c.1)
    (hs : d.source = some s) (ht : d.sink = some t) (ha : a.1.source? sources = some s)
    (hb : b.1.sink? sinks = some t) :
    ∃ path, d.path? = some path ∧ Backs sources sinks ⟨a, b, c⟩ path := by
  rw [Draft.path?, hs, ht]
  refine ⟨_, rfl, ha, hb, ?_, ?_, ?_⟩
  · simp only [hd.vulnerability, Passage.vulnerabilityAt]
  · simp only [hd.impact]
  · simp only [hd.description, Option.getD_some]

/-- The source of a passage is joined to a sink that waits, or it waits itself. -/
theorem step_source {a : Placed} (hw : Keeping sources sinks d w) (hd : d.Tells a.1) :
    let next := step sources sinks d (.source, a.1.source.toList)
    let told := w.onSource (a.1.knowsSource sources) a
    Keeping sources sinks next.1 told.1 ∧
      List.Forall₂ (Backs sources sinks) told.2.toList next.2.toList ∧
      (∀ b, told.1 = .source b → next.1.Tells a.1) := by
  intro next told
  cases hres : a.1.source? sources with
  | none =>
    have hknows : a.1.knowsSource sources = false := by
      rw [Passage.knowsSource, hres, Option.isSome_none]
    have hmark : d.mark sources sinks .source a.1.source.toList = d := by
      rw [Draft.mark, show resolve a.1.source.toList sources = none from hres, Option.none_or]
    -- An unknown name changes neither the draft nor what waits.
    have hnext : next = (d, none) := by
      simp only [next, step, hmark, hw.path?_eq_none]
    have htold : told = (w, none) := by
      simp only [told, hknows]
      rfl
    rw [hnext, htold]
    exact ⟨hw, .nil, fun _ _ => hd⟩
  | some e =>
    have hknows : a.1.knowsSource sources = true := by
      rw [Passage.knowsSource, hres, Option.isSome_some]
    have hmark : d.mark sources sinks .source a.1.source.toList = { d with source := some e } := by
      rw [Draft.mark, show resolve a.1.source.toList sources = some e from hres, Option.some_or]
    have hd' : Draft.Tells { d with source := some e } a.1 := ⟨hd.1, hd.2, hd.3⟩
    cases w with
    | nothing | source b =>
      have hnone : Draft.path? { d with source := some e } = none :=
        path?_eq_none_iff.mpr (.inr hw.2)
      have hnext : next = ({ d with source := some e }, none) := by
        simp only [next, step, hmark, hnone]
      have htold : told = (.source a, none) := by
        simp only [told, hknows]
        rfl
      rw [hnext, htold]
      exact ⟨⟨⟨e, hres, rfl⟩, hw.2⟩, .nil, fun _ _ => hd'⟩
    | sink b =>
      -- The sink of an earlier passage has been waiting for this source.
      obtain ⟨-, t, ht, hsink⟩ := hw
      obtain ⟨path, hpath, hbacks⟩ := path?_of_tells hd' rfl hsink hres ht
      have hnext : next = ({}, some path) := by
        simp only [next, step, hmark, hpath]
      have htold : told = (.nothing, some ⟨a, b, a⟩) := by
        simp only [told, hknows]
        rfl
      rw [hnext, htold]
      exact ⟨⟨rfl, rfl⟩, .cons hbacks .nil, fun _ h => by cases h⟩

/-- The sink of a passage is joined to a source that waits, or it waits itself. -/
theorem step_sink {a : Placed} (hw : Keeping sources sinks d w)
    (hd : ∀ b, w = .source b → d.Tells a.1) :
    let next := step sources sinks d (.sink, a.1.sink.toList)
    let told := w.onSink (a.1.knowsSink sinks) a
    Keeping sources sinks next.1 told.1 ∧
      List.Forall₂ (Backs sources sinks) told.2.toList next.2.toList := by
  intro next told
  cases hres : a.1.sink? sinks with
  | none =>
    have hknows : a.1.knowsSink sinks = false := by
      rw [Passage.knowsSink, hres, Option.isSome_none]
    have hmark : d.mark sources sinks .sink a.1.sink.toList = d := by
      rw [Draft.mark, show resolve a.1.sink.toList sinks = none from hres, Option.none_or]
    have hnext : next = (d, none) := by
      simp only [next, step, hmark, hw.path?_eq_none]
    have htold : told = (w, none) := by
      simp only [told, hknows]
      rfl
    rw [hnext, htold]
    exact ⟨hw, .nil⟩
  | some e =>
    have hknows : a.1.knowsSink sinks = true := by
      rw [Passage.knowsSink, hres, Option.isSome_some]
    have hmark : d.mark sources sinks .sink a.1.sink.toList = { d with sink := some e } := by
      rw [Draft.mark, show resolve a.1.sink.toList sinks = some e from hres, Option.some_or]
    cases w with
    | nothing | sink b =>
      have hnone : Draft.path? { d with sink := some e } = none :=
        path?_eq_none_iff.mpr (.inl hw.1)
      have hnext : next = ({ d with sink := some e }, none) := by
        simp only [next, step, hmark, hnone]
      have htold : told = (.sink a, none) := by
        simp only [told, hknows]
        rfl
      rw [hnext, htold]
      exact ⟨⟨hw.1, e, hres, rfl⟩, .nil⟩
    | source b =>
      -- The source waits, be it of this passage or of an earlier one.
      obtain ⟨⟨s, hs, hsource⟩, -⟩ := hw
      have hd' : Draft.Tells { d with sink := some e } a.1 :=
        ⟨(hd b rfl).1, (hd b rfl).2, (hd b rfl).3⟩
      obtain ⟨path, hpath, hbacks⟩ := path?_of_tells hd' hsource rfl hs hres
      have hnext : next = ({}, some path) := by
        simp only [next, step, hmark, hpath]
      have htold : told = (.nothing, some ⟨b, a, a⟩) := by
        simp only [told, hknows]
        rfl
      rw [hnext, htold]
      exact ⟨⟨rfl, rfl⟩, .cons hbacks .nil⟩

/-- **The paths that are read are those of the pairings.** -/
theorem reading_pairings (hw : Keeping sources sinks d w) (as : List Placed) :
    List.Forall₂ (Backs sources sinks) (passagePairings sources sinks w as)
      (reading sources sinks d (as.flatMap fun a => a.1.marks)) := by
  induction as generalizing d w with
  | nil => exact .nil
  | cons a as ih =>
    -- A passage tells its details, then its source and then its sink.
    obtain ⟨hfirst, hsources, htells⟩ := step_source (hw.told a.1) (d.tells_told a.1)
    obtain ⟨hsecond, hsinks⟩ := step_sink hfirst htells
    rw [List.flatMap_cons, Passage.marks, List.append_assoc,
      reading_details hw.path?_eq_none, List.cons_append, List.singleton_append, reading,
      reading, passagePairings, pairings, pass, List.append_assoc]
    exact List.rel_append hsources (List.rel_append hsinks (ih hsecond))

theorem passages_eq (ps : List Passage) : ps.zipIdx.map Prod.fst = ps := List.zipIdx_map_fst 0 ps

/-- The places of passages do not matter for their order. -/
theorem inOrder_iff (ps : List Passage) :
    InOrder sources sinks ps ↔
      OrderlyAfter (fun a : Placed => a.1.knowsSource sources) (fun a => a.1.knowsSink sinks)
        ps.zipIdx .nothing := by
  rw [OrderlyAfter, ← orderly_map Prod.fst, passages_eq, InOrder]

/-- **A path stays within a passage exactly when the passages are in order.**  Whatever endpoints
    are given and whatever the passages of a text name, each path has the source, the sink and the
    details that the passages of its pairing told.  No two paths have the details of one passage,
    so there are no more paths than passages.  All paths take their source, their sink and their
    details from one passage each if and only if the passages are in order, and then they are the
    paths of the passages that name two known ends. -/
theorem flows_within_passages_iff (text : String) (sources sinks : List Endpoint)
    (ps : List Passage) (hmarks : marks text.toList = ps.flatMap Passage.marks) :
    let joined := passagePairings sources sinks .nothing ps.zipIdx
    List.Forall₂ (Backs sources sinks) joined (flows text sources sinks) ∧
      ((joined.map (·.details)).Sublist ps.zipIdx ∧
        (flows text sources sinks).length ≤ ps.length) ∧
      ((∀ π ∈ joined, π.source = π.sink ∧ π.sink = π.details) ↔ InOrder sources sinks ps) ∧
      (InOrder sources sinks ps →
        List.Forall₂ (fun a => Backs sources sinks (Pairing.of a))
          (ps.zipIdx.filter fun a => a.1.knowsSource sources && a.1.knowsSink sinks)
          (flows text sources sinks)) := by
  intro joined
  have hread : List.Forall₂ (Backs sources sinks) joined (flows text sources sinks) := by
    have hplaced : ps.flatMap Passage.marks = ps.zipIdx.flatMap fun a => a.1.marks := by
      rw [← List.flatMap_map Prod.fst Passage.marks, passages_eq]
    have hempty : Keeping sources sinks {} .nothing := ⟨rfl, rfl⟩
    rw [flows_eq_reading, hmarks, hplaced]
    exact reading_pairings hempty ps.zipIdx
  have hdetails : (joined.map (·.details)).Sublist ps.zipIdx := details_pairings .nothing ps.zipIdx
  have hself (h : InOrder sources sinks ps) :
      joined = (ps.zipIdx.filter fun a => a.1.knowsSource sources && a.1.knowsSink sinks).map
        Pairing.of :=
    pairings_of_orderlyAfter ((inOrder_iff ps).mp h)
  refine ⟨hread, ⟨hdetails, ?_⟩, ⟨fun hsame => ?_, fun h π hπ => ?_⟩, fun h => ?_⟩
  · have hlength := hdetails.length_le
    rwa [List.length_map, hread.length_eq, List.length_zipIdx] at hlength
  · have hlone : Lone (fun a : Placed => a.1.knowsSource sources) (fun a => a.1.knowsSink sinks)
        .nothing := trivial
    exact (inOrder_iff ps).mpr (orderlyAfter_of_pairings hlone fun π hπ => (hsame π hπ).1)
  · rw [hself h] at hπ
    obtain ⟨a, -, rfl⟩ := List.mem_map.mp hπ
    exact ⟨rfl, rfl⟩
  · rw [hself h] at hread
    exact List.forall₂_map_left_iff.mp hread

/-- The text with the given lines. -/
def ofLines (ls : List String) : String := String.ofList (['\n'].intercalate (ls.map (·.toList)))

/-- The marks of a text are those of its lines. -/
theorem marks_ofLines {ls : List String} (h : ∀ line ∈ ls, '\n' ∉ line.toList) :
    marks (ofLines ls).toList = ls.filterMap fun line => markerLine? line.toList := by
  rw [ofLines, String.toList_ofList, marks_joined (List.forall_mem_map.mpr h), List.filterMap_map]
  rfl

/-- Unknown names, in passages that are in order: a lone source before a whole flow, and a lone sink
    at the end. -/
theorem flows_within_passages_iff_inOrder :
    let read : Endpoint := { nodeId := 1, name := "read", category := .configuration }
    let store : Endpoint := { nodeId := 2, name := "store", category := .databaseWrite }
    let ps : List Passage := [⟨"A", "high", "", [], "read", "mystery"⟩,
      ⟨"B", "low", "b", ["check"], "read", "store"⟩, ⟨"C", "high", "", [], "x", "store"⟩]
    let text := ofLines ["Vulnerability: A", "Impact: high", "Description:", "Source: read",
      "Sink: mystery", "Vulnerability: B", "Impact: low", "Description: b",
      "Recommendation: check", "Source: read", "Sink: store", "Vulnerability: C", "Impact: high",
      "Description:", "Source: x", "Sink: store"]
    (marks text.toList = ps.flatMap Passage.marks ∧ InOrder [read] [store] ps) ∧
      List.Forall₂ (fun a => Backs [read] [store] (Pairing.of a))
        [(⟨"B", "low", "b", ["check"], "read", "store"⟩, 1)] (flows text [read] [store]) := by
  intro read store ps text
  have hmarks : marks text.toList = ps.flatMap Passage.marks := by
    rw [marks_ofLines (by decide +kernel)]
    decide +kernel
  have horder : InOrder [read] [store] ps := ⟨by decide +kernel, by decide +kernel⟩
  have hwhole : (ps.zipIdx.filter fun a => a.1.knowsSource [read] && a.1.knowsSink [store]) =
      [(⟨"B", "low", "b", ["check"], "read", "store"⟩, 1)] := by
    decide +kernel
  have hpaths := (flows_within_passages_iff text [read] [store] ps hmarks).2.2.2 horder
  rw [hwhole] at hpaths
  exact ⟨⟨hmarks, horder⟩, hpaths⟩

/-- A lone sink before a whole flow: the only path leads from the source of the second passage to
    the sink of the first one, and neither of them tells it. -/
theorem flows_cross_passages :
    let read : Endpoint := { nodeId := 1, name := "read_config", category := .configuration }
    let query : Endpoint := { nodeId := 2, name := "execute_query", category := .databaseWrite }
    let page : Endpoint := { nodeId := 3, name := "render_page", category := .markupRendering }
    let ps : List Passage := [⟨"SQL Injection", "high", "a", [], "mystery", "execute_query"⟩,
      ⟨"Cross-Site Scripting", "low", "b", [], "read_config", "render_page"⟩]
    let text := ofLines ["Vulnerability: SQL Injection", "Impact: high", "Description: a",
      "Source: mystery", "Sink: execute_query", "Vulnerability: Cross-Site Scripting",
      "Impact: low", "Description: b", "Source: read_config", "Sink: render_page", ""]
    marks text.toList = ps.flatMap Passage.marks ∧
      ∃ path ∈ flows text [read] [query, page],
        ∀ p ∈ ps, ¬ (p.source? [read] = some path.source ∧
          p.sink? [query, page] = some path.sink) := by
  intro read query page ps text
  have hmarks : marks text.toList = ps.flatMap Passage.marks := by
    rw [marks_ofLines (by decide +kernel)]
    decide +kernel
  have hread : (flows text [read] [query, page]).map
      (fun path => (path.source.nodeId, path.sink.nodeId)) = [(1, 2)] := by
    rw [flows_eq_reading, hmarks]
    decide +kernel
  have htold : ∀ p ∈ ps, ¬ ((p.source? [read]).map (·.nodeId) = some 1 ∧
      (p.sink? [query, page]).map (·.nodeId) = some 2) := by
    decide +kernel
  obtain ⟨path, hpath, hids⟩ := List.mem_map.mp (hread ▸ List.mem_singleton_self (1, 2))
  refine ⟨hmarks, path, hpath, fun p hp ⟨hsource, hsink⟩ => htold p hp ?_⟩
  rw [hsource, hsink]
  exact ⟨congrArg some (Prod.mk.inj hids).1, congrArg some (Prod.mk.inj hids).2⟩

end TaintReview.Extraction
