import TaintReview.Proofs.Steps
import TaintReview.Review

namespace TaintReview

/-!
# Where flows begin and end

An analyzer is given sources and sinks, and every flow that it proposes leads from one of these
sources to one of these sinks: it carries the two endpoints themselves and not copies that were
read from an answer.

* `FlowPath.Joins sources sinks p` — the path `p` is of this kind;
* `Extraction.flows_joins` — the flows in a text are, whatever the text says;
* `Analyzer.JoinsOnly` — all flows of an analyzer are; both of the default analyzers satisfy this;
* `Review.synthesize_joins` — so are all flows of a review.
-/

/-- The path leads from one of the sources to one of the sinks. -/
def FlowPath.Joins (sources sinks : List Endpoint) (p : FlowPath) : Prop :=
  p.source ∈ sources ∧ p.sink ∈ sinks

/-- A path that joins some endpoints joins any larger lists of them. -/
theorem FlowPath.Joins.mono {sources sources' sinks sinks' : List Endpoint} {p : FlowPath}
    (h : p.Joins sources sinks) (hsources : sources ⊆ sources') (hsinks : sinks ⊆ sinks') :
    p.Joins sources' sinks' :=
  ⟨hsources h.1, hsinks h.2⟩

/-- All flows that the analyzer proposes join what it was given. -/
def Analyzer.JoinsOnly (a : Analyzer) : Prop :=
  ∀ sources sinks id s paths, (a.flows sources sinks id).value s = .ok paths →
    ∀ p ∈ paths, p.Joins sources sinks

/-! ### Flows in a text -/

namespace Extraction

variable {sources sinks : List Endpoint}

/-- The endpoint with the longest name is the one to begin with or one of the list. -/
theorem mem_of_foldl_longer {es : List Endpoint} {best : Option Endpoint} {e : Endpoint}
    (h : es.foldl longer best = some e) : best = some e ∨ e ∈ es := by
  induction es generalizing best with
  | nil => exact .inl h
  | cons x rest ih =>
    rw [List.mem_cons]
    obtain hlonger | hrest := ih h
    · -- The longer of two is one of the two.
      cases best with
      | none => exact .inr (.inl (Option.some.inj hlonger).symm)
      | some b =>
        simp only [longer] at hlonger
        split at hlonger
        · exact .inl hlonger
        · exact .inr (.inl (Option.some.inj hlonger).symm)
    · exact .inr (.inr hrest)

/-- A name stands for one of the endpoints or for none. -/
theorem mem_of_resolve {value : List Char} {es : List Endpoint} {e : Endpoint}
    (h : resolve value es = some e) : e ∈ es := by
  simp only [resolve] at h
  split at h
  · cases h
  · split at h
    · next found hfind =>
      rw [← Option.some.inj h]
      exact List.mem_of_find?_eq_some hfind
    · have hmem := (mem_of_foldl_longer h).resolve_left (Option.some_ne_none e).symm
      exact (List.mem_filter.mp hmem).1

/-- The ends that a draft knows are among the endpoints. -/
structure Draft.Within (sources sinks : List Endpoint) (d : Draft) : Prop where
  source : ∀ e ∈ d.source, e ∈ sources
  sink : ∀ e ∈ d.sink, e ∈ sinks

namespace Draft

/-- An empty draft knows no ends. -/
theorem within_empty (sources sinks : List Endpoint) : ({} : Draft).Within sources sinks where
  source e h := absurd h (Option.not_mem_none e)
  sink e h := absurd h (Option.not_mem_none e)

/-- A name replaces a known end by another endpoint or leaves it. -/
theorem mem_of_resolve_or {value : List Char} {es : List Endpoint} {known : Option Endpoint}
    (h : ∀ e ∈ known, e ∈ es) : ∀ e ∈ (resolve value es).or known, e ∈ es := by
  intro e he
  obtain hresolved | ⟨-, hknown⟩ := Option.or_eq_some_iff.mp he
  · exact mem_of_resolve hresolved
  · exact h e hknown

/-- A marker leaves a draft within the endpoints. -/
theorem Within.mark {d : Draft} (h : d.Within sources sinks) (marker : Marker)
    (value : List Char) : (d.mark sources sinks marker value).Within sources sinks := by
  -- Only the first two markers touch an end, and they take it from the endpoints.
  cases marker with
  | source => exact ⟨mem_of_resolve_or h.source, h.sink⟩
  | sink => exact ⟨h.source, mem_of_resolve_or h.sink⟩
  | vulnerability => exact ⟨h.source, h.sink⟩
  | description => exact ⟨h.source, h.sink⟩
  | impact => exact ⟨h.source, h.sink⟩
  | recommendation =>
    rw [Draft.mark]
    split
    · exact h
    · exact ⟨h.source, h.sink⟩

/-- A draft becomes a path between the ends that it knows. -/
theorem Within.joins {d : Draft} {p : FlowPath} (h : d.Within sources sinks)
    (hp : d.path? = some p) : p.Joins sources sinks := by
  rw [path?] at hp
  split at hp
  · next source sink hsource hsink =>
    cases hp
    exact ⟨h.source source hsource, h.sink sink hsink⟩
  · cases hp

end Draft

/-- Whatever the lines say, the draft keeps within the endpoints, and so does each path. -/
theorem flowsFrom_joins {d : Draft} (hd : d.Within sources sinks) (lines : List (List Char)) :
    ∀ p ∈ flowsFrom sources sinks d lines, p.Joins sources sinks := by
  induction lines generalizing d with
  | nil => exact List.forall_mem_nil _
  | cons line rest ih =>
    rw [flowsFrom]
    split
    · exact ih hd
    · next marker value _ =>
      -- The line either completes a path, and a fresh draft begins, or the draft goes on.
      have hmarked := hd.mark marker value
      dsimp only
      split
      · next path hpath =>
        exact List.forall_mem_cons.mpr
          ⟨hmarked.joins hpath, ih (Draft.within_empty sources sinks)⟩
      · exact ih hmarked

/-- **The flows in a text join the endpoints that were given.** -/
theorem flows_joins (text : String) (sources sinks : List Endpoint) :
    ∀ p ∈ flows text sources sinks, p.Joins sources sinks := by
  rw [flows]
  exact flowsFrom_joins (Draft.within_empty sources sinks) (Text.lines text.toList)

end Extraction

/-! ### Flows along call paths -/

namespace DocumentationAnalyzer

variable {settings : DocumentationSettings} {id : String} {s : Session}

/-- The path of a pair has the ends of the pair. -/
theorem ends_of_pathOf? {source sink : Endpoint} {ids : List NodeId} {p : FlowPath}
    (h : pathOf? settings source sink ids = some p) : (p.source, p.sink) = (source, sink) := by
  simp only [pathOf?] at h
  split at h
  · cases h
  · cases h
    rfl

theorem ends_of_pairFlow {source sink : Endpoint} {p : FlowPath}
    (h : (pairFlow settings id source sink).value s = some p) :
    (p.source, p.sink) = (source, sink) := by
  rw [pairFlow, SessionM.value_bind, Session.value_runQuery] at h
  split at h
  · obtain ⟨row, -, hrow⟩ := Option.bind_eq_some_iff.mp h
    exact ends_of_pathOf? hrow
  · cases h

/-- Each flow belongs to one of the pairs. -/
theorem pairFlows_ends (pairs : List (Endpoint × Endpoint)) (s : Session) :
    ∀ p ∈ (pairFlows settings id pairs).value s, (p.source, p.sink) ∈ pairs := by
  induction pairs generalizing s with
  | nil => exact List.forall_mem_nil _
  | cons pair rest ih =>
    rw [pairFlows, SessionM.value_bind, SessionM.value_bind, SessionM.value_pure]
    refine List.forall_mem_append.mpr ⟨fun p hp => ?_, fun p hp => ?_⟩
    · rw [ends_of_pairFlow (Option.mem_toList.mp hp)]
      exact List.mem_cons_self
    · exact List.mem_cons_of_mem _ (ih _ p hp)

theorem mem_pairs {sources sinks : List Endpoint} {source sink : Endpoint} :
    (source, sink) ∈ pairs sources sinks ↔ source ∈ sources ∧ sink ∈ sinks := by
  simp [pairs]

end DocumentationAnalyzer

/-- The flows of the documentation analyzer join what it was given. -/
theorem Analyzer.documentation_joinsOnly (settings : DocumentationSettings) :
    (Analyzer.documentation settings).JoinsOnly := by
  intro sources sinks id s paths h p hp
  change (DocumentationAnalyzer.flows settings sources sinks id).value s = .ok paths at h
  rw [DocumentationAnalyzer.flows] at h
  split at h
  · cases h
    cases hp
  · cases h
    exact DocumentationAnalyzer.mem_pairs.mp (DocumentationAnalyzer.pairFlows_ends _ _ p hp)

/-! ### Flows within files -/

namespace CompletionAnalyzer

variable {settings : CompletionSettings} {sources sinks : List Endpoint} {s : Session}

/-- The flows that are found in a file join its endpoints. -/
theorem fileFlows_joins {file : NodeId} {paths : List FlowPath}
    (h : (fileFlows settings file sources sinks).value s = .ok paths) :
    ∀ p ∈ paths, p.Joins sources sinks := by
  obtain ⟨_, -, h⟩ := ReviewM.bind_eq_ok.mp h
  obtain ⟨_, -, h⟩ := ReviewM.bind_eq_ok.mp h
  obtain ⟨answer, -, h⟩ := ReviewM.bind_eq_ok.mp h
  rw [← Except.ok.inj h]
  intro p hp
  obtain ⟨extracted, hextracted, rfl⟩ := List.mem_map.mp hp
  exact Extraction.flows_joins answer sources sinks extracted hextracted

/-- The flows that are found in several files join endpoints of these files. -/
theorem flowsByFile_joins (id : String) (files : List NodeId) (s : Session) :
    ∀ p ∈ (flowsByFile settings sources sinks id files).value s, p.Joins sources sinks := by
  induction files generalizing s with
  | nil => exact List.forall_mem_nil _
  | cons file rest ih =>
    rw [flowsByFile]
    split
    · exact ih s
    · rw [SessionM.value_bind, ReviewM.value_run, ReviewM.after_run]
      cases hfound :
          (fileFlows settings file (inFile file sources) (inFile file sinks)).value s with
      | error e => exact ih _
      | ok found =>
        -- The endpoints of a file are some of all endpoints.
        refine List.forall_mem_append.mpr ⟨fun p hp => ?_, ih _⟩
        exact (fileFlows_joins hfound p hp).mono List.filter_sublist.subset
          List.filter_sublist.subset

end CompletionAnalyzer

/-- The flows of the completion analyzer join what it was given. -/
theorem Analyzer.completion_joinsOnly (settings : CompletionSettings) :
    (Analyzer.completion settings).JoinsOnly := by
  intro sources sinks id s paths h p hp
  change (CompletionAnalyzer.flows settings sources sinks id).value s = .ok paths at h
  rw [CompletionAnalyzer.flows] at h
  split at h
  · cases h
    cases hp
  · cases h
    exact CompletionAnalyzer.flowsByFile_joins id _ s p hp

/-! ### Flows of a review -/

/-- **All flows of a review join its sources and its sinks.** -/
theorem Review.synthesize_joins {as : List Analyzer} (h : ∀ a ∈ as, a.JoinsOnly)
    (sources sinks : List Endpoint) (id : String) (s : Session) :
    ∀ p ∈ ((synthesize sources sinks id as).value s).1, p.Joins sources sinks := by
  induction as generalizing s with
  | nil => exact List.forall_mem_nil _
  | cons a rest ih =>
    obtain ⟨ha, hrest⟩ := List.forall_mem_cons.mp h
    rw [synthesize, SessionM.value_bind, ReviewM.value_run, ReviewM.after_run]
    cases hfound : (a.flows sources sinks id).value s with
    | error e => exact ih hrest _
    | ok found => exact List.forall_mem_append.mpr ⟨ha sources sinks id s found hfound, ih hrest _⟩

end TaintReview
