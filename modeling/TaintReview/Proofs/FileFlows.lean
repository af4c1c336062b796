import Mathlib.Data.List.Sort
import TaintReview.Graph.Handlers
import TaintReview.Proofs.Defaults
import TaintReview.Proofs.Entities
import TaintReview.Proofs.FlowEnds

namespace TaintReview.CompletionAnalyzer

/-!
# Flows are found file by file

The completion service is asked once for each file that has a source and a sink, and the flows of
all files are put together.  What is found in one file does not depend on the other files, nor on
what became of the questions about them.

* `sharedFiles` — the files with a source and a sink, in increasing order;
* `flowCall`, `flowsOf` — the question about one file, and the flows that the answer to it tells, as
  the services of a session would answer; `ToldBy` — what is meant by that;
* `fileFlows_found` — asking about one file, and **`flowsByFile_found`** — asking about all;
* `flows_eq_of_inFile_eq` — only the order of the endpoints within each file matters;
* **`flows_union_of_files`** — the flows of an investigation are those of its files.
-/

variable {settings : CompletionSettings} {sources sinks : List Endpoint} {file : NodeId}

/-! ### Files in order -/

/-- Putting in an identity adds that identity and no other. -/
theorem mem_insertId {id x : NodeId} {ids : List NodeId} :
    x ∈ insertId id ids ↔ x = id ∨ x ∈ ids := by
  induction ids with
  | nil => rw [insertId, List.mem_singleton, List.mem_nil_iff, or_false]
  | cons y rest ih =>
    rw [insertId]
    split
    · exact List.mem_cons
    · split
      · next heq =>
        subst heq
        rw [List.mem_cons, or_self_left]
      · rw [List.mem_cons, ih, List.mem_cons, or_left_comm]

/-- An increasing list stays increasing. -/
theorem pairwise_insertId {id : NodeId} {ids : List NodeId} (h : ids.Pairwise (· < ·)) :
    (insertId id ids).Pairwise (· < ·) := by
  induction ids with
  | nil => exact List.pairwise_singleton _ _
  | cons y rest ih =>
    obtain ⟨hfirst, hrest⟩ := List.pairwise_cons.mp h
    rw [insertId]
    split
    · next hlt =>
      refine List.pairwise_cons.mpr ⟨fun x hx => ?_, h⟩
      rcases List.mem_cons.mp hx with rfl | hx
      · exact hlt
      · exact Int64.lt_trans hlt (hfirst x hx)
    · next hnot =>
      split
      · exact h
      · next hne =>
        -- What is neither less nor equal is greater, so the identity belongs further on.
        have hlt : y < id := Int64.lt_of_le_of_ne (Int64.not_lt.mp hnot) (Ne.symm hne)
        refine List.pairwise_cons.mpr ⟨fun x hx => ?_, ih hrest⟩
        rcases mem_insertId.mp hx with rfl | hx
        · exact hlt
        · exact hfirst x hx

/-- Identities are put in one after the other. -/
theorem foldl_insertId (ids acc : List NodeId) (h : acc.Pairwise (· < ·)) :
    (ids.foldl (fun ids id => insertId id ids) acc).Pairwise (· < ·) ∧
      ∀ x, x ∈ ids.foldl (fun ids id => insertId id ids) acc ↔ x ∈ ids ∨ x ∈ acc := by
  induction ids generalizing acc with
  | nil => exact ⟨h, fun x => by rw [List.foldl_nil, List.mem_nil_iff, false_or]⟩
  | cons id ids ih =>
    obtain ⟨hsorted, hmem⟩ := ih (insertId id acc) (pairwise_insertId h)
    refine ⟨hsorted, fun x => ?_⟩
    rw [List.foldl_cons, hmem, mem_insertId, List.mem_cons, or_left_comm, or_assoc]

/-- The files of endpoints are listed in increasing order. -/
theorem pairwise_files (es : List Endpoint) : (files es).Pairwise (· < ·) :=
  (foldl_insertId _ [] .nil).1

/-- The files of endpoints are those that an endpoint is in. -/
theorem mem_files {es : List Endpoint} : file ∈ files es ↔ ∃ e ∈ es, e.fileNodeId = some file := by
  rw [files, (foldl_insertId _ [] .nil).2, List.mem_nil_iff, or_false, List.mem_filterMap]

/-! ### The endpoints of a file -/

theorem mem_inFile {es : List Endpoint} {e : Endpoint} :
    e ∈ inFile file es ↔ e ∈ es ∧ e.fileNodeId = some file := by
  rw [inFile, List.mem_filter, beq_iff_eq]

/-- The endpoints of a file are all in that file. -/
theorem inFile_inFile {es : List Endpoint} : inFile file (inFile file es) = inFile file es := by
  rw [inFile, List.filter_eq_self]
  exact fun e he => (List.mem_filter.mp he).2

/-- Does the file have a source and a sink? -/
def isShared (sources sinks : List Endpoint) (file : NodeId) : Bool :=
  !((inFile file sources).isEmpty || (inFile file sinks).isEmpty)

/-- The files with a source and a sink, in increasing order. -/
def sharedFiles (sources sinks : List Endpoint) : List NodeId :=
  (files (sources ++ sinks)).filter (isShared sources sinks)

/-- A file is shared when it has a source and a sink. -/
theorem isShared_iff :
    isShared sources sinks file = true ↔
      (∃ e ∈ sources, e.fileNodeId = some file) ∧ ∃ e ∈ sinks, e.fileNodeId = some file := by
  have hsome : ∀ es : List Endpoint, (inFile file es).isEmpty = false ↔
      ∃ e ∈ es, e.fileNodeId = some file := by
    intro es
    rw [List.isEmpty_eq_false_iff_exists_mem]
    exact exists_congr fun e => mem_inFile
  rw [isShared, Bool.not_eq_eq_eq_not, Bool.not_true, Bool.or_eq_false_iff, hsome, hsome]

/-- Shared files are listed in increasing order. -/
theorem pairwise_sharedFiles (sources sinks : List Endpoint) :
    (sharedFiles sources sinks).Pairwise (· < ·) :=
  (pairwise_files _).filter _

/-- The files that are listed are those that have a source and a sink. -/
theorem mem_sharedFiles :
    file ∈ sharedFiles sources sinks ↔
      (∃ e ∈ sources, e.fileNodeId = some file) ∧ ∃ e ∈ sinks, e.fileNodeId = some file := by
  rw [sharedFiles, List.mem_filter, isShared_iff, mem_files]
  refine ⟨And.right, fun h => ⟨?_, h⟩⟩
  obtain ⟨⟨e, he, hfile⟩, -⟩ := h
  exact ⟨e, List.mem_append_left _ he, hfile⟩

/-! ### The question about a file -/

/-- What the graph knows about the code of an endpoint. -/
def codeRows (g : Graph) (e : Endpoint) : Except ServiceError (List Record) :=
  g.rows Statement.nodeCode [("node_id", .ofInt64 e.nodeId)]

/-- The code of an endpoint. -/
def codeOf (g : Graph) (e : Endpoint) : Option CodeContext :=
  match codeRows g e with
  | .ok rows => rows.head?.bind CodeContext.ofRecord?
  | .error _ => none

/-- Can the code of all these endpoints be fetched? -/
def fetchable (g : Graph) (es : List Endpoint) : Bool := es.all fun e => (codeRows g e).isOk

/-- Endpoints with their code. -/
def described (settings : CompletionSettings) (g : Graph) (es : List Endpoint) : String :=
  es.foldr (fun e texts => entityText settings e (codeOf g e) ++ texts) ""

/-- The question about the flows from sources to sinks. -/
def flowCall (settings : CompletionSettings) (g : Graph) (sources sinks : List Endpoint) :
    CompletionCall where
  system := flowInstructions
  user := "Sources:\n" ++ described settings g sources ++ "Sinks:\n" ++
    described settings g sinks ++ flowLayout
  temperature := settings.temperature
  maxTokens := settings.maxTokens

/-- The path with a note of the file in which it was found. -/
def notedIn (file : NodeId) (path : FlowPath) : FlowPath :=
  (path.withMetadata "analyzer" (.string name)).withMetadata "file_node_id" (.ofInt64 file)

/-- The flows of a file that an answer tells. -/
def toldFlows (file : NodeId) (sources sinks : List Endpoint) :
    Except ServiceError String → List FlowPath
  | .ok answer => (Extraction.flows answer sources sinks).map (notedIn file)
  | .error _ => []

/-- The flows that are found between the sources and the sinks of a file, as the services of a
    session would answer.  Nothing is found when code cannot be fetched. -/
def flowsOf (settings : CompletionSettings) (s : Session) (file : NodeId)
    (sources sinks : List Endpoint) : List FlowPath :=
  if fetchable s.graph (sources ++ sinks) then
    toldFlows file sources sinks
      (s.completion.answer (flowCall settings s.graph sources sinks).user)
  else []

/-! ### Asking about a file -/

variable {s t : Session} {es : List Endpoint}

/-- The completion services of sessions that answer alike give one answer. -/
theorem answer_of_alike (hst : Alike s t) (user : String) :
    t.completion.answer user = s.completion.answer user := by
  obtain ⟨calls, hcalls⟩ := hst.completion
  rw [hcalls]
  rfl

/-- Fetching code is nothing to the completion service. -/
theorem completion_fetchCode (id : NodeId) (t : Session) :
    ((fetchCode id).after t).completion = t.completion := by
  rw [fetchCode, ReviewM.after_bind, ReviewM.after_query]
  cases (ReviewM.query Statement.nodeCode [("node_id", .ofInt64 id)]).value t with
  | error e => exact Session.completion_runQuery _ _ t
  | ok rows => exact Session.completion_runQuery _ _ t

/-- To describe endpoints only the graph is asked. -/
theorem completion_entityTexts (settings : CompletionSettings) (es : List Endpoint)
    (t : Session) :
    ((entityTexts settings es).after t).completion = t.completion := by
  induction es generalizing t with
  | nil => rfl
  | cons e rest ih =>
    have hfetch := completion_fetchCode e.nodeId t
    rw [entityTexts, ReviewM.after_bind]
    cases (fetchCode e.nodeId).value t with
    | error _ => exact hfetch
    | ok context? =>
      have hrest := ih ((fetchCode e.nodeId).after t)
      simp only [ReviewM.after_bind]
      cases (entityTexts settings rest).value ((fetchCode e.nodeId).after t) with
      | error _ => exact hrest.trans hfetch
      | ok texts => exact hrest.trans hfetch

/-- Describing endpoints changes no answer. -/
theorem entityTexts_alike (settings : CompletionSettings) (es : List Endpoint)
    (hst : Alike s t) :
    Alike s ((entityTexts settings es).after t) :=
  hst.trans (.of_reads ((entityTexts_made settings es).reads t))

/-- Fetching code changes no answer. -/
theorem fetchCode_alike (e : Endpoint) (hst : Alike s t) :
    Alike s ((fetchCode e.nodeId).after t) :=
  hst.trans (.of_reads ((fetchCode_made e.nodeId).reads t))

/-- Sessions that are alike have the same code to fetch. -/
theorem fetchCode_of_codeRows {e : Endpoint} {rows : List Record} (hst : Alike s t)
    (h : codeRows s.graph e = .ok rows) :
    (fetchCode e.nodeId).value t = .ok (codeOf s.graph e) := by
  rw [value_fetchCode_of_rows ((hst.rows_eq _ _).trans h), codeOf, h]

/-- The code of endpoints can be fetched when the graph answers about each of them. -/
theorem fetchable_iff {g : Graph} :
    fetchable g es = true ↔ ∀ e ∈ es, ∃ rows, codeRows g e = .ok rows := by
  rw [fetchable, List.all_eq_true]
  refine forall₂_congr fun e _ => ?_
  cases codeRows g e <;> simp [Except.isOk, Except.toBool]

theorem fetchable_cons {g : Graph} {e : Endpoint} :
    fetchable g (e :: es) = true ↔ (∃ rows, codeRows g e = .ok rows) ∧ fetchable g es = true := by
  rw [fetchable_iff, List.forall_mem_cons, fetchable_iff]

/-- Code that can be fetched for two groups can be fetched for both together. -/
theorem fetchable_append {g : Graph} {es' : List Endpoint} :
    fetchable g (es ++ es') = (fetchable g es && fetchable g es') := List.all_append

/-- Endpoints are described with the code that the graph has for them. -/
theorem entityTexts_of_fetchable (settings : CompletionSettings) (hst : Alike s t)
    (h : fetchable s.graph es = true) :
    (entityTexts settings es).value t = .ok (described settings s.graph es) := by
  induction es generalizing t with
  | nil => rfl
  | cons e rest ih =>
    obtain ⟨⟨rows, hrows⟩, hrest⟩ := fetchable_cons.mp h
    have hfetch := fetchCode_of_codeRows hst hrows
    rw [entityTexts, ReviewM.value_bind_of_ok hfetch,
      ReviewM.value_bind_of_ok (ih (fetchCode_alike e hst) hrest)]
    rfl

/-- Where the code of one of them cannot be fetched, none is described. -/
theorem entityTexts_of_not_fetchable (settings : CompletionSettings) (hst : Alike s t)
    (h : fetchable s.graph es = false) :
    ∃ e, (entityTexts settings es).value t = .error e := by
  induction es generalizing t with
  | nil => cases h
  | cons e rest ih =>
    cases hrows : codeRows s.graph e with
    | error failure =>
      have hfetch : (fetchCode e.nodeId).value t = .error (.graph failure) := by
        rw [value_fetchCode, (hst.rows_eq _ _).trans hrows]
        rfl
      exact ⟨_, ReviewM.value_bind_of_error hfetch⟩
    | ok rows =>
      have hfetch := fetchCode_of_codeRows hst hrows
      have hrest : fetchable s.graph rest = false := by
        rw [← Bool.not_eq_true] at h ⊢
        exact fun hrest => h (fetchable_cons.mpr ⟨⟨rows, hrows⟩, hrest⟩)
      obtain ⟨failure, hfailure⟩ := ih (fetchCode_alike e hst) hrest
      refine ⟨failure, ?_⟩
      rw [entityTexts, ReviewM.value_bind_of_ok hfetch, ReviewM.value_bind_of_error hfailure]

/-- The flows that a step found; none when it failed. -/
def found : Except ReviewError (List FlowPath) → List FlowPath
  | .ok paths => paths
  | .error _ => []

/-- One question, and the flows that the answer to it tells. -/
theorem ask_found (file : NodeId) (sources sinks : List Endpoint) (call : CompletionCall)
    (t : Session) :
    let asking : ReviewM (List FlowPath) := do
      let answer ← ReviewM.complete call
      pure ((Extraction.flows answer sources sinks).map (notedIn file))
    found (asking.value t) = toldFlows file sources sinks (t.completion.answer call.user) ∧
      (asking.after t).completion = t.completion.noteCall call := by
  intro asking
  rw [ReviewM.value_bind, ReviewM.after_bind, ReviewM.value_complete, ReviewM.after_complete]
  cases t.completion.answer call.user <;> exact ⟨rfl, rfl⟩

/-- Nothing is asked about flows when the code of an endpoint cannot be fetched. -/
theorem fileFlows_of_not_fetchable (file : NodeId) (hst : Alike s t)
    (h : fetchable s.graph (sources ++ sinks) = false) :
    (∃ e, (fileFlows settings file sources sinks).value t = .error e) ∧
      ((fileFlows settings file sources sinks).after t).completion = t.completion := by
  have hsources := completion_entityTexts settings sources t
  cases hfetch : fetchable s.graph sources with
  | false =>
    obtain ⟨e, he⟩ := entityTexts_of_not_fetchable settings hst hfetch
    refine ⟨⟨e, ReviewM.value_bind_of_error he⟩, ?_⟩
    rw [fileFlows, ReviewM.after_bind_of_error he, hsources]
  | true =>
    -- The sources can be described, and it is a sink whose code is missing.
    rw [fetchable_append, hfetch, Bool.true_and] at h
    have htexts := entityTexts_of_fetchable settings hst hfetch
    obtain ⟨e, he⟩ := entityTexts_of_not_fetchable settings (entityTexts_alike settings _ hst) h
    refine ⟨⟨e, ?_⟩, ?_⟩
    · rw [fileFlows, ReviewM.value_bind_of_ok htexts, ReviewM.value_bind_of_error he]
    · rw [fileFlows, ReviewM.after_bind_of_ok htexts, ReviewM.after_bind_of_error he,
        completion_entityTexts, hsources]

/-- Otherwise one question is asked, and the answer to it tells the flows. -/
theorem fileFlows_of_fetchable (file : NodeId) (hst : Alike s t)
    (h : fetchable s.graph (sources ++ sinks) = true) :
    let call := flowCall settings s.graph sources sinks
    found ((fileFlows settings file sources sinks).value t) =
        toldFlows file sources sinks (s.completion.answer call.user) ∧
      ((fileFlows settings file sources sinks).after t).completion =
        t.completion.noteCall call := by
  intro call
  rw [fetchable_append, Bool.and_eq_true] at h
  obtain ⟨hfetch, hfetch'⟩ := h
  have hsources := completion_entityTexts settings sources t
  have halike := entityTexts_alike settings sources hst
  have hsinks := completion_entityTexts settings sinks ((entityTexts settings sources).after t)
  have htexts := entityTexts_of_fetchable settings hst hfetch
  have htexts' := entityTexts_of_fetchable settings halike hfetch'
  have hanswer : t.completion.answer call.user = s.completion.answer call.user :=
    answer_of_alike hst _
  -- The question is asked after both groups were described, which the service does not notice.
  have hasked := ask_found file sources sinks call
    ((entityTexts settings sinks).after ((entityTexts settings sources).after t))
  rw [hsinks, hsources, hanswer] at hasked
  rw [fileFlows, ReviewM.value_bind_of_ok htexts, ReviewM.value_bind_of_ok htexts',
    ReviewM.after_bind_of_ok htexts, ReviewM.after_bind_of_ok htexts']
  exact hasked

/-- **What is found in a file can be read off the services**, and so can the question that is
    asked. -/
theorem fileFlows_found (settings : CompletionSettings) (file : NodeId)
    (sources sinks : List Endpoint) (hst : Alike s t) :
    found ((fileFlows settings file sources sinks).value t) =
        flowsOf settings s file sources sinks ∧
      ((fileFlows settings file sources sinks).after t).completion.calls =
        t.completion.calls ++ if fetchable s.graph (sources ++ sinks) then
          [flowCall settings s.graph sources sinks] else [] := by
  rw [flowsOf]
  cases hfetch : fetchable s.graph (sources ++ sinks) with
  | false =>
    obtain ⟨⟨e, hvalue⟩, hafter⟩ := fileFlows_of_not_fetchable file hst hfetch
    rw [hvalue, hafter]
    exact ⟨rfl, (List.append_nil _).symm⟩
  | true =>
    obtain ⟨hvalue, hafter⟩ := fileFlows_of_fetchable file hst hfetch
    rw [hvalue, hafter]
    exact ⟨rfl, rfl⟩

/-! ### Asking about all files -/

/-- Files without a source or without a sink are passed over. -/
theorem flowsByFile_filter (settings : CompletionSettings) (sources sinks : List Endpoint)
    (id : String) (fs : List NodeId) :
    flowsByFile settings sources sinks id fs =
      flowsByFile settings sources sinks id (fs.filter (isShared sources sinks)) := by
  induction fs with
  | nil => rfl
  | cons file rest ih =>
    cases hempty : (inFile file sources).isEmpty || (inFile file sinks).isEmpty with
    | true =>
      have hshared : ¬ isShared sources sinks file = true := by rw [isShared, hempty]; decide
      rw [List.filter_cons_of_neg hshared, flowsByFile, hempty, if_pos rfl, ih]
    | false =>
      have hshared : isShared sources sinks file = true := by rw [isShared, hempty]; rfl
      rw [List.filter_cons_of_pos hshared, flowsByFile, flowsByFile, hempty, ih]

/-- Only the endpoints of each file matter, in their order within the file. -/
theorem flowsByFile_congr {sources' sinks' : List Endpoint}
    (hsources : ∀ f, inFile f sources' = inFile f sources)
    (hsinks : ∀ f, inFile f sinks' = inFile f sinks) (id : String) (fs : List NodeId) :
    flowsByFile settings sources' sinks' id fs = flowsByFile settings sources sinks id fs := by
  induction fs with
  | nil => rfl
  | cons file rest ih => rw [flowsByFile, flowsByFile, hsources, hsinks, ih]

/-- Which files are shared depends on the endpoints of each file only. -/
theorem sharedFiles_congr {sources' sinks' : List Endpoint}
    (hsources : ∀ f, inFile f sources' = inFile f sources)
    (hsinks : ∀ f, inFile f sinks' = inFile f sinks) :
    sharedFiles sources' sinks' = sharedFiles sources sinks := by
  -- Both lists are increasing, so it is enough that they have the same members.
  refine (pairwise_sharedFiles sources' sinks').eq_of_mem_iff (pairwise_sharedFiles sources sinks)
    fun f => ?_
  rw [mem_sharedFiles, mem_sharedFiles, ← isShared_iff, ← isShared_iff, isShared, isShared,
    hsources, hsinks]

/-- The flows of an investigation are asked for in the files with a source and a sink. -/
theorem flows_eq_flowsByFile (settings : CompletionSettings) (sources sinks : List Endpoint)
    (id : String) :
    flows settings sources sinks id =
      liftM (flowsByFile settings sources sinks id (sharedFiles sources sinks)) := by
  rw [flows]
  split
  · next hempty =>
    -- Without sources or without sinks no file is shared.
    have hnone : sharedFiles sources sinks = [] := by
      refine List.eq_nil_iff_forall_not_mem.mpr fun f hf => ?_
      obtain ⟨⟨e, he, -⟩, e', he', -⟩ := mem_sharedFiles.mp hf
      rcases Bool.or_eq_true_iff.mp hempty with h | h
      · rw [List.isEmpty_iff.mp h] at he
        cases he
      · rw [List.isEmpty_iff.mp h] at he'
        cases he'
    rw [hnone]
    rfl
  · rw [flowsByFile_filter]
    rfl

/-- **Only the order within files matters.** -/
theorem flows_eq_of_inFile_eq {sources' sinks' : List Endpoint}
    (hsources : ∀ f, inFile f sources' = inFile f sources)
    (hsinks : ∀ f, inFile f sinks' = inFile f sinks) (id : String) :
    flows settings sources' sinks' id = flows settings sources sinks id := by
  rw [flows_eq_flowsByFile, flows_eq_flowsByFile, sharedFiles_congr hsources hsinks,
    flowsByFile_congr hsources hsinks]

/-- The questions about files, in order. -/
def fileCalls (settings : CompletionSettings) (g : Graph) (sources sinks : List Endpoint)
    (fs : List NodeId) : List CompletionCall :=
  (fs.filter fun f => fetchable g (inFile f sources ++ inFile f sinks)).map fun f =>
    flowCall settings g (inFile f sources) (inFile f sinks)

/-- The question about the first file comes first, if there is one. -/
theorem fileCalls_cons (settings : CompletionSettings) (g : Graph) (sources sinks : List Endpoint)
    (file : NodeId) (fs : List NodeId) :
    fileCalls settings g sources sinks (file :: fs) =
      (if fetchable g (inFile file sources ++ inFile file sinks) then
        [flowCall settings g (inFile file sources) (inFile file sinks)] else []) ++
      fileCalls settings g sources sinks fs := by
  rw [fileCalls, List.filter_cons]
  split <;> rfl

/-- **What is found in files can be read off the services**, file by file. -/
theorem flowsByFile_found (settings : CompletionSettings) (id : String) {fs : List NodeId}
    (hfs : ∀ f ∈ fs, isShared sources sinks f = true) (hst : Alike s t) :
    (flowsByFile settings sources sinks id fs).value t =
        fs.flatMap (fun f => flowsOf settings s f (inFile f sources) (inFile f sinks)) ∧
      ((flowsByFile settings sources sinks id fs).after t).completion.calls =
        t.completion.calls ++ fileCalls settings s.graph sources sinks fs := by
  induction fs generalizing t with
  | nil => exact ⟨rfl, (List.append_nil _).symm⟩
  | cons file rest ih =>
    obtain ⟨hfile, hrest⟩ := List.forall_mem_cons.mp hfs
    have hboth : ((inFile file sources).isEmpty || (inFile file sinks).isEmpty) = false := by
      rwa [isShared, Bool.not_eq_eq_eq_not, Bool.not_true] at hfile
    obtain ⟨hfound, hcalls⟩ :=
      fileFlows_found settings file (inFile file sources) (inFile file sinks) hst
    have hnext : Alike s
        ((fileFlows settings file (inFile file sources) (inFile file sinks)).after t) :=
      hst.trans (.of_reads ((fileFlows_made settings file _ _).reads t))
    rw [flowsByFile, hboth, if_neg Bool.false_ne_true, SessionM.value_bind, SessionM.after_bind,
      ReviewM.value_run, ReviewM.after_run, List.flatMap_cons, fileCalls_cons, ← hfound,
      ← List.append_assoc, ← hcalls]
    -- Whether or not the file's question fails, only the log knows of it afterwards.
    cases (fileFlows settings file (inFile file sources) (inFile file sinks)).value t with
    | error e => exact ih hrest (hnext.trans (.of_reads (Reads.warnOf _ _ _)))
    | ok paths =>
      obtain ⟨hothers, hothersCalls⟩ := ih hrest (hnext.trans (.of_reads (Reads.note _ _ _)))
      exact ⟨congrArg (paths ++ ·) hothers, hothersCalls⟩

/-- What is found, and what is asked, can be read off the services. -/
theorem flows_found (settings : CompletionSettings) (sources sinks : List Endpoint) (id : String)
    (s : Session) :
    (flows settings sources sinks id).value s =
        .ok ((sharedFiles sources sinks).flatMap fun f =>
          flowsOf settings s f (inFile f sources) (inFile f sinks)) ∧
      ((flows settings sources sinks id).after s).completion.calls =
        s.completion.calls ++
          fileCalls settings s.graph sources sinks (sharedFiles sources sinks) := by
  have hshared : ∀ f ∈ sharedFiles sources sinks, isShared sources sinks f = true :=
    fun f hf => (List.mem_filter.mp hf).2
  obtain ⟨hvalue, hcalls⟩ := flowsByFile_found settings id hshared (.refl s)
  rw [flows_eq_flowsByFile, ReviewM.value_lift, ReviewM.after_lift]
  exact ⟨congrArg Except.ok hvalue, hcalls⟩

/-! ### Files by themselves -/

/-- The endpoints of a shared file have no other shared file. -/
theorem sharedFiles_inFile (h : file ∈ sharedFiles sources sinks) :
    sharedFiles (inFile file sources) (inFile file sinks) = [file] := by
  refine (pairwise_sharedFiles _ _).eq_of_mem_iff (List.pairwise_singleton _ _) fun f => ?_
  obtain ⟨⟨e, he, hfile⟩, e', he', hfile'⟩ := mem_sharedFiles.mp h
  rw [mem_sharedFiles, List.mem_singleton]
  constructor
  · -- An endpoint is in one file at most.
    rintro ⟨⟨x, hx, hxf⟩, -⟩
    rw [(mem_inFile.mp hx).2] at hxf
    exact (Option.some.inj hxf).symm
  · rintro rfl
    exact ⟨⟨e, mem_inFile.mpr ⟨he, hfile⟩, hfile⟩, e', mem_inFile.mpr ⟨he', hfile'⟩, hfile'⟩

/-- The endpoints of a shared file, given alone, yield the flows of the file. -/
theorem flows_alone (settings : CompletionSettings) (id : String) (s : Session)
    (h : file ∈ sharedFiles sources sinks) :
    (flows settings (inFile file sources) (inFile file sinks) id).value s =
      .ok (flowsOf settings s file (inFile file sources) (inFile file sinks)) := by
  rw [(flows_found settings _ _ id s).1, sharedFiles_inFile h, List.flatMap_singleton,
    inFile_inFile, inFile_inFile]

/-- A flow of a file is noted there, and its ends are endpoints of the file. -/
theorem ends_of_mem_flowsOf {path : FlowPath} (h : path ∈ flowsOf settings s file sources sinks) :
    path.metadata.get? "file_node_id" = some (.ofInt64 file) ∧ path.Joins sources sinks := by
  rw [flowsOf] at h
  split at h
  · cases hanswer : s.completion.answer (flowCall settings s.graph sources sinks).user with
    | error e =>
      rw [hanswer] at h
      cases h
    | ok answer =>
      rw [hanswer] at h
      obtain ⟨told, htold, rfl⟩ := List.mem_map.mp h
      exact ⟨Metadata.get?_insert_self _ _ trivial,
        Extraction.flows_joins answer sources sinks told htold⟩
  · cases h

/-- How endpoints are described depends on their code only. -/
theorem described_congr (settings : CompletionSettings) {g g' : Graph}
    (h : ∀ e ∈ es, codeRows g' e = codeRows g e) :
    described settings g' es = described settings g es := by
  induction es with
  | nil => rfl
  | cons e rest ih =>
    obtain ⟨he, hrest⟩ := List.forall_mem_cons.mp h
    have hcode : codeOf g' e = codeOf g e := by rw [codeOf, codeOf, he]
    rw [described, List.foldr_cons, ← described, ih hrest, hcode]
    rfl

/-- What is found in a file depends on the code of its endpoints and on the answer to its own
    question. -/
theorem flowsOf_congr (settings : CompletionSettings) (file : NodeId)
    (hcode : ∀ e ∈ sources ++ sinks, codeRows t.graph e = codeRows s.graph e)
    (hanswer : t.completion.answer (flowCall settings s.graph sources sinks).user =
      s.completion.answer (flowCall settings s.graph sources sinks).user) :
    flowsOf settings t file sources sinks = flowsOf settings s file sources sinks := by
  obtain ⟨hsources, hsinks⟩ := List.forall_mem_append.mp hcode
  have hfetchable :
      fetchable t.graph (sources ++ sinks) = fetchable s.graph (sources ++ sinks) := by
    rw [Bool.eq_iff_iff, fetchable_iff, fetchable_iff]
    exact forall₂_congr fun e he => by rw [hcode e he]
  have hcall :
      flowCall settings t.graph sources sinks = flowCall settings s.graph sources sinks := by
    rw [flowCall, flowCall, described_congr settings hsources, described_congr settings hsinks]
  rw [flowsOf, flowsOf, hfetchable, hcall, hanswer]

/-- The flows are what the services tell about the sources and the sinks of a file. -/
structure ToldBy (settings : CompletionSettings) (s : Session) (file : NodeId)
    (sources sinks : List Endpoint) (paths : List FlowPath) : Prop where
  /-- There are none when code cannot be fetched. -/
  no_code : (∃ e ∈ sources ++ sinks, ∃ failure, codeRows s.graph e = .error failure) → paths = []
  /-- There are none when the question fails. -/
  no_answer : ∀ failure,
    s.completion.answer (flowCall settings s.graph sources sinks).user = .error failure →
      paths = []
  answered : ∀ answer, (∀ e ∈ sources ++ sinks, ∃ rows, codeRows s.graph e = .ok rows) →
    s.completion.answer (flowCall settings s.graph sources sinks).user = .ok answer →
      paths = (Extraction.flows answer sources sinks).map (notedIn file)
  /-- Nothing else that the services would answer matters. -/
  isolated : ∀ t : Session, (∀ e ∈ sources ++ sinks, codeRows t.graph e = codeRows s.graph e) →
    t.completion.answer (flowCall settings s.graph sources sinks).user =
      s.completion.answer (flowCall settings s.graph sources sinks).user →
      found ((fileFlows settings file sources sinks).value t) = paths

/-- The flows that are found between the sources and the sinks of a file are told by the
    services. -/
theorem flowsOf_toldBy (settings : CompletionSettings) (s : Session) (file : NodeId)
    (sources sinks : List Endpoint) :
    ToldBy settings s file sources sinks (flowsOf settings s file sources sinks) where
  no_code := by
    rintro ⟨e, he, failure, hfailure⟩
    refine if_neg fun hfetch => ?_
    obtain ⟨rows, hrows⟩ := fetchable_iff.mp hfetch e he
    rw [hfailure] at hrows
    cases hrows
  no_answer := by
    intro failure hfailure
    simp only [flowsOf, hfailure, toldFlows, ite_self]
  answered := by
    intro answer hfetch hanswer
    simp only [flowsOf, fetchable_iff.mpr hfetch, hanswer, toldFlows, if_true]
  isolated := by
    intro t hcode hanswer
    rw [(fileFlows_found settings file sources sinks (.refl t)).1]
    exact flowsOf_congr settings file hcode hanswer

/-- **The flows of an investigation are those of its files.**  Whatever the endpoints, the graph and
    the answers are, the step succeeds, and its flows are those of the files with a source and a
    sink, in the order of the files.  Each file has the flows that its endpoints would have alone,
    and these depend on the answers about the file only.  The completion service is asked once
    about each of these files whose code can be fetched, and about nothing else.  A flow is noted
    in its file, to which its ends belong.  Only the order of the endpoints within each file
    matters. -/
theorem flows_union_of_files (settings : CompletionSettings) (sources sinks : List Endpoint)
    (id : String) (s : Session) :
    let shared := sharedFiles sources sinks
    let within := fun (f : NodeId) (es : List Endpoint) => es.filter (·.fileNodeId == some f)
    let alone := fun f => flowsOf settings s f (within f sources) (within f sinks)
    (shared.Pairwise (· < ·) ∧
      ∀ f, f ∈ shared ↔
        (∃ e ∈ sources, e.fileNodeId = some f) ∧ ∃ e ∈ sinks, e.fileNodeId = some f) ∧
    (flows settings sources sinks id).value s = .ok (shared.flatMap alone) ∧
    (∀ f ∈ shared,
      (flows settings (within f sources) (within f sinks) id).value s = .ok (alone f) ∧
        ToldBy settings s f (within f sources) (within f sinks) (alone f)) ∧
    ((flows settings sources sinks id).after s).completion.calls =
      s.completion.calls ++
        (shared.filter fun f => fetchable s.graph (within f sources ++ within f sinks)).map
          (fun f => flowCall settings s.graph (within f sources) (within f sinks)) ∧
    (∀ path ∈ shared.flatMap alone, ∃ f,
      path.metadata.get? "file_node_id" = some (.ofInt64 f) ∧
        path.source.fileNodeId = some f ∧ path.sink.fileNodeId = some f) ∧
    ∀ sources' sinks', (∀ f, within f sources' = within f sources) →
      (∀ f, within f sinks' = within f sinks) →
      flows settings sources' sinks' id = flows settings sources sinks id := by
  intro shared within alone
  obtain ⟨hvalue, hcalls⟩ := flows_found settings sources sinks id s
  refine ⟨⟨pairwise_sharedFiles sources sinks, fun f => mem_sharedFiles⟩, hvalue,
    fun f hf => ⟨flows_alone settings id s hf, flowsOf_toldBy settings s f _ _⟩, hcalls,
    fun path hpath => ?_, fun sources' sinks' hsources hsinks =>
      flows_eq_of_inFile_eq hsources hsinks id⟩
  obtain ⟨f, -, hpath⟩ := List.mem_flatMap.mp hpath
  obtain ⟨hnoted, hsource, hsink⟩ := ends_of_mem_flowsOf hpath
  exact ⟨f, hnoted, (mem_inFile.mp hsource).2, (mem_inFile.mp hsink).2⟩

/-- A graph that fails when it is asked for the code of one entity. -/
def withoutCode (node : Int) : Session where
  graph :=
    { handlers := [(Statement.nodeCode, fun parameters _ =>
        match Handler.parameter parameters "node_id" with
        | .number (.int id _) => { rows := if id = node then .error (.query "down") else .ok [] }
        | _ => { rows := .ok [] })] }
  completion := { fallback := "Source: load\nSink: store" }

/-- Two files have a source and a sink.  The question about one of them is never asked, and the
    other one has a flow, in whatever order the endpoints of the files are mixed. -/
theorem flows_union_of_files_withoutCode :
    let load : Endpoint :=
      { nodeId := 1, name := "load", category := .userInput, fileNodeId := some 7 }
    let read : Endpoint :=
      { nodeId := 2, name := "read", category := .fileRead, fileNodeId := some 3 }
    let loose : Endpoint := { nodeId := 3, name := "loose", category := .userInput }
    let store : Endpoint :=
      { nodeId := 4, name := "store", category := .databaseWrite, fileNodeId := some 7 }
    let save : Endpoint :=
      { nodeId := 5, name := "save", category := .fileWrite, fileNodeId := some 3 }
    let outcome := (flows {} [load, read, loose] [save, store] "i").value (withoutCode 2)
    ((∀ f, inFile f [loose, read, load] = inFile f [load, read, loose]) ∧
      ∀ f, inFile f [store, save] = inFile f [save, store]) ∧
    sharedFiles [load, read, loose] [save, store] = [3, 7] ∧
    (∃ paths, outcome = .ok paths ∧
      paths.map (fun p => (p.source.nodeId, p.sink.nodeId)) = [(1, 4)]) ∧
    ((flows {} [load, read, loose] [save, store] "i").after
      (withoutCode 2)).completion.calls.length = 1 ∧
    (flows {} [loose, read, load] [store, save] "i").value (withoutCode 2) = outcome := by
  intro load read loose store save outcome
  obtain ⟨-, hvalue, -, hcalls, -, hmixed⟩ :=
    flows_union_of_files {} [load, read, loose] [save, store] "i" (withoutCode 2)
  have hshared : sharedFiles [load, read, loose] [save, store] = [3, 7] := by decide +kernel
  -- There are endpoints in two files, and no others have to be looked at.
  have hsources : ∀ f, inFile f [loose, read, load] = inFile f [load, read, loose] := by
    intro f
    by_cases h3 : f = 3
    · subst h3
      rfl
    · by_cases h7 : f = 7
      · subst h7
        rfl
      · simp [inFile, load, read, loose, Ne.symm h3, Ne.symm h7]
  have hsinks : ∀ f, inFile f [store, save] = inFile f [save, store] := by
    intro f
    by_cases h3 : f = 3
    · subst h3
      rfl
    · by_cases h7 : f = 7
      · subst h7
        rfl
      · simp [inFile, store, save, Ne.symm h3, Ne.symm h7]
  refine ⟨⟨hsources, hsinks⟩, hshared, ⟨_, hvalue, ?_⟩, ?_, ?_⟩
  · rw [hshared]
    decide +kernel
  · rw [hcalls, hshared, List.length_append, List.length_map]
    decide +kernel
  · rw [hmixed _ _ hsources hsinks]

end TaintReview.CompletionAnalyzer
