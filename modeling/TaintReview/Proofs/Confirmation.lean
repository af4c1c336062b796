import Mathlib.Data.List.Forall2
import TaintReview.Proofs.Defaults

namespace TaintReview

open Text

/-!
# What confirmed endpoints stand for

An endpoint of the findings is not made up: it confirms one of the candidates that the funnel
offers, and the entity of that candidate has code.

* `Confirms g role c e` — in the graph `g`, the endpoint `e` confirms the candidate `c`;
* `Analyzer.ConfirmsOnly` — an analyzer gives no other endpoints; both of the default ones are of
  this kind;
* `Review.confirmAll_kept` — the endpoints of a role confirm some of its candidates, in their
  order;
* `Funnel.offered` — the candidates themselves, read off the rows of the funnel's query.
-/

/-- The categories of a role. -/
def Role.kinds : Role → List Category
  | .source => Category.sourceKinds
  | .sink => Category.sinkKinds

/-- The first row that the graph has for the entity's code has code that is not blank. -/
def HasCode (g : Graph) (id : NodeId) : Prop :=
  ∃ row rest code,
    g.rows Statement.nodeCode [("node_id", .ofInt64 id)] = .ok (row :: rest) ∧
      Record.text? row "code" = some code ∧ isBlankText code = false

/-- The endpoint confirms the candidate in a role. -/
structure Confirms (g : Graph) (role : Role) (c : Candidate) (e : Endpoint) : Prop where
  nodeId : e.nodeId = c.nodeId
  name : e.name = c.name
  fileNodeId : e.fileNodeId = c.fileNodeId
  lineNumber : e.lineNumber = c.lineNumber
  /-- The endpoint refers to its own entity: as a class when the candidate's kind is that word, in
      any letter case, and otherwise as a function. -/
  entity :
    (∃ kind ∈ c.kind, kind.toList.map Char.toLower = "class".toList) ∧
        e.classNodeId = some e.nodeId ∧ e.functionNodeId = none ∨
      (∀ kind ∈ c.kind, kind.toList.map Char.toLower ≠ "class".toList) ∧
        e.classNodeId = none ∧ e.functionNodeId = some e.nodeId
  category : e.category ∈ role.kinds ∨ e.category = .unknown
  code : HasCode g e.nodeId

namespace Confirms

variable {g g' : Graph} {role : Role} {c : Candidate} {e : Endpoint}

/-- The endpoint that is made from a candidate confirms it. -/
theorem ofCandidate (category : Category) (confidence : Float) (description : String)
    (hcategory : category ∈ role.kinds ∨ category = .unknown) (hcode : HasCode g c.nodeId) :
    Confirms g role c (Endpoint.ofCandidate c category confidence description) where
  nodeId := rfl
  name := rfl
  fileNodeId := rfl
  lineNumber := rfl
  entity := by
    rw [Endpoint.ofCandidate]
    cases hclass : c.isClass with
    | true => exact .inl ⟨c.isClass_iff.mp hclass, rfl, rfl⟩
    | false =>
      refine .inr ⟨fun kind hkind heq => ?_, rfl, rfl⟩
      rw [c.isClass_iff.mpr ⟨kind, hkind, heq⟩] at hclass
      cases hclass
  category := hcategory
  code := hcode

theorem withMetadata (h : Confirms g role c e) (key : String) (value : Json) :
    Confirms g role c (e.withMetadata key value) :=
  ⟨h.nodeId, h.name, h.fileNodeId, h.lineNumber, h.entity, h.category, h.code⟩

/-- What the graph answers after it was asked, it answered before. -/
theorem of_reads {s s' : Session} (hreads : Reads s s') (h : Confirms s'.graph role c e) :
    Confirms s.graph role c e where
  __ := h
  code := by
    obtain ⟨row, rest, code, hrows, hcode⟩ := h.code
    rw [hreads.rows_eq] at hrows
    exact ⟨row, rest, code, hrows, hcode⟩

end Confirms

/-! ### Categories -/

namespace Lexicon

/-- The words of a role speak for the categories of the role. -/
theorem map_fst_keywordTable (role : Role) : (keywordTable role).map (·.1) = role.kinds := by
  cases role <;> rfl

/-- The first matching category is one of the table. -/
theorem mem_of_firstMatchingCategory {text : String} {table : CategoryTable} {category : Category}
    (h : firstMatchingCategory text table = some category) : category ∈ table.map (·.1) := by
  obtain ⟨entry, hfind, rfl⟩ := Option.map_eq_some_iff.mp h
  exact List.mem_map_of_mem (List.mem_of_find?_eq_some hfind)

/-- The better of two categories is one of the two. -/
theorem better_cases {text : List Char} {best : Option (Category × Nat)}
    {entry : Category × List String} {found : Category × Nat}
    (h : better text best entry = some found) : best = some found ∨ entry.1 = found.1 := by
  cases best with
  | none =>
    obtain ⟨-, hfound⟩ := Option.ite_none_right_eq_some.mp h
    exact .inr (congrArg Prod.fst (Option.some.inj hfound))
  | some top =>
    simp only [better] at h
    split at h
    · exact .inr (congrArg Prod.fst (Option.some.inj h))
    · exact .inl h

/-- The best category is the one to begin with or comes from the table. -/
theorem mem_of_foldl_better {text : List Char} {table : CategoryTable}
    {best : Option (Category × Nat)} {found : Category × Nat}
    (h : table.foldl (better text) best = some found) :
    best = some found ∨ found.1 ∈ table.map (·.1) := by
  induction table generalizing best with
  | nil => exact .inl h
  | cons entry rest ih =>
    rw [List.map_cons, List.mem_cons]
    obtain hbest | hrest := ih h
    · exact (better_cases hbest).imp_right fun heq => .inl heq.symm
    · exact .inr (.inr hrest)

/-- The best matching category is one of the table. -/
theorem mem_of_bestMatchingCategory {text : String} {table : CategoryTable}
    {found : Category × Nat} (h : bestMatchingCategory text table = some found) :
    found.1 ∈ table.map (·.1) :=
  (mem_of_foldl_better h).resolve_left (Option.some_ne_none found).symm

end Lexicon

/-! ### Analyzers -/

/-- Code that was fetched is there. -/
theorem hasCode_of_fetchCode {id : NodeId} {context : CodeContext} {s : Session}
    (h : (fetchCode id).value s = .ok (some context)) : HasCode s.graph id := by
  obtain ⟨rows, hrows, hcontext⟩ := ReviewM.bind_eq_ok.mp h
  rw [ReviewM.value_query] at hrows
  cases hanswer : s.graph.rows Statement.nodeCode [("node_id", .ofInt64 id)] with
  | error e => rw [hanswer] at hrows; cases hrows
  | ok _ =>
    rw [hanswer] at hrows
    cases hrows
    obtain ⟨row, hrow, hof⟩ := Option.bind_eq_some_iff.mp (Except.ok.inj hcontext)
    obtain ⟨code, hcode, -⟩ := Option.map_eq_some_iff.mp hof
    obtain ⟨htext, hblank⟩ := Option.filter_eq_some_iff.mp hcode
    cases rows with
    | nil => cases hrow
    | cons first rest =>
      cases hrow
      exact ⟨row, rest, code, hanswer, htext, by simpa using hblank⟩

/-- The endpoints that an analyzer gives confirm the candidates that it was asked about. -/
def Analyzer.ConfirmsOnly (a : Analyzer) : Prop :=
  ∀ role c s e, (a.judge role c).value s = .ok (some e) → Confirms s.graph role c e

/-- The endpoints of the documentation analyzer confirm its candidates. -/
theorem Analyzer.documentation_confirmsOnly (settings : DocumentationSettings) :
    (Analyzer.documentation settings).ConfirmsOnly := by
  intro role c s e h
  obtain ⟨context?, hfetch, hjudge⟩ := ReviewM.bind_eq_ok.mp h
  cases context? with
  -- Without code nothing is confirmed.
  | none => cases hjudge
  | some context =>
    obtain ⟨evidence, hevidence, rfl⟩ := Option.map_eq_some_iff.mp (Except.ok.inj hjudge)
    obtain ⟨found, hfound, rfl⟩ := Option.map_eq_some_iff.mp hevidence
    -- The category comes from the words of the role.
    have hcategory : found.1 ∈ role.kinds := by
      rw [← Lexicon.map_fst_keywordTable]
      exact Lexicon.mem_of_bestMatchingCategory hfound
    exact ((Confirms.ofCandidate _ _ _ (.inl hcategory)
      (hasCode_of_fetchCode hfetch)).withMetadata _ _).withMetadata _ _

/-- The endpoints of the completion analyzer confirm its candidates. -/
theorem Analyzer.completion_confirmsOnly (settings : CompletionSettings) :
    (Analyzer.completion settings).ConfirmsOnly := by
  intro role c s e h
  obtain ⟨context?, hfetch, hjudge⟩ := ReviewM.bind_eq_ok.mp h
  cases context? with
  | none => cases hjudge
  | some context =>
    obtain ⟨answer, -, hanswer⟩ := ReviewM.bind_eq_ok.mp hjudge
    obtain ⟨verdict, hverdict, rfl⟩ := Option.map_eq_some_iff.mp (Except.ok.inj hanswer)
    rw [CompletionAnalyzer.verdict?] at hverdict
    split at hverdict
    · cases hverdict
      -- An answer without a word for any category leaves it unknown.
      have hcategory : (Lexicon.firstMatchingCategory answer (Lexicon.keywordTable role)).getD
          .unknown ∈ role.kinds ∨ (Lexicon.firstMatchingCategory answer
            (Lexicon.keywordTable role)).getD .unknown = .unknown := by
        cases hfirst : Lexicon.firstMatchingCategory answer (Lexicon.keywordTable role) with
        | none => exact .inr rfl
        | some category =>
          left
          rw [← Lexicon.map_fst_keywordTable]
          exact Lexicon.mem_of_firstMatchingCategory hfirst
      exact ((Confirms.ofCandidate _ _ _ hcategory
        (hasCode_of_fetchCode hfetch)).withMetadata _ _).withMetadata _ _
    · cases hverdict

namespace Review

variable {r : Review} {role : Role}

/-- Whichever analyzer confirms a candidate first, its endpoint confirms the candidate. -/
theorem confirms_of_confirm {c : Candidate} {as : List Analyzer}
    (hreads : ∀ a ∈ as, ∀ role c, Keeps Reads (a.judge role c).run)
    (hconfirms : ∀ a ∈ as, a.ConfirmsOnly) {s : Session} {e : Endpoint}
    (h : ((confirm role c as).value s).endpoint = some e) : Confirms s.graph role c e := by
  induction as generalizing s with
  | nil => cases h
  | cons a rest ih =>
    obtain ⟨hread, hreads⟩ := List.forall_mem_cons.mp hreads
    obtain ⟨hconfirm, hconfirms⟩ := List.forall_mem_cons.mp hconfirms
    rw [confirm, SessionM.value_bind, ReviewM.value_run, ReviewM.after_run] at h
    -- What the next analyzers confirm is confirmed by the graph as it was before.
    have hafter : Reads s ((a.judge role c).after s) := hread role c s
    cases hjudge : (a.judge role c).value s with
    | error failure =>
      simp only [hjudge, SessionM.value_bind, SessionM.value_pure, Session.after_warnOf] at h
      exact .of_reads (IsTrans.trans _ _ _ hafter (Reads.log _ _)) (ih hreads hconfirms h)
    | ok endpoint? =>
      rw [hjudge] at h
      cases endpoint? with
      | none => exact .of_reads hafter (ih hreads hconfirms h)
      | some endpoint =>
        cases h
        exact hconfirm role c s e hjudge

/-- **The endpoints of a role confirm some of its candidates**, in their order. -/
theorem confirmAll_kept (hasks : r.AsksOnly) (hconfirms : ∀ a ∈ r.analyzers, a.ConfirmsOnly)
    (role : Role) (cs : List Candidate) (s : Session) :
    ∃ kept, kept.Sublist cs ∧ List.Forall₂ (Confirms s.graph role) kept
      (endpoints ((r.confirmAll role cs).value s)) := by
  induction cs generalizing s with
  | nil => exact ⟨[], .slnil, .nil⟩
  | cons c rest ih =>
    have hreads := confirm_reads role c r.analyzers hasks.judge s
    obtain ⟨kept, hsub, hkept⟩ := ih ((confirm role c r.analyzers).after s)
    -- The graph has answered about the other candidates as it would have at the beginning.
    have hkept := hkept.imp fun _ _ => Confirms.of_reads hreads
    rw [confirmAll, SessionM.value_bind, SessionM.value_bind, SessionM.value_pure, endpoints,
      List.filterMap_cons]
    cases hjudged : ((confirm role c r.analyzers).value s).endpoint with
    | none => exact ⟨kept, hsub.cons c, hkept⟩
    | some e =>
      exact ⟨c :: kept, hsub.cons_cons c,
        .cons (confirms_of_confirm hasks.judge hconfirms hjudged) hkept⟩

end Review

/-! ### Candidates -/

namespace Funnel

/-- The parameters of the funnel's query. -/
def parameters (settings : FunnelSettings) (role : Role) (id : String) : Parameters :=
  [("investigation_id", .string id), ("keywords", .ofList .string (keywords settings role)),
   ("limit", .ofOption .ofUInt64 settings.limit)]

/-- The candidates in the rows that answer the funnel's query. -/
def offered (settings : FunnelSettings) (role : Role) (id : String) (g : Graph) :
    List Candidate :=
  match g.rows (statement role) (parameters settings role id) with
  | .ok rows => rows.filterMap fun row => (Candidate.ofRecord row).toOption
  | .error _ => []

/-- What the graph offers does not change when it is asked. -/
theorem offered_of_reads {s s' : Session} (h : Reads s s') (settings : FunnelSettings)
    (role : Role) (id : String) :
    offered settings role id s'.graph = offered settings role id s.graph := by
  rw [offered, offered, h.rows_eq]

/-- The usable rows are those that make a candidate, and the others are skipped. -/
theorem value_usable (rows : List Record) (s : Session) :
    (usable rows).value s = rows.filterMap fun row => (Candidate.ofRecord row).toOption := by
  induction rows generalizing s with
  | nil => rfl
  | cons row rest ih =>
    rw [usable, List.filterMap_cons]
    cases Candidate.ofRecord row with
    | ok candidate =>
      rw [SessionM.value_bind, ih]
      rfl
    | error e =>
      rw [SessionM.value_bind, ih]
      rfl

/-- The funnel gives what its rows offer. -/
theorem value_byKeyword (settings : FunnelSettings) (role : Role) (id : String) (s : Session) :
    (byKeyword settings role id).value s = offered settings role id s.graph := by
  rw [byKeyword, SessionM.value_bind, Session.value_runQuery, ← parameters, offered]
  cases s.graph.rows (statement role) (parameters settings role id) with
  | ok rows => exact value_usable rows _
  | error e => rfl

end Funnel

end TaintReview
