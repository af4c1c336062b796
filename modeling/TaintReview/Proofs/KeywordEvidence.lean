import Mathlib.Data.List.Nodup
import TaintReview.Proofs.Confirmation
import TaintReview.Proofs.Entities
import TaintReview.Proofs.LetterCase

namespace TaintReview

open Text

/-!
# Evidence in documentation

The category that documentation speaks for is chosen by counting keywords, and the keywords are
then collected a second time, from the entry that the table has for the category.  This file says
that both agree.

* `Leads text table entry` — no entry has more hits in the text, and every earlier one has fewer;
* `BestOf text table best` — the outcome of looking for the best entry.  A step keeps this
  (`BestOf.better`), and so **`bestOf_bestMatchingCategory`** holds after all of them;
* `evidence?_eq_some` — the evidence in a lower-case text is the leading entry, with all its hits;
* **`judge_by_evidence`** — which candidates are confirmed, as what, and by which keywords.
-/

namespace Lexicon

variable {text : List Char} {table seen : CategoryTable} {best : Option (Category × Nat)}
  {entry other : Category × List String} {category : Category} {keywords : List String}

/-! ### The leading entry -/

/-- How many keywords of an entry the text mentions. -/
def hits (text : List Char) (entry : Category × List String) : Nat :=
  (matchedKeywords text entry.2).length

/-- The entry has the most hits of the table, and of equally many entries it is the first. -/
def Leads (text : List Char) (table : CategoryTable) (entry : Category × List String) : Prop :=
  ∃ earlier later, table = earlier ++ entry :: later ∧
    (∀ e ∈ earlier, hits text e < hits text entry) ∧ ∀ e ∈ later, hits text e ≤ hits text entry

namespace Leads

theorem le (h : Leads text table entry) (hother : other ∈ table) :
    hits text other ≤ hits text entry := by
  obtain ⟨earlier, later, rfl, hearlier, hlater⟩ := h
  rcases List.mem_append.mp hother with hother | hother
  · exact Nat.le_of_lt (hearlier other hother)
  · rcases List.mem_cons.mp hother with rfl | hother
    · exact Nat.le_refl _
    · exact hlater other hother

theorem mem (h : Leads text table entry) : entry ∈ table := by
  obtain ⟨earlier, later, rfl, -, -⟩ := h
  exact List.mem_append_right _ List.mem_cons_self

/-- A further entry without more hits does not take the lead. -/
theorem append_of_le (h : Leads text table entry) (hle : hits text other ≤ hits text entry) :
    Leads text (table ++ [other]) entry := by
  obtain ⟨earlier, later, rfl, hearlier, hlater⟩ := h
  refine ⟨earlier, later ++ [other], ?_, hearlier, ?_⟩
  · rw [List.append_assoc, List.cons_append]
  · exact List.forall_mem_append.mpr ⟨hlater, List.forall_mem_singleton.mpr hle⟩

/-- A further entry with more hits than all takes the lead. -/
theorem last (h : ∀ e ∈ table, hits text e < hits text entry) :
    Leads text (table ++ [entry]) entry :=
  ⟨table, [], rfl, h, List.forall_mem_nil _⟩

end Leads

/-- The best of the table, if an entry has a hit: the category that leads, with its hits. -/
def BestOf (text : List Char) (table : CategoryTable) : Option (Category × Nat) → Prop
  | none => ∀ entry ∈ table, hits text entry = 0
  | some (category, top) =>
    ∃ keywords, Leads text table (category, keywords) ∧ hits text (category, keywords) = top ∧
      0 < top

theorem bestOf_nil (text : List Char) : BestOf text [] none := List.forall_mem_nil _

/-- The hits of the best, none if there is no best. -/
def topHits (best : Option (Category × Nat)) : Nat := best.elim 0 (·.2)

/-- An entry takes the lead when it has more hits than the best so far. -/
theorem better_eq (text : List Char) (best : Option (Category × Nat))
    (entry : Category × List String) :
    better text best entry =
      if topHits best < hits text entry then some (entry.1, hits text entry) else best := by
  cases best <;> rfl

/-- No entry has more hits than the best. -/
theorem BestOf.le (h : BestOf text table best) (hentry : entry ∈ table) :
    hits text entry ≤ topHits best := by
  cases best with
  | none => exact Nat.le_of_eq (h entry hentry)
  | some found =>
    obtain ⟨keywords, hlead, htop, -⟩ := h
    exact Nat.le_trans (hlead.le hentry) (Nat.le_of_eq htop)

/-- The better of the best so far and the next entry is the best with that entry. -/
theorem BestOf.better (h : BestOf text seen best) (entry : Category × List String) :
    BestOf text (seen ++ [entry]) (better text best entry) := by
  rw [better_eq]
  split
  · next hmore =>
    -- What has more hits than the best has more than all.
    have hlast : Leads text (seen ++ [entry]) entry :=
      Leads.last fun e he => Nat.lt_of_le_of_lt (h.le he) hmore
    exact ⟨entry.2, hlast, rfl, Nat.zero_lt_of_lt hmore⟩
  · next hnot =>
    have hle := Nat.le_of_not_lt hnot
    cases best with
    | none =>
      exact List.forall_mem_append.mpr ⟨h, List.forall_mem_singleton.mpr (Nat.le_zero.mp hle)⟩
    | some found =>
      obtain ⟨keywords, hlead, htop, hpos⟩ := h
      have hkept := hlead.append_of_le (Nat.le_trans hle (Nat.le_of_eq htop.symm))
      exact ⟨keywords, hkept, htop, hpos⟩

/-- Looking at further entries one by one gives the best of all. -/
theorem BestOf.foldl (h : BestOf text seen best) (rest : CategoryTable) :
    BestOf text (seen ++ rest) (rest.foldl (Lexicon.better text) best) := by
  induction rest generalizing seen best with
  | nil =>
    rw [List.append_nil]
    exact h
  | cons entry rest ih =>
    -- The entry joins those that were seen, so the invariant is kept by one step.
    have hrest := ih (h.better entry)
    rw [List.append_assoc, List.singleton_append] at hrest
    exact hrest

/-- The best matching category leads the table. -/
theorem bestOf_bestMatchingCategory (text : String) (table : CategoryTable) :
    BestOf (lower text.toList) table (bestMatchingCategory text table) :=
  (bestOf_nil _).foldl table

/-! ### Is there a match? -/

/-- An entry has a hit when the text mentions one of its keywords. -/
theorem hits_pos : 0 < hits text entry ↔ ∃ keyword ∈ entry.2, mentions text keyword = true := by
  rw [hits, matchedKeywords, List.length_filter_pos_iff]

/-- There is a best entry when one has a hit. -/
theorem BestOf.isSome_iff (h : BestOf text table best) :
    best.isSome = true ↔ ∃ entry ∈ table, 0 < hits text entry := by
  cases best with
  | none =>
    refine iff_of_false Bool.false_ne_true ?_
    rintro ⟨entry, hentry, hpos⟩
    exact Nat.ne_of_gt hpos (h entry hentry)
  | some found =>
    obtain ⟨keywords, hlead, htop, hpos⟩ := h
    exact iff_of_true rfl ⟨_, hlead.mem, htop ▸ hpos⟩

/-- There is a first matching category when an entry has a hit. -/
theorem isSome_firstMatchingCategory (text : String) (table : CategoryTable) :
    (firstMatchingCategory text table).isSome = true ↔
      ∃ entry ∈ table, 0 < hits (lower text.toList) entry := by
  rw [firstMatchingCategory, Option.isSome_map, List.find?_isSome]
  refine exists_congr fun entry => and_congr_right fun _ => ?_
  rw [hits_pos, List.any_eq_true]

/-- There is a best category exactly when there is a first one. -/
theorem isSome_bestMatchingCategory (text : String) (table : CategoryTable) :
    (bestMatchingCategory text table).isSome = (firstMatchingCategory text table).isSome := by
  rw [Bool.eq_iff_iff, (bestOf_bestMatchingCategory text table).isSome_iff,
    isSome_firstMatchingCategory]

/-! ### Lower case -/

/-- A text that is in lower case already is searched as it is. -/
theorem lower_lowered (text : String) : lower (lowered text).toList = lower text.toList := by
  rw [lowered, String.toList_ofList, lower_lower]

/-- Lower-casing a text first makes no difference. -/
theorem bestMatchingCategory_lowered (text : String) (table : CategoryTable) :
    bestMatchingCategory (lowered text) table = bestMatchingCategory text table := by
  rw [bestMatchingCategory, lower_lowered]
  rfl

/-! ### The entry of a category -/

/-- No category has two entries. -/
theorem nodup_keywordTable (role : Role) : ((keywordTable role).map (·.1)).Nodup := by
  rw [map_fst_keywordTable]
  cases role <;> decide

/-- In a table without repeated categories, looking up a category finds its entry. -/
theorem lookup_of_mem (hdistinct : (table.map (·.1)).Nodup) (h : (category, keywords) ∈ table) :
    table.lookup category = some keywords := by
  induction table with
  | nil => cases h
  | cons entry rest ih =>
    obtain ⟨hnew, hrest⟩ := List.nodup_cons.mp hdistinct
    rw [List.lookup_cons]
    rcases List.mem_cons.mp h with rfl | h
    · rw [beq_self_eq_true]
    · have hne : (category == entry.1) = false := by
        refine beq_false_of_ne fun heq => hnew ?_
        exact List.mem_map.mpr ⟨_, h, heq⟩
      rw [hne]
      exact ih hrest h

end Lexicon

namespace DocumentationAnalyzer

open Lexicon

variable {text : String} {table : CategoryTable} {evidence : Evidence} {rows : List Record}
  {c : Candidate} {s : Session}

/-! ### Evidence -/

/-- A text that was lowered has evidence exactly when the text itself has a matching category. -/
theorem isSome_evidence? (text : String) (table : CategoryTable) :
    (evidence? (lowered text) table).isSome = (firstMatchingCategory text table).isSome := by
  rw [evidence?, Option.isSome_map, bestMatchingCategory_lowered, isSome_bestMatchingCategory]

/-- The evidence is the leading category with the keywords that were counted for it. -/
theorem evidence?_eq_some (hdistinct : (table.map (·.1)).Nodup)
    (h : evidence? (lowered text) table = some evidence) :
    ∃ all, Leads (lower text.toList) table (evidence.category, all) ∧
      evidence.keywords = matchedKeywords (lower text.toList) all ∧
      0 < evidence.keywords.length ∧
      bestMatchingCategory (lowered text) table =
        some (evidence.category, evidence.keywords.length) := by
  obtain ⟨⟨category, top⟩, hbest, hevidence⟩ := Option.map_eq_some_iff.mp h
  have hof := bestOf_bestMatchingCategory (lowered text) table
  rw [hbest, lower_lowered] at hof
  obtain ⟨all, hlead, htop, hpos⟩ := hof
  -- The second look at the table finds the entry that was counted.
  have hkeywords : matchedKeywords (lowered text).toList ((table.lookup category).getD []) =
      matchedKeywords (lower text.toList) all := by
    rw [lookup_of_mem hdistinct hlead.mem, lowered, String.toList_ofList, Option.getD_some]
  have hlength : (matchedKeywords (lower text.toList) all).length = top := htop
  simp only [hkeywords] at hevidence
  subst hevidence
  refine ⟨all, hlead, rfl, ?_, ?_⟩
  · rw [hlength]
    exact hpos
  · rw [hlength, hbest]

/-! ### Candidates -/

/-- What is written about a candidate: the docstring that the graph has for it and, on a line of its
    own, the description. -/
def documentation (rows : List Record) (c : Candidate) : String :=
  (rows.head?.bind fun row => Record.nonBlank? row "docstring").getD "" ++ "\n" ++ c.description

/-- The endpoint has the leading category of its role, and all keywords of the category that the
    text mentions are recorded. -/
structure SupportedBy (role : Role) (text : String) (e : Endpoint) (keywords : List String) :
    Prop where
  /-- The keywords are those of the category, in the order of the table, and every earlier category
      has fewer. -/
  first : ∃ earlier all later,
    keywordTable role = earlier ++ (e.category, all) :: later ∧
      keywords = all.filter (mentions (lower text.toList)) ∧
      ∀ entry ∈ earlier, (entry.2.filter (mentions (lower text.toList))).length < keywords.length
  most : ∀ entry ∈ keywordTable role,
    (entry.2.filter (mentions (lower text.toList))).length ≤ keywords.length
  ne_nil : keywords ≠ []
  /-- The category was chosen by the number of these keywords. -/
  counted : bestMatchingCategory (lowered text) (keywordTable role) =
    some (e.category, keywords.length)
  recorded : e.metadata.get? "keywords" = some (.ofList .string keywords)
  confidence : e.confidence = clampConfidence (keywordConfidence keywords.length)

/-- What is confirmed on the evidence of a text is supported by it. -/
theorem supportedBy_confirmation (role : Role) (c : Candidate)
    (h : evidence? (lowered text) (keywordTable role) = some evidence) :
    SupportedBy role text (confirmation role c evidence) evidence.keywords := by
  obtain ⟨all, hlead, hkeywords, hpos, hbest⟩ := evidence?_eq_some (nodup_keywordTable role) h
  have hcount : hits (lower text.toList) (evidence.category, all) = evidence.keywords.length := by
    rw [hkeywords, hits]
  have hordered : (Json.ofList .string evidence.keywords).Ordered :=
    Json.ordered_ofList fun _ _ => trivial
  refine ⟨?_, fun entry hentry => hcount ▸ hlead.le hentry, List.ne_nil_of_length_pos hpos, hbest,
    Metadata.get?_insert_self _ _ hordered, rfl⟩
  obtain ⟨earlier, later, htable, hearlier, -⟩ := hlead
  exact ⟨earlier, all, later, htable, hkeywords, fun entry hentry => hcount ▸ hearlier entry hentry⟩

/-- An entity has code when its first row gives a context. -/
theorem hasCode_iff {id : NodeId}
    (hrows : s.graph.rows Statement.nodeCode [("node_id", .ofInt64 id)] = .ok rows) :
    HasCode s.graph id ↔ (rows.head?.bind CodeContext.ofRecord?).isSome = true := by
  constructor
  · rintro ⟨row, rest, code, hanswer, htext, hblank⟩
    cases hrows.symm.trans hanswer
    have hcode : Record.nonBlank? row "code" = some code :=
      Option.filter_eq_some_iff.mpr ⟨htext, by rw [hblank]; rfl⟩
    rw [List.head?_cons, Option.bind_some, CodeContext.ofRecord?, hcode]
    rfl
  · intro hsome
    obtain ⟨context, hcontext⟩ := Option.isSome_iff_exists.mp hsome
    exact hasCode_of_fetchCode (hcontext ▸ value_fetchCode_of_rows hrows)

/-- The text that is searched is what is written about the candidate, in lower case. -/
theorem evidenceText_of_context {context : CodeContext} (c : Candidate)
    (h : rows.head?.bind CodeContext.ofRecord? = some context) :
    evidenceText context.docstring c.description = lowered (documentation rows c) := by
  obtain ⟨row, hrow, hcontext⟩ := Option.bind_eq_some_iff.mp h
  obtain ⟨code, -, rfl⟩ := Option.map_eq_some_iff.mp hcontext
  rw [documentation, hrow]
  rfl

/-- **A candidate is confirmed by the best category and all its hits.**  Where its code can be
    looked up, a candidate is confirmed exactly when it has code and the documentation has a
    matching category.  Its category has the most keywords in the documentation, more than every
    earlier one.  The keywords that are recorded are all of these, and they are as many as were
    counted. -/
theorem judge_by_evidence (role : Role) (c : Candidate) (s : Session) (rows : List Record)
    (hrows : s.graph.rows Statement.nodeCode [("node_id", .ofInt64 c.nodeId)] = .ok rows) :
    ∃ verdict, (judge role c).value s = .ok verdict ∧
      (verdict.isSome = true ↔
        HasCode s.graph c.nodeId ∧
          (firstMatchingCategory (documentation rows c) (keywordTable role)).isSome = true) ∧
      ∀ e, verdict = some e → ∃ keywords, SupportedBy role (documentation rows c) e keywords := by
  have hfetch := value_fetchCode_of_rows hrows
  -- Without a context for the code nothing is searched.
  cases hcontext : rows.head?.bind CodeContext.ofRecord? with
  | none =>
    have hvalue : (judge role c).value s = .ok none := by
      rw [judge, ReviewM.value_bind_of_ok (hfetch.trans (congrArg _ hcontext))]
      rfl
    refine ⟨none, hvalue, iff_of_false Bool.false_ne_true ?_, fun e he => ?_⟩
    · rw [hasCode_iff hrows, hcontext]
      exact fun h => Bool.false_ne_true h.1
    · cases he
  | some context =>
    have htext := evidenceText_of_context c hcontext
    have hvalue : (judge role c).value s =
        .ok ((evidence? (lowered (documentation rows c)) (keywordTable role)).map
          (confirmation role c)) := by
      rw [judge, ReviewM.value_bind_of_ok (hfetch.trans (congrArg _ hcontext)), ← htext]
      rfl
    refine ⟨_, hvalue, ?_, fun e he => ?_⟩
    · rw [hasCode_iff hrows, hcontext, Option.isSome_map, isSome_evidence?]
      exact (and_iff_right rfl).symm
    · obtain ⟨evidence, hevidence, rfl⟩ := Option.map_eq_some_iff.mp he
      exact ⟨evidence.keywords, supportedBy_confirmation role c hevidence⟩

/-- A row with code and a docstring. -/
def documentedRow : Record :=
  [("code", .string "pass"), ("docstring", .string "Reads from the Network")]

/-- A graph with the same row for the code of every entity. -/
def documented : Session where
  graph := { handlers := [(Statement.nodeCode, fun _ _ => { rows := .ok [documentedRow] })] }

/-- Reading files and receiving from a network have two keywords each, and user input has one.  The
    candidate is confirmed as reading files, which comes before the network. -/
theorem judge_by_evidence_documented :
    let c : Candidate := { nodeId := 1, name := "load", description := "LOADS an HTTP form" }
    ∃ e keywords, (judge .source c).value documented = .ok (some e) ∧ e.category = .fileRead ∧
      keywords.length = 2 ∧ e.metadata.get? "keywords" = some (.ofList .string keywords) := by
  intro c
  have hlookup : documented.graph.handlers.lookup Statement.nodeCode =
      some fun _ _ => { rows := .ok [documentedRow] } := List.lookup_cons_self
  have hrows : documented.graph.rows Statement.nodeCode [("node_id", .ofInt64 c.nodeId)] =
      .ok [documentedRow] := Persistence.rows_of_lookup rfl hlookup _
  obtain ⟨verdict, hvalue, hiff, hsupport⟩ :=
    judge_by_evidence .source c documented [documentedRow] hrows
  have hbest : bestMatchingCategory (lowered (documentation [documentedRow] c))
      (keywordTable .source) = some (.fileRead, 2) := by decide +kernel
  -- There is a first matching category because there is a best one.
  have hsome : verdict.isSome = true := by
    refine hiff.mpr ⟨⟨_, _, "pass", hrows, by decide, by decide⟩, ?_⟩
    rw [← isSome_bestMatchingCategory, ← bestMatchingCategory_lowered, hbest]
    rfl
  obtain ⟨e, rfl⟩ := Option.isSome_iff_exists.mp hsome
  obtain ⟨keywords, hkeywords⟩ := hsupport e rfl
  obtain ⟨hcategory, hlength⟩ := Prod.mk.inj (Option.some.inj (hkeywords.counted.symm.trans hbest))
  exact ⟨e, keywords, hvalue, hcategory, hlength, hkeywords.recorded⟩

end DocumentationAnalyzer

end TaintReview
