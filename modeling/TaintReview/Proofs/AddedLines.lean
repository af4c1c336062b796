import TaintReview.Proofs.KeywordEvidence
import TaintReview.Proofs.PatternSearch

namespace TaintReview

/-!
# More documentation, no less evidence

Whether a keyword is mentioned hangs on what stands around it: word boundaries look at the
characters next to it, and the lower-case form of a sigma at the letters of its word.  A line feed
is neither part of a word nor of a letter's surroundings, so text on lines of its own takes nothing
away.

* `Text.AddsLines t u` — the text `u` is `t` with further lines, behind it or in front of it;
* `Text.lower_append_newline` — lower-casing goes line by line, whatever stands on the other lines;
* `Text.IsWholeIn.append_newline`, `Text.IsWholeIn.newline_append` — whole words stay whole words;
* `Lexicon.SaysNoLess` — a text has the keywords of another one, its best category has as many hits
  and its first category comes no later;
* **`DocumentationAnalyzer.added_lines_keep_evidence`** — further lines only add to the evidence.
-/

namespace Text

variable {t part : List Char}

/-! ### Lower case across lines -/

/-- The search for a cased letter goes on behind what it ignores. -/
theorem meetsCased_cons (c : Char) (cs : List Char) :
    meetsCased (c :: cs) = if isCaseIgnorable c then meetsCased cs else isCased c := by
  rw [meetsCased, List.dropWhile_cons]
  by_cases h : isCaseIgnorable c = true
  · rw [if_pos h, if_pos h, meetsCased]
  · rw [if_neg h, if_neg h]

/-- A line feed ends the search for a cased letter. -/
theorem meetsCased_append_newline (cs rest : List Char) :
    meetsCased (cs ++ '\n' :: rest) = meetsCased cs := by
  induction cs with
  | nil =>
    have hcase : isCaseIgnorable '\n' = false ∧ isCased '\n' = false := by decide
    rw [List.nil_append, meetsCased_cons, hcase.1, hcase.2]
    rfl
  | cons c cs ih => rw [List.cons_append, meetsCased_cons, meetsCased_cons, ih]

/-- What stands before a line feed does not matter. -/
theorem lowerFrom_append_newline (before rest cs : List Char) :
    lowerFrom (before ++ '\n' :: rest) cs = lowerFrom before cs := by
  induction cs generalizing before with
  | nil => rfl
  | cons c cs ih =>
    have hrest := ih (c :: before)
    rw [List.cons_append] at hrest
    rw [lowerFrom, lowerFrom, lowerSigma, lowerSigma, meetsCased_append_newline, hrest]

/-- Lower-casing goes line by line, whatever stands before the text. -/
theorem lowerFrom_lines (before t u : List Char) :
    lowerFrom before (t ++ '\n' :: u) = lowerFrom before t ++ '\n' :: lower u := by
  induction t generalizing before with
  | nil =>
    have hstep : lowerFrom before ('\n' :: u) = '\n' :: lowerFrom ('\n' :: before) u := rfl
    -- Behind the line feed it is as if the text had just begun.
    rw [List.nil_append, hstep]
    exact congrArg ('\n' :: ·) (lowerFrom_append_newline [] before u)
  | cons c t ih =>
    rw [List.cons_append, lowerFrom, lowerFrom, lowerSigma, lowerSigma,
      meetsCased_append_newline, ih]
    -- Whether a sigma is a final one is decided within its line.
    split
    · rfl
    · rw [List.append_assoc]

/-- **Lower-casing goes line by line.** -/
theorem lower_append_newline (t u : List Char) :
    lower (t ++ '\n' :: u) = lower t ++ '\n' :: lower u :=
  lowerFrom_lines [] t u

/-! ### Whole words across lines -/

/-- A line feed behind a text is no word character, so the text begins as it did. -/
theorem touchesWord_head?_append (cs rest : List Char) :
    touchesWord (cs ++ '\n' :: rest).head? = touchesWord cs.head? := by
  cases cs with
  | nil => exact (by decide : isWord '\n' = false)
  | cons c cs => rfl

/-- A line feed in front of a text is no word character, so the text ends as it did. -/
theorem touchesWord_getLast?_append (rest cs : List Char) :
    touchesWord (rest ++ '\n' :: cs).getLast? = touchesWord cs.getLast? := by
  rw [List.getLast?_append_cons]
  cases cs with
  | nil => decide
  | cons c cs => rw [List.getLast?_cons_cons]

namespace IsWholeIn

/-- What stands whole in a text stands whole in it when lines follow. -/
theorem append_newline (h : IsWholeIn part t) (u : List Char) :
    IsWholeIn part (t ++ '\n' :: u) := by
  obtain ⟨front, back, rfl, hstart, hstop⟩ := h
  refine ⟨front, back ++ '\n' :: u, ?_, ?_, ?_⟩
  · rw [List.append_assoc _ back]
  · rw [isBoundary, ← List.append_assoc, touchesWord_head?_append]
    exact hstart
  · rw [isBoundary, touchesWord_head?_append]
    exact hstop

/-- What stands whole in a text stands whole in it when lines precede. -/
theorem newline_append (h : IsWholeIn part t) (u : List Char) :
    IsWholeIn part (u ++ '\n' :: t) := by
  obtain ⟨front, back, rfl, hstart, hstop⟩ := h
  refine ⟨u ++ '\n' :: front, back, ?_, ?_, ?_⟩
  · simp only [List.append_assoc, List.cons_append]
  · rw [isBoundary, touchesWord_getLast?_append]
    exact hstart
  · rw [isBoundary, List.append_assoc, List.cons_append, touchesWord_getLast?_append]
    exact hstop

end IsWholeIn

/-- The second text is the first one with further lines, behind it or in front of it. -/
def AddsLines (t u : String) : Prop := ∃ more, u = t ++ "\n" ++ more ∨ u = more ++ "\n" ++ t

/-- A pattern that occurs in the lower-case form of a text still occurs when lines are added. -/
theorem occursIn_of_addsLines {t u : String} (h : AddsLines t u) {p : Pattern}
    (hp : p.occursIn (lower t.toList) = true) : p.occursIn (lower u.toList) = true := by
  rw [Pattern.occursIn_iff] at hp ⊢
  obtain ⟨part, hpart, hwhole⟩ := hp
  -- The part that occurs is the same; it is still whole, on the line where it was.
  refine ⟨part, hpart, ?_⟩
  have hnewline : "\n".toList = ['\n'] := by decide
  obtain ⟨more, rfl | rfl⟩ := h
  · rw [String.toList_append, String.toList_append, hnewline, List.append_assoc,
      List.singleton_append, lower_append_newline]
    exact hwhole.append_newline _
  · rw [String.toList_append, String.toList_append, hnewline, List.append_assoc,
      List.singleton_append, lower_append_newline]
    exact hwhole.newline_append _

end Text

open Text

namespace Lexicon

variable {t u : String} {table : CategoryTable} {entry : Category × List String}

/-! ### Keywords and categories -/

/-- What the first text says for the categories of a table the second one says too. -/
structure SaysNoLess (table : CategoryTable) (t u : String) : Prop where
  mentions : ∀ entry ∈ table, ∀ keyword ∈ entry.2,
    mentions (lower t.toList) keyword = true → mentions (lower u.toList) keyword = true
  /-- The best category may be another one, and it has no fewer hits. -/
  best : ∀ category top, bestMatchingCategory t table = some (category, top) →
    ∃ category' top', bestMatchingCategory u table = some (category', top') ∧ top ≤ top'
  /-- The first category may be another one, which then comes earlier in the table. -/
  first : ∀ category, firstMatchingCategory t table = some category →
    ∃ category', firstMatchingCategory u table = some category' ∧
      (table.map (·.1)).idxOf category' ≤ (table.map (·.1)).idxOf category

/-- A text that mentions all keywords of another has no fewer hits in an entry. -/
theorem hits_le_of_mentions {text text' : List Char}
    (h : ∀ keyword ∈ entry.2, mentions text keyword = true → mentions text' keyword = true) :
    hits text entry ≤ hits text' entry := by
  rw [hits, hits, matchedKeywords, matchedKeywords, ← List.countP_eq_length_filter,
    ← List.countP_eq_length_filter]
  exact List.countP_mono_left h

/-- The best category then has no fewer hits, though it may be another one. -/
theorem best_of_mentions
    (h : ∀ entry ∈ table, ∀ keyword ∈ entry.2,
      mentions (lower t.toList) keyword = true → mentions (lower u.toList) keyword = true)
    {category : Category} {top : Nat}
    (hbest : bestMatchingCategory t table = some (category, top)) :
    ∃ category' top', bestMatchingCategory u table = some (category', top') ∧ top ≤ top' := by
  have hof := bestOf_bestMatchingCategory t table
  rw [hbest] at hof
  obtain ⟨keywords, hlead, htop, hpos⟩ := hof
  -- The entry that led before has at least as many hits, and the one that leads now as many as it.
  have hle : top ≤ topHits (bestMatchingCategory u table) := calc
    top = hits (lower t.toList) (category, keywords) := htop.symm
    _ ≤ hits (lower u.toList) (category, keywords) := hits_le_of_mentions (h _ hlead.mem)
    _ ≤ topHits (bestMatchingCategory u table) :=
      (bestOf_bestMatchingCategory u table).le hlead.mem
  cases hbest' : bestMatchingCategory u table with
  -- The entry that led before has hits, so there is a best category.
  | none =>
    rw [hbest'] at hle
    exact absurd hle (Nat.not_le_of_lt hpos)
  | some found =>
    rw [hbest'] at hle
    exact ⟨found.1, found.2, rfl, hle⟩

/-- A search with a weaker test stops at the same entry or at an earlier one. -/
theorem find?_of_imp {α : Type} {p q : α → Bool} {as : List α} {a : α}
    (h : ∀ a ∈ as, p a = true → q a = true) (hfind : as.find? p = some a) :
    ∃ b earlier later, as.find? q = some b ∧ as = earlier ++ b :: later ∧ a ∈ b :: later := by
  have hmem := List.mem_of_find?_eq_some hfind
  have hsome : (as.find? q).isSome = true :=
    List.find?_isSome.mpr ⟨a, hmem, h a hmem (List.find?_some hfind)⟩
  obtain ⟨b, hb⟩ := Option.isSome_iff_exists.mp hsome
  obtain ⟨-, earlier, later, rfl, hearlier⟩ := List.find?_eq_some_iff_append.mp hb
  refine ⟨b, earlier, later, hb, rfl, (List.mem_append.mp hmem).resolve_left fun ha => ?_⟩
  -- An entry that passes the stronger test is not passed over by the weaker one.
  have hnot := hearlier a ha
  rw [h a hmem (List.find?_some hfind)] at hnot
  cases hnot

/-- The first category then comes no later in the table. -/
theorem first_of_mentions (hdistinct : (table.map (·.1)).Nodup)
    (h : ∀ entry ∈ table, ∀ keyword ∈ entry.2,
      mentions (lower t.toList) keyword = true → mentions (lower u.toList) keyword = true)
    {category : Category} (hfirst : firstMatchingCategory t table = some category) :
    ∃ category', firstMatchingCategory u table = some category' ∧
      (table.map (·.1)).idxOf category' ≤ (table.map (·.1)).idxOf category := by
  obtain ⟨entry, hfind, rfl⟩ := Option.map_eq_some_iff.mp hfirst
  have hany : ∀ entry ∈ table, entry.2.any (mentions (lower t.toList)) = true →
      entry.2.any (mentions (lower u.toList)) = true := by
    intro entry hentry hany
    obtain ⟨keyword, hkeyword, hmentions⟩ := List.any_eq_true.mp hany
    exact List.any_eq_true.mpr ⟨keyword, hkeyword, h entry hentry keyword hkeyword hmentions⟩
  obtain ⟨found, earlier, later, hfound, rfl, hmem⟩ := find?_of_imp hany hfind
  refine ⟨found.1, Option.map_eq_some_iff.mpr ⟨found, hfound, rfl⟩, ?_⟩
  -- Neither category has an entry before the one that is found.
  have hnot : ∀ e ∈ found :: later, e.1 ∉ earlier.map (·.1) := by
    intro e he hearlier
    rw [List.map_append] at hdistinct
    exact List.disjoint_of_nodup_append hdistinct hearlier (List.mem_map_of_mem he)
  rw [List.map_append, List.idxOf_append_of_notMem (hnot found List.mem_cons_self),
    List.idxOf_append_of_notMem (hnot entry hmem), List.map_cons, List.idxOf_cons_self]
  exact Nat.le_add_right _ _

/-- A text with further lines says no less. -/
theorem saysNoLess_of_addsLines (role : Role) (h : AddsLines t u) :
    SaysNoLess (keywordTable role) t u := by
  have hmentions : ∀ entry ∈ keywordTable role, ∀ keyword ∈ entry.2,
      mentions (lower t.toList) keyword = true → mentions (lower u.toList) keyword = true :=
    fun _ _ _ _ hkeyword => occursIn_of_addsLines h hkeyword
  exact
    { mentions := hmentions
      best := fun _ _ => best_of_mentions hmentions
      first := fun _ => first_of_mentions (nodup_keywordTable role) hmentions }

end Lexicon

namespace DocumentationAnalyzer

open Lexicon

variable {role : Role} {c : Candidate} {s : Session} {e : Endpoint}

/-! ### Candidates -/

/-- A candidate is confirmed when its code is there and its documentation has evidence. -/
theorem value_judge_eq_some_iff :
    (judge role c).value s = .ok (some e) ↔
      ∃ context evidence, (fetchCode c.nodeId).value s = .ok (some context) ∧
        evidence? (evidenceText context.docstring c.description) (keywordTable role) =
          some evidence ∧ e = confirmation role c evidence := by
  constructor
  · intro h
    obtain ⟨context?, hfetch, hjudge⟩ := ReviewM.bind_eq_ok.mp h
    cases context? with
    -- Without code the candidate is passed over.
    | none => cases hjudge
    | some context =>
      obtain ⟨evidence, hevidence, rfl⟩ := Option.map_eq_some_iff.mp (Except.ok.inj hjudge)
      exact ⟨context, evidence, hfetch, hevidence, rfl⟩
  · rintro ⟨context, evidence, hfetch, hevidence, rfl⟩
    refine ReviewM.bind_eq_ok.mpr ⟨some context, hfetch, ?_⟩
    exact congrArg Except.ok (Option.map_eq_some_iff.mpr ⟨evidence, hevidence, rfl⟩)

/-- Where a text has evidence, the text with further lines has it too, with no fewer keywords. -/
theorem evidence?_of_addsLines {t u : String} (h : AddsLines t u) {evidence : Evidence}
    (hevidence : evidence? (lowered t) (keywordTable role) = some evidence) :
    ∃ evidence', evidence? (lowered u) (keywordTable role) = some evidence' ∧
      evidence.keywords.length ≤ evidence'.keywords.length := by
  have hdistinct := nodup_keywordTable role
  obtain ⟨-, -, -, -, hbest⟩ := evidence?_eq_some hdistinct hevidence
  rw [bestMatchingCategory_lowered] at hbest
  obtain ⟨category', top', hbest', hle⟩ := (saysNoLess_of_addsLines role h).best _ _ hbest
  have hsome : (evidence? (lowered u) (keywordTable role)).isSome = true := by
    rw [isSome_evidence?, ← isSome_bestMatchingCategory, hbest']
    rfl
  obtain ⟨evidence', hevidence'⟩ := Option.isSome_iff_exists.mp hsome
  obtain ⟨-, -, -, -, hcount⟩ := evidence?_eq_some hdistinct hevidence'
  rw [bestMatchingCategory_lowered, hbest'] at hcount
  obtain ⟨-, rfl⟩ := Prod.mk.inj (Option.some.inj hcount)
  exact ⟨evidence', hevidence', hle⟩

/-- **Further lines only add to the evidence.**  Text on lines of its own takes no keyword away, in
    front of a text or behind it: the best category has no fewer hits, and the first category comes
    no later.  So a candidate that is confirmed stays so when lines are appended to its description,
    and no fewer keywords are recorded. -/
theorem added_lines_keep_evidence (role : Role) :
    (∀ t u, AddsLines t u → SaysNoLess (keywordTable role) t u) ∧
      ∀ (c : Candidate) (more : String) (s : Session) (e : Endpoint),
        (judge role c).value s = .ok (some e) →
        ∃ e' keywords keywords',
          (judge role { c with description := c.description ++ "\n" ++ more }).value s =
            .ok (some e') ∧
          e.metadata.get? "keywords" = some (.ofList .string keywords) ∧
          e'.metadata.get? "keywords" = some (.ofList .string keywords') ∧
          keywords.length ≤ keywords'.length := by
  refine ⟨fun t u => saysNoLess_of_addsLines role, fun c more s e h => ?_⟩
  obtain ⟨context, evidence, hfetch, hevidence, rfl⟩ := value_judge_eq_some_iff.mp h
  -- The description is the last part of the text that is searched.
  have hlines : AddsLines (context.docstring.getD "" ++ "\n" ++ c.description)
      (context.docstring.getD "" ++ "\n" ++ (c.description ++ "\n" ++ more)) :=
    ⟨more, .inl (by simp only [String.append_assoc])⟩
  obtain ⟨evidence', hevidence', hle⟩ := evidence?_of_addsLines hlines hevidence
  refine ⟨_, evidence.keywords, evidence'.keywords,
    value_judge_eq_some_iff.mpr ⟨context, evidence', hfetch, hevidence', rfl⟩, ?_, ?_, hle⟩
  · exact Metadata.get?_insert_self _ _ (Json.ordered_ofList fun _ _ => trivial)
  · exact Metadata.get?_insert_self _ _ (Json.ordered_ofList fun _ _ => trivial)

/-- Reading files and receiving from a network have one keyword each in the documentation, and files
    come first.  One line more speaks for the network. -/
theorem added_lines_keep_evidence_overHttp :
    let c : Candidate := { nodeId := 1, name := "load", description := "ΤΟΥ ΛΟΓΟΥΣ" }
    SaysNoLess (keywordTable .sink) "Executes SQL" "LOGΣ\nExecutes SQL" ∧
      ∃ e, (judge .source c).value documented = .ok (some e) ∧ e.category = .fileRead ∧
        ∃ e' keywords keywords',
          (judge .source { c with description := c.description ++ "\n" ++ "over HTTP" }).value
            documented = .ok (some e') ∧
          e.metadata.get? "keywords" = some (.ofList .string keywords) ∧
          e'.metadata.get? "keywords" = some (.ofList .string keywords') ∧
          keywords.length ≤ keywords'.length := by
  intro c
  have hlookup : documented.graph.handlers.lookup Statement.nodeCode =
      some fun _ _ => { rows := .ok [documentedRow] } := List.lookup_cons_self
  have hrows : documented.graph.rows Statement.nodeCode [("node_id", .ofInt64 c.nodeId)] =
      .ok [documentedRow] := Persistence.rows_of_lookup rfl hlookup _
  have hevidence : evidence? (evidenceText (some "Reads from the Network") c.description)
      (keywordTable .source) = some ⟨.fileRead, ["read"]⟩ := by decide +kernel
  have hjudge : (judge .source c).value documented =
      .ok (some (confirmation .source c ⟨.fileRead, ["read"]⟩)) :=
    value_judge_eq_some_iff.mpr ⟨_, _, value_fetchCode_of_rows hrows, hevidence, rfl⟩
  exact ⟨(added_lines_keep_evidence .sink).1 _ _ ⟨"LOGΣ", .inr rfl⟩, _, hjudge, rfl,
    (added_lines_keep_evidence .source).2 c "over HTTP" documented _ hjudge⟩

end DocumentationAnalyzer

end TaintReview
