import TaintReview.Lexicon.Keywords
import TaintReview.Proofs.LetterCase
import TaintReview.Proofs.PatternSearch

namespace TaintReview.Lexicon

open Text

/-!
# What texts mention and what they claim

Keywords and claims are looked for by patterns.  This file says which texts are found, without
patterns.

* **`mentions_iff_whole_words`** — a text mentions a keyword exactly when the keyword's words stand
  in it between word boundaries, with gaps between them and with an ending at most;
* `FoldsAlike` — comparison of letters under simple case folding; on plain words, made of small
  letters from `a` to `z`, it is how patterns compare letters (`matches_folded_of_isPlain`);
* `Offers p alternatives`, `Speaks p choices` — the pattern `p` stands for the texts made of the
  words of one of the alternatives, or of one alternative from each of the choices in turn, with a
  lemma for each way to put such patterns together;
* **`claims_iff_grammar`** — a text claims a role exactly when the words of a claim stand in it
  between word boundaries, and no other word stands between the verb and the role.
-/

variable {p q : Pattern} {choices : List (List String)} {alternatives : List String}
  {w text part cs : List Char} {letter c : Char}

/-! ### Keywords -/

/-- What an optional ending stands for. -/
theorem matches_inflections :
    (Pattern.optional (.oneOf (inflections.map fun s => .literal s.toList))).Matches cs ↔
      ∃ ending ∈ ["", "s", "es", "ed", "ing"], cs = ending.toList := by
  have hliteral : ∀ s : String, (Pattern.literal s.toList).Matches cs ↔ cs = s.toList := by
    intro s
    rw [Pattern.matches_literal, List.forall₂_eq_eq_eq, eq_comm]
  show _ ↔ ∃ ending ∈ "" :: inflections, cs = ending.toList
  rw [Pattern.matches_optional, Pattern.matches_oneOf, List.exists_mem_cons_iff, or_comm]
  simp only [hliteral, String.toList_empty]

/-- What the pattern of a keyword stands for. -/
theorem matches_keywordPattern {keyword : String} :
    (keywordPattern keyword).Matches part ↔
      ∃ body, ∃ ending ∈ ["", "s", "es", "ed", "ing"],
        part = body ++ ending.toList ∧ InWords Eq (words keyword.toList) body := by
  have hwords : ∀ body, (Pattern.spaced ((words keyword.toList).map .literal)).Matches body ↔
      InWords Eq (words keyword.toList) body :=
    fun body => Pattern.matches_spaced fun w _ cs => Pattern.matches_literal
  rw [keywordPattern, Pattern.matches_seq]
  simp only [hwords, matches_inflections]
  constructor
  · rintro ⟨body, _, rfl, hbody, ending, hmem, rfl⟩
    exact ⟨body, ending, hmem, rfl, hbody⟩
  · rintro ⟨body, ending, hmem, rfl, hbody⟩
    exact ⟨body, _, rfl, hbody, ending, hmem, rfl⟩

/-- **Keywords count as whole words, possibly inflected.**  The words of a keyword are what it holds
    between blanks.  The text mentions the keyword exactly when these words stand in it in their
    order, letter by letter and with one or more blanks between them, followed by one of the endings
    or by none, so that the whole starts and ends at word boundaries. -/
theorem mentions_iff_whole_words (text : List Char) (keyword : String) :
    ((∀ w ∈ words keyword.toList, w ≠ [] ∧ ∀ c ∈ w, isBlank c = false) ∧
      ∃ front body back, keyword.toList = front ++ body ++ back ∧
        (∀ c ∈ front ++ back, isBlank c = true) ∧ InWords Eq (words keyword.toList) body) ∧
    (mentions text keyword = true ↔
      ∃ body, ∃ ending ∈ ["", "s", "es", "ed", "ing"],
        InWords Eq (words keyword.toList) body ∧ IsWholeIn (body ++ ending.toList) text) := by
  constructor
  · obtain ⟨body, back, heq, hback, hbody⟩ := words_inWords keyword.toList
    refine ⟨isWordText_of_mem_words keyword.toList, _, body, back, heq, ?_, hbody⟩
    exact List.forall_mem_append.mpr ⟨fun c hc => List.mem_takeWhile_imp hc, hback⟩
  · rw [mentions, Pattern.occursIn_iff]
    simp only [matches_keywordPattern]
    constructor
    · rintro ⟨_, ⟨body, ending, hmem, rfl, hbody⟩, hwhole⟩
      exact ⟨body, ending, hmem, hbody, hwhole⟩
    · rintro ⟨body, ending, hmem, hbody, hwhole⟩
      exact ⟨_, ⟨body, ending, hmem, rfl, hbody⟩, hwhole⟩

example : mentions "Two forms.".toList "form" = true ∧
    mentions "information".toList "form" = false := by decide +kernel

/-! ### Letters in any case -/

/-- Do two characters have the same simple case folding? -/
def FoldsAlike (letter c : Char) : Prop := foldChar letter = foldChar c

theorem foldChar_self (h : 97 ≤ letter.toNat ∧ letter.toNat ≤ 122) : foldChar letter = letter := by
  rw [foldChar_eq_iff h, sameLetter_iff]
  exact .inl ((toLower_cases letter).resolve_left (by omega))

/-- Patterns compare small letters under simple case folding. -/
theorem foldsAlike_iff (h : 97 ≤ letter.toNat ∧ letter.toNat ≤ 122) :
    FoldsAlike letter c ↔ Pattern.sameLetter letter c = true := by
  rw [FoldsAlike, foldChar_self h, eq_comm, foldChar_eq_iff h]

/-- Is the word made of small letters from `a` to `z`? -/
def isPlain (w : List Char) : Bool :=
  !w.isEmpty && w.all fun c => decide (97 ≤ c.toNat ∧ c.toNat ≤ 122)

theorem isPlain_iff :
    isPlain w = true ↔ w ≠ [] ∧ ∀ c ∈ w, 97 ≤ c.toNat ∧ c.toNat ≤ 122 := by
  simp [isPlain]

/-- Patterns compare the letters of plain words under simple case folding. -/
theorem matches_folded_of_isPlain (h : isPlain w = true) :
    (Pattern.folded w).Matches cs ↔ List.Forall₂ FoldsAlike w cs := by
  obtain ⟨-, hletters⟩ := isPlain_iff.mp h
  rw [Pattern.matches_folded]
  clear h
  induction w generalizing cs with
  | nil => rw [List.forall₂_nil_left_iff, List.forall₂_nil_left_iff]
  | cons letter w ih =>
    obtain ⟨hletter, hw⟩ := List.forall_mem_cons.mp hletters
    simp only [List.forall₂_cons_left_iff, ih hw, foldsAlike_iff hletter]

/-- A plain word is a word. -/
theorem isWordText_of_isPlain (h : isPlain w = true) : IsWordText w := by
  obtain ⟨hne, hletters⟩ := isPlain_iff.mp h
  refine ⟨hne, fun c hc => ?_⟩
  have hc := hletters c hc
  exact (isLetter_of_bounds (by omega) hc.2).not_blank

/-- A plain word is its only word. -/
theorem words_of_isPlain (h : isPlain w = true) : words w = [w] :=
  words_of_inWords (.last (List.forall₂_refl w))
    (List.forall_mem_singleton.mpr (isWordText_of_isPlain h))

/-- What is like a plain word is a word, and it folds to the plain one. -/
theorem isWordText_of_foldsAlike {v : List Char} (h : isPlain w = true)
    (hv : List.Forall₂ FoldsAlike w v) : IsWordText v ∧ v.map foldChar = w := by
  obtain ⟨hne, hletters⟩ := isPlain_iff.mp h
  have hlength : v ≠ [] := by
    rintro rfl
    exact hne (List.forall₂_nil_right_iff.mp hv)
  clear h hne
  have hfolded : (∀ c ∈ v, isBlank c = false) ∧ v.map foldChar = w := by
    clear hlength
    induction hv with
    | nil => exact ⟨List.forall_mem_nil _, rfl⟩
    | @cons letter c w v hc hv ih =>
      obtain ⟨hletter, hw⟩ := List.forall_mem_cons.mp hletters
      obtain ⟨hblank, hmap⟩ := ih hw
      have hsame := (foldsAlike_iff hletter).mp hc
      refine ⟨List.forall_mem_cons.mpr ⟨?_, hblank⟩, ?_⟩
      · exact (isLetter_of_sameLetter hletter hsame).not_blank
      · rw [List.map_cons, hmap, ← hc, foldChar_self hletter]
  exact ⟨⟨hlength, hfolded.1⟩, hfolded.2⟩

/-- A text that is like plain words has these words, in some case. -/
theorem words_of_foldsAlike {ws : List (List Char)} (hws : ∀ w ∈ ws, isPlain w = true)
    (h : InWords FoldsAlike ws text) : (words text).map (List.map foldChar) = ws := by
  obtain ⟨vs, halike, hvs⟩ := h.exists_own
  -- The words of the text itself are words, and each one folds to its plain one.
  have hown : (∀ v ∈ vs, IsWordText v) ∧ vs.map (List.map foldChar) = ws := by
    clear h hvs
    induction halike with
    | nil => exact ⟨List.forall_mem_nil _, rfl⟩
    | cons hv _ ih =>
      obtain ⟨hw, hrest⟩ := List.forall_mem_cons.mp hws
      obtain ⟨hword, hmap⟩ := isWordText_of_foldsAlike hw hv
      obtain ⟨hwords, hmaps⟩ := ih hrest
      exact ⟨List.forall_mem_cons.mpr ⟨hword, hwords⟩, by rw [List.map_cons, hmap, hmaps]⟩
  rw [words_of_inWords hvs hown.1, hown.2]

/-! ### Phrases -/

/-- The words of texts, one after the other. -/
def spoken (texts : List String) : List (List Char) := texts.flatMap fun s => words s.toList

theorem spoken_cons (s : String) (texts : List String) :
    spoken (s :: texts) = words s.toList ++ spoken texts :=
  List.flatMap_cons

/-- The pattern stands for the texts that are made of the words of one of the alternatives, which
    are plain. -/
structure Offers (p : Pattern) (alternatives : List String) : Prop where
  ne_nil : ∀ s ∈ alternatives, words s.toList ≠ []
  plain : ∀ s ∈ alternatives, ∀ w ∈ words s.toList, isPlain w = true
  matches_iff : ∀ text, p.Matches text ↔
    ∃ s ∈ alternatives, InWords FoldsAlike (words s.toList) text

/-- The pattern stands for the texts that are made of the words of one alternative from each of the
    choices in turn. -/
structure Speaks (p : Pattern) (choices : List (List String)) : Prop where
  ne_nil : ∀ texts, List.Forall₂ (· ∈ ·) texts choices → spoken texts ≠ []
  plain : ∀ texts, List.Forall₂ (· ∈ ·) texts choices → ∀ w ∈ spoken texts, isPlain w = true
  matches_iff : ∀ text, p.Matches text ↔ ∃ texts, List.Forall₂ (· ∈ ·) texts choices ∧
    InWords FoldsAlike (spoken texts) text

/-- Are the alternatives texts of plain words? -/
def arePlain (alternatives : List String) : Bool :=
  alternatives.all fun s => !(words s.toList).isEmpty && (words s.toList).all isPlain

theorem arePlain_iff :
    arePlain alternatives = true ↔ ∀ s ∈ alternatives,
      words s.toList ≠ [] ∧ ∀ w ∈ words s.toList, isPlain w = true := by
  simp [arePlain]

namespace Offers

/-- A choice of phrases offers these phrases. -/
theorem phrases (h : arePlain alternatives = true) :
    Offers (phrases alternatives) alternatives where
  ne_nil s hs := (arePlain_iff.mp h s hs).1
  plain s hs := (arePlain_iff.mp h s hs).2
  matches_iff := by
    intro text
    rw [Lexicon.phrases, Pattern.matches_oneOf]
    refine exists_congr fun s => and_congr_right fun hs => ?_
    have hplain := (arePlain_iff.mp h s hs).2
    exact Pattern.matches_spaced fun w hw cs => matches_folded_of_isPlain (hplain w hw)

/-- A plain word with and without an ending. -/
theorem ending (first last : String) (hfirst : isPlain first.toList = true)
    (hlast : isPlain last.toList = true) :
    Offers (.seq (.folded first.toList) (.optional (.folded last.toList)))
      [first, first ++ last] := by
  -- With its ending the word is plain as well.
  have hboth : isPlain (first.toList ++ last.toList) = true := by
    obtain ⟨hne, hletters⟩ := isPlain_iff.mp hfirst
    obtain ⟨-, hletters'⟩ := isPlain_iff.mp hlast
    rw [isPlain_iff]
    exact ⟨List.append_ne_nil_of_left_ne_nil hne _,
      List.forall_mem_append.mpr ⟨hletters, hletters'⟩⟩
  have hwords := words_of_isPlain hfirst
  have hwords' := words_of_isPlain hboth
  refine ⟨?_, ?_, fun text => ?_⟩
  · simp [hwords, hwords']
  · simp [hwords, hwords', hfirst, hboth]
  · simp only [List.exists_mem_cons_iff, hwords, hwords', InWords.singleton_iff,
      String.toList_append, ← matches_folded_of_isPlain hfirst, ← matches_folded_of_isPlain hboth,
      Pattern.matches_seq, Pattern.matches_optional, Pattern.matches_folded_append]
    constructor
    · rintro ⟨cs, ds, rfl, hcs, hds | rfl⟩
      · exact .inr (.inl ⟨cs, ds, rfl, hcs, hds⟩)
      · exact .inl (by rwa [List.append_nil])
    · rintro (hcs | ⟨cs, ds, rfl, hcs, hds⟩ | ⟨s, hs, -⟩)
      · exact ⟨text, [], (List.append_nil _).symm, hcs, .inr rfl⟩
      · exact ⟨cs, ds, rfl, hcs, .inl hds⟩
      · cases hs

/-- What is offered is spoken as a single choice. -/
theorem speaks (h : Offers p alternatives) : Speaks p [alternatives] := by
  have hone : ∀ texts, List.Forall₂ (· ∈ ·) texts [alternatives] ↔
      ∃ s ∈ alternatives, texts = [s] := by
    intro texts
    simp only [List.forall₂_cons_right_iff, List.forall₂_nil_right_iff]
    constructor
    · rintro ⟨s, _, hs, rfl, rfl⟩
      exact ⟨s, hs, rfl⟩
    · rintro ⟨s, hs, rfl⟩
      exact ⟨s, [], hs, rfl, rfl⟩
  have hspoken : ∀ s : String, spoken [s] = words s.toList := fun s => List.append_nil _
  refine ⟨?_, ?_, fun text => ?_⟩
  · intro texts htexts
    obtain ⟨s, hs, rfl⟩ := (hone texts).mp htexts
    rw [hspoken]
    exact h.ne_nil s hs
  · intro texts htexts
    obtain ⟨s, hs, rfl⟩ := (hone texts).mp htexts
    rw [hspoken]
    exact h.plain s hs
  · rw [h.matches_iff]
    constructor
    · rintro ⟨s, hs, htext⟩
      exact ⟨[s], (hone _).mpr ⟨s, hs, rfl⟩, by rwa [hspoken]⟩
    · rintro ⟨texts, htexts, htext⟩
      obtain ⟨s, hs, rfl⟩ := (hone texts).mp htexts
      exact ⟨s, hs, by rwa [hspoken] at htext⟩

/-- After a gap the other choices are spoken. -/
theorem gap_seq (hp : Offers p alternatives) (hq : Speaks q choices) :
    Speaks (.seq p (.seq .gap q)) (alternatives :: choices) := by
  refine ⟨?_, ?_, fun text => ?_⟩
  · rintro _ (_ | ⟨hs, htexts⟩)
    exact List.append_ne_nil_of_left_ne_nil (hp.ne_nil _ hs) _
  · rintro _ (_ | ⟨hs, htexts⟩)
    exact List.forall_mem_append.mpr ⟨hp.plain _ hs, hq.plain _ htexts⟩
  · simp only [Pattern.matches_seq, Pattern.matches_gap, hp.matches_iff, hq.matches_iff]
    constructor
    · rintro ⟨cs, _, rfl, ⟨s, hs, hcs⟩, gap, ds, rfl, hgap, texts, htexts, hds⟩
      refine ⟨s :: texts, .cons hs htexts, ?_⟩
      rw [spoken_cons, InWords.append_iff (hp.ne_nil s hs) (hq.ne_nil texts htexts)]
      exact ⟨cs, gap, ds, (List.append_assoc _ _ _).symm, hcs, hgap, hds⟩
    · rintro ⟨_, _ | ⟨hs, htexts⟩, htext⟩
      rw [spoken_cons, InWords.append_iff (hp.ne_nil _ hs) (hq.ne_nil _ htexts)] at htext
      obtain ⟨cs, gap, ds, rfl, hcs, hgap, hds⟩ := htext
      exact ⟨cs, gap ++ ds, List.append_assoc _ _ _, ⟨_, hs, hcs⟩, gap, ds, rfl, hgap, _, htexts,
        hds⟩

/-- A phrase that is left out leaves its gap out, too. -/
theorem matches_optionalWord_seq :
    (Pattern.seq (optionalWord p) q).Matches text ↔
      (Pattern.seq p (.seq .gap q)).Matches text ∨ q.Matches text := by
  simp only [optionalWord, Pattern.matches_seq, Pattern.matches_optional]
  constructor
  · rintro ⟨_, es, rfl, ⟨cs, ds, rfl, hcs, hds⟩ | rfl, hes⟩
    · exact .inl ⟨cs, ds ++ es, List.append_assoc _ _ _, hcs, ds, es, rfl, hds, hes⟩
    · exact .inr hes
  · rintro (⟨cs, _, rfl, hcs, ds, es, rfl, hds, hes⟩ | hq)
    · exact ⟨cs ++ ds, es, (List.append_assoc _ _ _).symm, .inl ⟨cs, ds, rfl, hcs, hds⟩, hes⟩
    · exact ⟨[], text, rfl, .inr rfl, hq⟩

/-- One alternative more can be chosen, or one of the others. -/
theorem forall₂_mem_cons_cons {texts : List String} {s : String} :
    List.Forall₂ (· ∈ ·) texts ((s :: alternatives) :: choices) ↔
      List.Forall₂ (· ∈ ·) texts (alternatives :: choices) ∨
        ∃ rest, List.Forall₂ (· ∈ ·) rest choices ∧ texts = s :: rest := by
  simp only [List.forall₂_cons_right_iff, List.mem_cons]
  constructor
  · rintro ⟨first, rest, rfl | hfirst, hrest, rfl⟩
    · exact .inr ⟨rest, hrest, rfl⟩
    · exact .inl ⟨first, rest, hfirst, hrest, rfl⟩
  · rintro (⟨first, rest, hfirst, hrest, rfl⟩ | ⟨rest, hrest, rfl⟩)
    · exact ⟨first, rest, .inr hfirst, hrest, rfl⟩
    · exact ⟨s, rest, .inl rfl, hrest, rfl⟩

/-- The empty text has no words, so that choosing it leaves the phrase out. -/
theorem optionalWord_seq (hp : Offers p alternatives) (hq : Speaks q choices) :
    Speaks (.seq (optionalWord p) q) (("" :: alternatives) :: choices) := by
  have hboth := hp.gap_seq hq
  -- To leave the phrase out is to choose a text without words.
  have hempty : ∀ texts, spoken ("" :: texts) = spoken texts := fun texts => rfl
  refine ⟨fun texts htexts => ?_, fun texts htexts => ?_, fun text => ?_⟩
  · rcases forall₂_mem_cons_cons.mp htexts with htexts | ⟨rest, hrest, rfl⟩
    · exact hboth.ne_nil texts htexts
    · exact hempty rest ▸ hq.ne_nil rest hrest
  · rcases forall₂_mem_cons_cons.mp htexts with htexts | ⟨rest, hrest, rfl⟩
    · exact hboth.plain texts htexts
    · exact hempty rest ▸ hq.plain rest hrest
  · rw [matches_optionalWord_seq, hboth.matches_iff, hq.matches_iff]
    simp only [forall₂_mem_cons_cons]
    constructor
    · rintro (⟨texts, htexts, htext⟩ | ⟨rest, hrest, htext⟩)
      · exact ⟨texts, .inl htexts, htext⟩
      · exact ⟨"" :: rest, .inr ⟨rest, hrest, rfl⟩, hempty rest ▸ htext⟩
    · rintro ⟨texts, htexts | ⟨rest, hrest, rfl⟩, htext⟩
      · exact .inl ⟨texts, htexts, htext⟩
      · exact .inr ⟨rest, hrest, hempty rest ▸ htext⟩

end Offers

/-! ### Claims -/

/-- What names a role in a claim. -/
def claimNouns : Role → List String
  | .source => ["source", "sources"]
  | .sink => ["sink", "sinks"]

/-- A claim of a role, in words: a verb, perhaps a hedge, an article, perhaps a qualifier, and the
    role.  A hedge or a qualifier that is left out is the empty text. -/
structure ClaimPhrase (role : Role) where
  verb : String
  hedge : String
  article : String
  qualifier : String
  noun : String
  verb_mem : verb ∈ ["is", "acts as", "serves as", "might be"]
  hedge_mem : hedge ∈ ["", "definitely", "likely", "probably", "possibly", "might"]
  article_mem : article ∈ ["a", "an"]
  qualifier_mem : qualifier ∈ ["", "potential", "possible", "likely"]
  noun_mem : noun ∈ claimNouns role

/-- The words of the claim. -/
def ClaimPhrase.words {role : Role} (phrase : ClaimPhrase role) : List (List Char) :=
  spoken [phrase.verb, phrase.hedge, phrase.article, phrase.qualifier, phrase.noun]

/-- The choices of which a claim is made. -/
def claimGrammar (role : Role) : List (List String) :=
  [["is", "acts as", "serves as", "might be"],
   ["", "definitely", "likely", "probably", "possibly", "might"],
   ["a", "an"],
   ["", "potential", "possible", "likely"],
   claimNouns role]

/-- The pattern of a claim speaks its grammar. -/
theorem claimPattern_speaks (role : Role) : Speaks (claimPattern role) (claimGrammar role) := by
  have hverbs : Offers (phrases claimVerbs) ["is", "acts as", "serves as", "might be"] :=
    .phrases (by decide)
  have hhedges : Offers (phrases (hedges.map (·.1)))
      ["definitely", "likely", "probably", "possibly", "might"] :=
    .phrases (by decide)
  have harticle : Offers (.seq (.folded ['a']) (.optional (.folded ['n']))) ["a", "an"] :=
    .ending "a" "n" (by decide) (by decide)
  have hqualifiers : Offers (phrases claimQualifiers) ["potential", "possible", "likely"] :=
    .phrases (by decide)
  have hnoun : Offers (roleNoun role) (claimNouns role) := by
    cases role with
    | source => exact .ending "source" "s" (by decide) (by decide)
    | sink => exact .ending "sink" "s" (by decide) (by decide)
  exact hverbs.gap_seq (hhedges.optionalWord_seq (harticle.gap_seq
    (hqualifiers.optionalWord_seq hnoun.speaks)))

/-- The phrases of claims are the ways to choose from the grammar. -/
theorem ClaimPhrase.chosen {role : Role} (phrase : ClaimPhrase role) :
    List.Forall₂ (· ∈ ·)
      [phrase.verb, phrase.hedge, phrase.article, phrase.qualifier, phrase.noun]
      (claimGrammar role) :=
  .cons phrase.verb_mem (.cons phrase.hedge_mem (.cons phrase.article_mem
    (.cons phrase.qualifier_mem (.cons phrase.noun_mem .nil))))

/-- Every way to choose from the grammar is the phrase of a claim. -/
theorem exists_claimPhrase {role : Role} {texts : List String}
    (h : List.Forall₂ (· ∈ ·) texts (claimGrammar role)) :
    ∃ phrase : ClaimPhrase role, phrase.words = spoken texts := by
  obtain _ | ⟨hverb, _ | ⟨hhedge, _ | ⟨harticle, _ | ⟨hqualifier, _ | ⟨hnoun, _ | _⟩⟩⟩⟩⟩ := h
  exact ⟨⟨_, _, _, _, _, hverb, hhedge, harticle, hqualifier, hnoun⟩, rfl⟩

/-- No choice of the grammar has a negation. -/
theorem not_notMem_spoken {role : Role} {texts : List String}
    (h : List.Forall₂ (· ∈ ·) texts (claimGrammar role)) : "not".toList ∉ spoken texts := by
  have hchoices : ∀ choices ∈ claimGrammar role, ∀ s ∈ choices, "not".toList ∉ words s.toList := by
    cases role <;> decide
  -- What was decided about each choice holds of every way to choose.
  generalize claimGrammar role = choices at h hchoices
  induction h with
  | nil => exact List.not_mem_nil
  | @cons s alternatives texts choices hs _ ih =>
    obtain ⟨hfirst, hrest⟩ := List.forall_mem_cons.mp hchoices
    rw [spoken_cons, List.mem_append, not_or]
    exact ⟨hfirst s hs, ih hrest⟩

/-- **Exactly the claims of the grammar are accepted.**  The text claims the role when, and only
    when, the words of a claim stand in it between word boundaries, with one or more blanks between
    them and with the letters in any case.  What stands there has no other words: those between the
    verb and the role are a hedge, an article and a qualifier, and no negation. -/
theorem claims_iff_grammar (role : Role) (text : String) :
    (claims role text = true ↔
      ∃ (phrase : ClaimPhrase role) (part : List Char),
        InWords FoldsAlike phrase.words part ∧ IsWholeIn part text.toList) ∧
    ∀ (phrase : ClaimPhrase role) (part : List Char), InWords FoldsAlike phrase.words part →
      (words part).map (List.map foldChar) =
        spoken [phrase.verb, phrase.hedge, phrase.article, phrase.qualifier, phrase.noun] ∧
      "not".toList ∉ (words part).map (List.map foldChar) := by
  have hspeaks := claimPattern_speaks role
  constructor
  · rw [claims, Pattern.occursIn_iff]
    simp only [hspeaks.matches_iff]
    constructor
    · rintro ⟨part, ⟨texts, htexts, hpart⟩, hwhole⟩
      obtain ⟨phrase, hphrase⟩ := exists_claimPhrase htexts
      exact ⟨phrase, part, hphrase ▸ hpart, hwhole⟩
    · rintro ⟨phrase, part, hpart, hwhole⟩
      exact ⟨part, ⟨_, phrase.chosen, hpart⟩, hwhole⟩
  · intro phrase part hpart
    have hwords := words_of_foldsAlike (hspeaks.plain _ phrase.chosen) hpart
    exact ⟨hwords, hwords ▸ not_notMem_spoken phrase.chosen⟩

/-- A long s, a Kelvin sign and blanks of other kinds are no obstacle. -/
theorem claims_iff_grammar_oddLetters :
    let text := "It Acts\u2003 aſ Possibly a li\u212aely\nSOURCE."
    claims .source text = true ∧
    ∃ (phrase : ClaimPhrase .source) (part : List Char), IsWholeIn part text.toList ∧
      (words part).map (List.map foldChar) = phrase.words ∧
      "not".toList ∉ (words part).map (List.map foldChar) := by
  intro text
  have hclaims : claims .source text = true := by decide +kernel
  obtain ⟨hiff, honly⟩ := claims_iff_grammar .source text
  obtain ⟨phrase, part, hpart, hwhole⟩ := hiff.mp hclaims
  exact ⟨hclaims, phrase, part, hwhole, honly phrase part hpart⟩

example : claims .source "It is definitely not a source." = false := by decide +kernel

end TaintReview.Lexicon
