import Mathlib.Data.List.Forall2
import Mathlib.Data.List.TakeWhile
import TaintReview.Proofs.Texts

namespace TaintReview.Text

/-!
# Searching for patterns of whole words

The search for a pattern follows all ways of matching at once.  This file says that it finds a match
between word boundaries exactly when there is one, and what the patterns that are made of words
match.

* `IsWholeIn part text` — a part of a text that starts and ends at word boundaries;
* `Pattern.mem_ends_iff` — the places at which a match may end, and **`Pattern.occursIn_iff`** — the
  search succeeds exactly when a text that the pattern stands for is a whole part;
* `InWords alike ws text` — the text is made of words with gaps between them, letter by letter
  alike; `Pattern.matches_spaced` — that is what a pattern of words with gaps stands for;
* `words_inWords`, `words_of_inWords` — the words of a text are the words that it is made of, and
  `trim_inWords` — trimming leaves the text from the first of them to the last.
-/

variable {alike : Char → Char → Prop} {w : List Char} {ws vs : List (List Char)}
  {text cs ds : List Char}

/-! ### Parts between word boundaries -/

/-- The part of the text starts and ends at word boundaries. -/
def IsWholeIn (part text : List Char) : Prop :=
  ∃ front back, text = front ++ part ++ back ∧
    isBoundary front.getLast? (part ++ back).head? = true ∧
    isBoundary (front ++ part).getLast? back.head? = true

/-- A run of one or more blanks. -/
def IsGap (cs : List Char) : Prop := cs ≠ [] ∧ ∀ c ∈ cs, isBlank c = true

namespace Pattern

variable {p q : Pattern} {place stop : Place}

/-! ### What patterns stand for -/

theorem matches_nothing : Matches nothing cs ↔ cs = [] := by
  constructor
  · intro h
    cases h
    rfl
  · rintro rfl
    exact .nothing

theorem matches_one {accepts : Char → Bool} :
    Matches (one accepts) cs ↔ ∃ c, cs = [c] ∧ accepts c = true := by
  constructor
  · intro h
    cases h with
    | one h => exact ⟨_, rfl, h⟩
  · rintro ⟨c, rfl, h⟩
    exact .one h

theorem matches_gap : Matches gap cs ↔ IsGap cs := by
  constructor
  · intro h
    cases h with
    | gap ne blank => exact ⟨ne, blank⟩
  · rintro ⟨ne, blank⟩
    exact .gap ne blank

/-- Two patterns in a row stand for a text of the first and then one of the second. -/
theorem matches_seq :
    Matches (seq p q) text ↔ ∃ cs ds, text = cs ++ ds ∧ Matches p cs ∧ Matches q ds := by
  constructor
  · intro h
    cases h with
    | seq hp hq => exact ⟨_, _, rfl, hp, hq⟩
  · rintro ⟨cs, ds, rfl, hp, hq⟩
    exact .seq hp hq

/-- A choice stands for what either pattern stands for. -/
theorem matches_either : Matches (either p q) cs ↔ Matches p cs ∨ Matches q cs := by
  constructor
  · intro h
    cases h with
    | left h => exact .inl h
    | right h => exact .inr h
  · rintro (h | h)
    · exact .left h
    · exact .right h

/-- An optional pattern stands for the empty text too. -/
theorem matches_optional : Matches (optional p) cs ↔ Matches p cs ∨ cs = [] := by
  rw [optional, matches_either, matches_nothing]

/-- A choice of many stands for what any of them stands for. -/
theorem matches_oneOf {α : Type} {f : α → Pattern} {as : List α} :
    Matches (oneOf (as.map f)) cs ↔ ∃ a ∈ as, Matches (f a) cs := by
  induction as with
  | nil => simp [oneOf, matches_one]
  | cons a as ih =>
    cases as with
    | nil => simp [oneOf]
    | cons b as =>
      show Matches (either (f a) (oneOf ((b :: as).map f))) cs ↔ _
      rw [matches_either, ih]
      simp only [List.mem_cons, exists_eq_or_imp]

/-- A pattern that accepts one character for each letter of a word. -/
theorem matches_letters (same : Char → Char → Bool) :
    Matches (w.foldr (fun letter p => seq (one (same letter)) p) nothing) cs ↔
      List.Forall₂ (fun letter c => same letter c = true) w cs := by
  induction w generalizing cs with
  | nil => rw [List.foldr_nil, matches_nothing, List.forall₂_nil_left_iff]
  | cons letter w ih =>
    rw [List.foldr_cons, matches_seq, List.forall₂_cons_left_iff]
    simp only [matches_one, ih]
    constructor
    · rintro ⟨_, ds, rfl, ⟨c, rfl, hc⟩, hds⟩
      exact ⟨c, ds, hc, hds, rfl⟩
    · rintro ⟨c, ds, hc, hds, rfl⟩
      exact ⟨[c], ds, rfl, ⟨c, rfl, hc⟩, hds⟩

theorem matches_literal : Matches (literal w) cs ↔ List.Forall₂ Eq w cs := by
  have hsame : (fun letter c : Char => (c == letter) = true) = Eq := by
    funext letter c
    rw [beq_iff_eq, eq_comm (a := letter)]
  rw [literal, matches_letters fun letter c => c == letter, hsame]

/-- A folded word stands for its letters in either case. -/
theorem matches_folded :
    Matches (folded w) cs ↔ List.Forall₂ (fun letter c => sameLetter letter c = true) w cs :=
  matches_letters sameLetter

/-- A folded word can be matched in two parts. -/
theorem matches_folded_append {v : List Char} :
    Matches (folded (w ++ v)) text ↔
      ∃ cs ds, text = cs ++ ds ∧ Matches (folded w) cs ∧ Matches (folded v) ds := by
  induction w generalizing text with
  | nil =>
    show Matches (folded v) text ↔ ∃ cs ds, text = cs ++ ds ∧ Matches nothing cs ∧ _
    simp [matches_nothing]
  | cons letter w ih =>
    show Matches (seq (one (sameLetter letter)) (folded (w ++ v))) text ↔
      ∃ cs ds, text = cs ++ ds ∧ Matches (seq (one (sameLetter letter)) (folded w)) cs ∧ _
    simp only [matches_seq, ih]
    constructor
    · rintro ⟨cs, _, rfl, hletter, ds, es, rfl, hw, hv⟩
      exact ⟨cs ++ ds, es, (List.append_assoc _ _ _).symm, ⟨cs, ds, rfl, hletter, hw⟩, hv⟩
    · rintro ⟨_, es, rfl, ⟨cs, ds, rfl, hletter, hw⟩, hv⟩
      exact ⟨cs, ds ++ es, List.append_assoc _ _ _, hletter, ds, es, rfl, hw, hv⟩

/-! ### The search -/

/-- A gap may end after each blank of a run of them. -/
theorem mem_afterBlanks_iff (before : Option Char) :
    stop ∈ afterBlanks text ↔
      ∃ cs, IsGap cs ∧ text = cs ++ stop.rest ∧ stop.before = cs.getLast?.or before := by
  induction text generalizing before with
  | nil =>
    -- At the end of the text there is no blank.
    simp only [afterBlanks, List.not_mem_nil, false_iff]
    rintro ⟨cs, ⟨ne, -⟩, heq, -⟩
    exact ne (List.append_eq_nil_iff.mp heq.symm).1
  | cons c text ih =>
    rw [afterBlanks]
    split
    · next hc =>
      rw [List.mem_cons, ih (some c)]
      constructor
      · rintro (rfl | ⟨cs, ⟨ne, hblank⟩, rfl, hbefore⟩)
        · exact ⟨[c], ⟨List.cons_ne_nil _ _, by simpa using hc⟩, rfl, rfl⟩
        · refine ⟨c :: cs, ⟨List.cons_ne_nil _ _, List.forall_mem_cons.mpr ⟨hc, hblank⟩⟩, rfl, ?_⟩
          rw [hbefore, List.getLast?_cons]
          cases h : cs.getLast? <;> simp_all
      · rintro ⟨_ | ⟨d, cs⟩, ⟨ne, hblank⟩, heq, hbefore⟩
        · exact absurd rfl ne
        · obtain ⟨rfl, rfl⟩ := List.cons.inj heq
          -- Either the gap ends here, or what follows is a gap by itself.
          cases cs with
          | nil => exact .inl (by cases stop; simp_all)
          | cons d cs =>
            have hrest := (List.forall_mem_cons.mp hblank).2
            refine .inr ⟨d :: cs, ⟨List.cons_ne_nil _ _, hrest⟩, rfl, ?_⟩
            rw [hbefore, List.getLast?_cons_cons, List.getLast?_cons]
            rfl
    · next hc =>
      simp only [List.not_mem_nil, false_iff]
      rintro ⟨_ | ⟨d, cs⟩, ⟨ne, hblank⟩, heq, -⟩
      · exact ne rfl
      · obtain ⟨rfl, -⟩ := List.cons.inj heq
        exact hc (hblank c List.mem_cons_self)

/-- **A match may end wherever the pattern has been read**, and nowhere else. -/
theorem mem_ends_iff :
    stop ∈ p.ends place ↔
      ∃ cs, Matches p cs ∧ place.rest = cs ++ stop.rest ∧
        stop.before = cs.getLast?.or place.before := by
  induction p generalizing place stop with
  | nothing =>
    simp only [ends, List.mem_singleton, matches_nothing, exists_eq_left, List.nil_append,
      List.getLast?_nil, Option.none_or]
    constructor
    · rintro rfl
      exact ⟨rfl, rfl⟩
    · rintro ⟨hrest, hbefore⟩
      cases stop
      cases place
      simp_all
  | one accepts =>
    obtain ⟨before, rest⟩ := place
    simp only [matches_one]
    cases rest with
    | nil => simp [ends]
    | cons c rest =>
      simp only [ends]
      constructor
      · split
        · next hc =>
          intro hstop
          rw [List.mem_singleton.mp hstop]
          exact ⟨[c], ⟨c, rfl, hc⟩, rfl, rfl⟩
        · exact fun hstop => absurd hstop List.not_mem_nil
      · rintro ⟨_, ⟨d, rfl, hd⟩, heq, hbefore⟩
        obtain ⟨rfl, rfl⟩ := List.cons.inj heq
        rw [if_pos hd, List.mem_singleton]
        cases stop
        simp_all
  | gap => simp only [ends, matches_gap, mem_afterBlanks_iff place.before]
  | seq p q ihp ihq =>
    simp only [ends, List.mem_flatMap, ihp, ihq, matches_seq]
    constructor
    · rintro ⟨middle, ⟨cs, hp, hcs, hmiddle⟩, ds, hq, hds, hstop⟩
      refine ⟨cs ++ ds, ⟨cs, ds, rfl, hp, hq⟩, ?_, ?_⟩
      · rw [hcs, hds, List.append_assoc]
      · rw [hstop, hmiddle, List.getLast?_append, Option.or_assoc]
    · rintro ⟨_, ⟨cs, ds, rfl, hp, hq⟩, hrest, hstop⟩
      -- The second part is matched from where the first one ends.
      refine ⟨⟨cs.getLast?.or place.before, ds ++ stop.rest⟩, ⟨cs, hp, ?_, rfl⟩, ds, hq, rfl, ?_⟩
      · rw [hrest, List.append_assoc]
      · rw [hstop, List.getLast?_append, Option.or_assoc]
  | either p q ihp ihq =>
    simp only [ends, List.mem_append, ihp, ihq, matches_either, or_and_right, exists_or]

/-- A match starts at a place when a text that the pattern stands for is there, between
    boundaries. -/
theorem startsAt_iff {before : Option Char} :
    p.startsAt ⟨before, text⟩ = true ↔
      ∃ cs back, text = cs ++ back ∧ Matches p cs ∧ isBoundary before text.head? = true ∧
        isBoundary (cs.getLast?.or before) back.head? = true := by
  simp only [startsAt, Bool.and_eq_true, List.any_eq_true, mem_ends_iff, Place.isBoundary]
  constructor
  · rintro ⟨hstart, stop, ⟨cs, hcs, hrest, hbefore⟩, hstop⟩
    exact ⟨cs, stop.rest, hrest, hcs, hstart, hbefore ▸ hstop⟩
  · rintro ⟨cs, back, hrest, hcs, hstart, hstop⟩
    exact ⟨hstart, ⟨_, back⟩, ⟨cs, hcs, hrest, rfl⟩, hstop⟩

/-- The search tries every place of the text. -/
theorem occursFrom_iff {before : Option Char} :
    p.occursFrom before text = true ↔
      ∃ front rest, text = front ++ rest ∧ p.startsAt ⟨front.getLast?.or before, rest⟩ = true := by
  induction text generalizing before with
  | nil =>
    rw [occursFrom]
    constructor
    · exact fun h => ⟨[], [], rfl, h⟩
    · rintro ⟨front, rest, heq, h⟩
      obtain ⟨rfl, rfl⟩ := List.append_eq_nil_iff.mp heq.symm
      exact h
  | cons c text ih =>
    rw [occursFrom, Bool.or_eq_true, ih]
    -- What stands before a later place does not depend on where the search began.
    have hbefore : ∀ front : List Char,
        (c :: front).getLast?.or before = front.getLast?.or (some c) := by
      intro front
      rw [List.getLast?_cons]
      cases front.getLast? <;> rfl
    constructor
    · rintro (h | ⟨front, rest, rfl, h⟩)
      · exact ⟨[], c :: text, rfl, h⟩
      · exact ⟨c :: front, rest, rfl, by rwa [hbefore]⟩
    · rintro ⟨_ | ⟨d, front⟩, rest, heq, h⟩
      · rw [List.nil_append] at heq
        subst heq
        exact .inl h
      · obtain ⟨rfl, rfl⟩ := List.cons.inj heq
        exact .inr ⟨front, rest, rfl, by rwa [hbefore] at h⟩

/-- **The search succeeds exactly when there is a match between word boundaries.** -/
theorem occursIn_iff :
    p.occursIn text = true ↔ ∃ part, Matches p part ∧ IsWholeIn part text := by
  rw [occursIn, occursFrom_iff]
  simp only [startsAt_iff, Option.or_none]
  constructor
  · rintro ⟨front, _, rfl, cs, back, rfl, hcs, hstart, hstop⟩
    refine ⟨cs, hcs, front, back, (List.append_assoc _ _ _).symm, hstart, ?_⟩
    rwa [List.getLast?_append]
  · rintro ⟨cs, hcs, front, back, rfl, hstart, hstop⟩
    refine ⟨front, cs ++ back, List.append_assoc _ _ _, cs, back, rfl, hcs, hstart, ?_⟩
    rwa [List.getLast?_append] at hstop

end Pattern

/-! ### Texts made of words -/

/-- The text is made of the words, letter by letter alike, with a gap between each two. -/
inductive InWords (alike : Char → Char → Prop) : List (List Char) → List Char → Prop where
  | none : InWords alike [] []
  | last {w cs : List Char} (word : List.Forall₂ alike w cs) : InWords alike [w] cs
  | more {w cs gap v rest : List Char} {ws : List (List Char)} (word : List.Forall₂ alike w cs)
      (between : IsGap gap) (others : InWords alike (v :: ws) rest) :
      InWords alike (w :: v :: ws) (cs ++ gap ++ rest)

namespace InWords

theorem singleton_iff : InWords alike [w] cs ↔ List.Forall₂ alike w cs := by
  constructor
  · intro h
    cases h with
    | last word => exact word
  · exact .last

/-- A text of more words has the first one, a gap and a text of the others. -/
theorem cons_cons_iff {v : List Char} :
    InWords alike (w :: v :: ws) text ↔
      ∃ cs gap rest, text = cs ++ gap ++ rest ∧ List.Forall₂ alike w cs ∧ IsGap gap ∧
        InWords alike (v :: ws) rest := by
  constructor
  · intro h
    cases h with
    | more word between others => exact ⟨_, _, _, rfl, word, between, others⟩
  · rintro ⟨cs, gap, rest, rfl, word, between, others⟩
    exact .more word between others

/-- Texts of words with a gap between them are a text of all the words. -/
theorem append_iff (hws : ws ≠ []) (hvs : vs ≠ []) :
    InWords alike (ws ++ vs) text ↔
      ∃ cs gap ds, text = cs ++ gap ++ ds ∧ InWords alike ws cs ∧ IsGap gap ∧
        InWords alike vs ds := by
  obtain ⟨v, vs, rfl⟩ := List.exists_cons_of_ne_nil hvs
  induction ws generalizing text with
  | nil => exact absurd rfl hws
  | cons w ws ih =>
    cases ws with
    | nil =>
      rw [List.cons_append, List.nil_append, cons_cons_iff]
      simp only [singleton_iff]
    | cons u ws =>
      -- The gaps are bracketed differently on both sides.
      have hrest : ∀ rest, InWords alike (u :: (ws ++ v :: vs)) rest ↔ _ :=
        fun rest => @ih rest (List.cons_ne_nil u ws)
      rw [List.cons_append, List.cons_append, cons_cons_iff]
      simp only [hrest, cons_cons_iff]
      constructor
      · rintro ⟨cs, gap, _, rfl, hw, hgap, ds, gap', es, rfl, hws, hgap', hvs⟩
        exact ⟨cs ++ gap ++ ds, gap', es, by simp only [List.append_assoc],
          ⟨cs, gap, ds, rfl, hw, hgap, hws⟩, hgap', hvs⟩
      · rintro ⟨_, gap', es, rfl, ⟨cs, gap, ds, rfl, hw, hgap, hws⟩, hgap', hvs⟩
        exact ⟨cs, gap, ds ++ gap' ++ es, by simp only [List.append_assoc], hw, hgap,
          ds, gap', es, rfl, hws, hgap', hvs⟩

/-- A text made of words like some others is made of words of its own. -/
theorem exists_own (h : InWords alike ws text) :
    ∃ vs, List.Forall₂ (List.Forall₂ alike) ws vs ∧ InWords Eq vs text := by
  induction h with
  | none => exact ⟨[], .nil, .none⟩
  | @last w cs word => exact ⟨[cs], .cons word .nil, .last (List.forall₂_refl cs)⟩
  | @more w cs gap v rest ws word between others ih =>
    obtain ⟨vs, halike, hvs⟩ := ih
    cases halike with
    | cons hv hothers =>
      exact ⟨cs :: _, .cons word (.cons hv hothers), .more (List.forall₂_refl cs) between hvs⟩

end InWords

namespace Pattern

/-- Patterns of words with gaps between them stand for the texts made of these words. -/
theorem matches_spaced {spelled : List Char → Pattern}
    (h : ∀ w ∈ ws, ∀ cs, Matches (spelled w) cs ↔ List.Forall₂ alike w cs) :
    Matches (spaced (ws.map spelled)) text ↔ InWords alike ws text := by
  induction ws generalizing text with
  | nil =>
    rw [List.map_nil, spaced, matches_nothing]
    constructor
    · rintro rfl
      exact .none
    · intro h
      cases h
      rfl
  | cons w ws ih =>
    obtain ⟨hw, hws⟩ := List.forall_mem_cons.mp h
    cases ws with
    | nil => rw [List.map_cons, List.map_nil, spaced, hw, InWords.singleton_iff]
    | cons v ws =>
      show Matches (seq (spelled w) (seq gap (spaced ((v :: ws).map spelled)))) text ↔ _
      simp only [InWords.cons_cons_iff, matches_seq, matches_gap, ih hws, hw]
      constructor
      · rintro ⟨cs, _, rfl, hcs, gap, rest, rfl, hgap, hrest⟩
        exact ⟨cs, gap, rest, (List.append_assoc _ _ _).symm, hcs, hgap, hrest⟩
      · rintro ⟨cs, gap, rest, rfl, hcs, hgap, hrest⟩
        exact ⟨cs, gap ++ rest, List.append_assoc _ _ _, hcs, gap, rest, rfl, hgap, hrest⟩

end Pattern

/-! ### The words of a text -/

/-- A word has at least one character, and none that is blank. -/
def IsWordText (w : List Char) : Prop := w ≠ [] ∧ ∀ c ∈ w, isBlank c = false

/-- A blank at the front is no part of a word. -/
theorem words_cons_of_blank {c : Char} (h : isBlank c = true) (cs : List Char) :
    words (c :: cs) = words cs := by
  rw [words.eq_def]
  simp only [h, if_true]

theorem words_blanks_append (h : ∀ c ∈ cs, isBlank c = true) (rest : List Char) :
    words (cs ++ rest) = words rest := by
  induction cs with
  | nil => rfl
  | cons c cs ih =>
    obtain ⟨hc, hcs⟩ := List.forall_mem_cons.mp h
    rw [List.cons_append, words_cons_of_blank hc, ih hcs]

/-- A word ends at the end of the text or at a blank. -/
theorem words_word_append (hw : IsWordText w) {rest : List Char}
    (hrest : ∀ c ∈ rest.head?, isBlank c = true) : words (w ++ rest) = w :: words rest := by
  obtain ⟨ne, hblank⟩ := hw
  induction w with
  | nil => exact absurd rfl ne
  | cons c w ih =>
    obtain ⟨hc, hw⟩ := List.forall_mem_cons.mp hblank
    cases w with
    | nil =>
      cases rest with
      | nil => simp [words, hc]
      | cons d rest => simp [words, hc, hrest d rfl]
    | cons d w =>
      have hd : isBlank d = false := hw d List.mem_cons_self
      have hwords := ih (List.cons_ne_nil d w) hw
      simp only [List.cons_append] at hwords ⊢
      rw [words.eq_def]
      simp [hc, hd, hwords]

/-- The words that a text is made of are its words. -/
theorem words_of_inWords (h : InWords Eq ws text) (hws : ∀ w ∈ ws, IsWordText w) :
    words text = ws := by
  induction h with
  | none => rfl
  | @last w cs word =>
    have hw : IsWordText w := hws w List.mem_cons_self
    have heq : w = cs := by rwa [List.forall₂_eq_eq_eq] at word
    subst heq
    have hend : ∀ c ∈ ([] : List Char).head?, isBlank c = true :=
      fun c hc => absurd hc (Option.not_mem_none c)
    have hwords := words_word_append hw hend
    rwa [List.append_nil] at hwords
  | @more w cs gap v rest ws word between others ih =>
    obtain ⟨hw, hothers⟩ := List.forall_mem_cons.mp hws
    obtain ⟨hne, hblank⟩ := between
    have heq : w = cs := by rwa [List.forall₂_eq_eq_eq] at word
    subst heq
    have hhead : ∀ c ∈ (gap ++ rest).head?, isBlank c = true := by
      intro c hc
      rw [List.head?_append_of_ne_nil _ hne] at hc
      exact hblank c (List.mem_of_mem_head? hc)
    rw [List.append_assoc, words_word_append hw hhead, words_blanks_append hblank, ih hothers]

/-- The words of a text are words. -/
theorem isWordText_of_mem_words (text : List Char) : ∀ w ∈ words text, IsWordText w := by
  have hletter : ∀ {c : Char}, ¬ isBlank c = true → IsWordText [c] := by
    intro c hc
    exact ⟨List.cons_ne_nil _ _, List.forall_mem_singleton.mpr (Bool.eq_false_iff.mpr hc)⟩
  fun_induction words text with
  | case1 => exact List.forall_mem_nil _
  | case2 c cs hc ih => exact ih
  | case3 c hc => exact List.forall_mem_singleton.mpr (hletter hc)
  | case4 c hc d cs hd ih => exact List.forall_mem_cons.mpr ⟨hletter hc, ih⟩
  | case5 c hc d cs hd hnone ih =>
    rw [hnone]
    exact List.forall_mem_singleton.mpr (hletter hc)
  | case6 c hc d cs hd v vs hwords ih =>
    rw [hwords] at ih ⊢
    obtain ⟨⟨-, hv⟩, hvs⟩ := List.forall_mem_cons.mp ih
    have hblank : ∀ x ∈ c :: v, isBlank x = false :=
      List.forall_mem_cons.mpr ⟨Bool.eq_false_iff.mpr hc, hv⟩
    exact List.forall_mem_cons.mpr ⟨⟨List.cons_ne_nil _ _, hblank⟩, hvs⟩

/-- A text is made of its words, but for the blanks at its ends. -/
theorem words_inWords (text : List Char) :
    ∃ body back, text = text.takeWhile isBlank ++ body ++ back ∧
      (∀ c ∈ back, isBlank c = true) ∧ InWords Eq (words text) body := by
  fun_induction words text with
  | case1 => exact ⟨[], [], rfl, List.forall_mem_nil _, .none⟩
  | case2 c cs hc ih =>
    obtain ⟨body, back, heq, hback, hbody⟩ := ih
    refine ⟨body, back, ?_, hback, hbody⟩
    rw [List.takeWhile_cons_of_pos hc, List.cons_append, List.cons_append, ← heq]
  | case3 c hc =>
    refine ⟨[c], [], ?_, List.forall_mem_nil _, .last (List.forall₂_refl [c])⟩
    rw [List.takeWhile_cons_of_neg hc, List.nil_append, List.append_nil]
  | case4 c hc d cs hd ih =>
    -- The word is a single character, and a gap or the last blanks follow it.
    obtain ⟨body, back, heq, hback, hbody⟩ := ih
    simp only [List.takeWhile_cons_of_neg hc, List.nil_append]
    generalize hgap : (d :: cs).takeWhile isBlank = gap at heq
    have hblank : ∀ c ∈ gap, isBlank c = true := by
      rw [← hgap]
      exact fun c hc => List.mem_takeWhile_imp hc
    cases hwords : words (d :: cs) with
    | nil =>
      rw [hwords] at hbody
      cases hbody
      refine ⟨[c], gap ++ back, ?_, List.forall_mem_append.mpr ⟨hblank, hback⟩,
        .last (List.forall₂_refl [c])⟩
      rw [heq, List.append_nil]
      rfl
    | cons v vs =>
      rw [hwords] at hbody
      have hne : gap ≠ [] := by
        rw [← hgap, List.takeWhile_cons_of_pos hd]
        exact List.cons_ne_nil _ _
      refine ⟨[c] ++ gap ++ body, back, ?_, hback,
        .more (List.forall₂_refl [c]) ⟨hne, hblank⟩ hbody⟩
      rw [heq]
      simp only [List.append_assoc, List.cons_append, List.nil_append]
  | case5 c hc d cs hd hnone ih =>
    -- A character that is no blank belongs to a word.
    obtain ⟨body, back, heq, hback, hbody⟩ := ih
    rw [hnone] at hbody
    cases hbody
    rw [List.takeWhile_cons_of_neg hd, List.nil_append, List.nil_append] at heq
    exact absurd (hback d (heq ▸ List.mem_cons_self)) hd
  | case6 c hc d cs hd v vs hwords ih =>
    -- The first word of the rest is longer by one character.
    obtain ⟨body, back, heq, hback, hbody⟩ := ih
    rw [hwords] at hbody ⊢
    rw [List.takeWhile_cons_of_neg hd, List.nil_append] at heq
    refine ⟨c :: body, back, ?_, hback, ?_⟩
    · rw [List.takeWhile_cons_of_neg hc, List.nil_append, List.cons_append, ← heq]
    · cases hbody with
      | last word => exact .last (.cons rfl word)
      | more word between others =>
        exact (InWords.more (List.Forall₂.cons rfl word) between others :)

/-! ### Trimming and words -/

/-- A text with a word in it is not empty. -/
theorem ne_nil_of_inWords {v : List Char} (h : InWords Eq (v :: ws) text)
    (hws : ∀ w ∈ v :: ws, IsWordText w) : text ≠ [] := by
  rintro rfl
  have hwords := words_of_inWords h hws
  cases hwords

/-- A text of words begins and ends with a word. -/
theorem bare_of_inWords (h : InWords Eq ws text) (hws : ∀ w ∈ ws, IsWordText w) :
    Bare isBlank text := by
  induction h with
  | none => exact bare_nil _
  | @last w cs word =>
    obtain rfl : w = cs := by rwa [List.forall₂_eq_eq_eq] at word
    exact bare_of_forall (hws w List.mem_cons_self).2
  | @more w cs gap v rest ws word between others ih =>
    obtain rfl : w = cs := by rwa [List.forall₂_eq_eq_eq] at word
    obtain ⟨hw, hothers⟩ := List.forall_mem_cons.mp hws
    -- The last word is not the first one, so that the end of the text is that of the rest.
    have hrest := ne_nil_of_inWords others hothers
    constructor
    · rw [List.append_assoc, List.head?_append_of_ne_nil _ hw.1]
      exact (bare_of_forall hw.2).1
    · rw [List.getLast?_append_of_ne_nil _ hrest]
      exact (ih hothers).2

/-- Trimming a text leaves the text of its words. -/
theorem trim_inWords (cs : List Char) :
    InWords Eq (words cs) (trim cs) ∧ ∃ front back, cs = front ++ trim cs ++ back ∧
      (∀ c ∈ front, isBlank c = true) ∧ ∀ c ∈ back, isBlank c = true := by
  obtain ⟨body, back, heq, hback, hbody⟩ := words_inWords cs
  have hfront : ∀ c ∈ cs.takeWhile isBlank, isBlank c = true :=
    fun c hc => List.mem_takeWhile_imp hc
  have htrim : trim cs = body := by
    conv_lhs => rw [heq]
    exact strip_surrounded hfront hback (bare_of_inWords hbody (isWordText_of_mem_words cs))
  rw [htrim]
  exact ⟨hbody, _, _, heq, hfront, hback⟩

/-- A trimmed text has no blanks at its ends. -/
theorem bare_trim (cs : List Char) : Bare isBlank (trim cs) :=
  bare_of_inWords (trim_inWords cs).1 (isWordText_of_mem_words cs)

/-- Trimming takes blanks away and nothing else. -/
theorem mem_trim {c : Char} (hc : c ∈ cs) (hblank : isBlank c = false) :
    c ∈ trim cs := by
  obtain ⟨-, front, back, heq, hfront, hback⟩ := trim_inWords cs
  rw [heq, List.mem_append, List.mem_append] at hc
  rcases hc with (hc | hc) | hc
  · rw [hfront c hc] at hblank
    cases hblank
  · exact hc
  · rw [hback c hc] at hblank
    cases hblank

end TaintReview.Text
