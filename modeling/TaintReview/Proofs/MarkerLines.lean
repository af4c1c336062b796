import TaintReview.Proofs.FlowLayout
import TaintReview.Proofs.Phrases

namespace TaintReview.Extraction

open Text
open Lexicon (FoldsAlike foldsAlike_iff isPlain isPlain_iff)

/-!
# What a marker line is

The parts of a marker line can be told apart in several ways: an asterisk may be the bullet of a
list or the begin of bold type, and blanks may belong to the indent or to the gap after a bullet.
Reading a line takes one way and misses nothing by it.

* `MarkerParts line` — a way to split the line into the parts of a marker line;
* `spells_iff` — a word is spelled when its letters fold to it and when lower-casing gives it;
  neither is enough, since a long s folds to an s and is a small letter of its own;
* `afterBullet_split`, `takeMarker_split`, `afterPlural_split` — what each step of the reading
  passes over is such a part;
* **`markerLine_iff_parts`** — a line is a marker line exactly when it can be split, and every
  way to split it gives the same marker and the same value.
-/

/-! ### Spelled words -/

variable {w c : Char} {word cs line : List Char} {marker : Marker}

/-- A character that differs from a small letter at most in case has one lower-case character. -/
theorem lowerChar_of_sameLetter (hw : 97 ≤ w.toNat ∧ w.toNat ≤ 122)
    (h : Pattern.sameLetter w c = true) : c ≠ 'Σ' ∧ ∃ d, lowerChar c = [d] := by
  -- Besides letters of ASCII there are the long s and the Kelvin sign.
  rcases sameLetter_iff.mp h with hlower | ⟨-, rfl⟩ | ⟨-, rfl⟩
  · have hascii : c.toNat < 0x80 := by
      rcases toLower_cases c with ⟨-, hhi⟩ | hself
      · omega
      · rw [← hself, hlower]
        omega
    refine ⟨?_, c.toLower, by rw [lowerChar, if_pos hascii]⟩
    rintro rfl
    revert hascii
    decide
  · exact ⟨by decide, 'ſ', by decide +kernel⟩
  · exact ⟨by decide, 'k', by decide +kernel⟩

/-- A character with one lower-case character is replaced by it. -/
theorem lowerFrom_cons {d : Char} (hsigma : c ≠ 'Σ') (hd : lowerChar c = [d])
    (before cs : List Char) : lowerFrom before (c :: cs) = d :: lowerFrom (c :: before) cs := by
  rw [lowerFrom, if_neg (by simpa using hsigma), hd, List.singleton_append]

/-- **A word of small letters is spelled** exactly when its letters fold to it and lower-casing
    gives it. -/
theorem spells_iff (hword : ∀ w ∈ word, 97 ≤ w.toNat ∧ w.toNat ≤ 122) :
    Spells word cs ↔ List.Forall₂ FoldsAlike word cs ∧ lower cs = word := by
  -- Lower-casing looks at what stands before, which is no matter here.
  have hfrom : ∀ before, Spells word cs ↔
      List.Forall₂ FoldsAlike word cs ∧ lowerFrom before cs = word := by
    induction word generalizing cs with
    | nil =>
      intro before
      constructor
      · intro h
        cases h
        exact ⟨.nil, rfl⟩
      · rintro ⟨h, -⟩
        cases h
        exact .nil
    | cons w word ih =>
      obtain ⟨hw, hrest⟩ := List.forall_mem_cons.mp hword
      intro before
      constructor
      · intro h
        cases h with
        | @cons _ c _ cs hc hcs =>
          obtain ⟨hfolds, hlower⟩ := (ih hrest (c :: before)).mp hcs
          obtain ⟨hsigma, -⟩ := lowerChar_of_sameLetter hw hc.1
          refine ⟨.cons ((foldsAlike_iff hw).mpr hc.1) hfolds, ?_⟩
          rw [lowerFrom_cons hsigma hc.2, hlower]
      · rintro ⟨h, hlower⟩
        cases h with
        | @cons _ c _ cs hc hcs =>
          have hsame := (foldsAlike_iff hw).mp hc
          obtain ⟨hsigma, d, hd⟩ := lowerChar_of_sameLetter hw hsame
          rw [lowerFrom_cons hsigma hd, List.cons.injEq] at hlower
          obtain ⟨rfl, hlower⟩ := hlower
          exact .cons ⟨hsame, hd⟩ ((ih hrest (c :: before)).mpr ⟨hcs, hlower⟩)
  exact hfrom []

/-- The words of the markers, in the order in which they are tried. -/
theorem map_word_all : Marker.all.map Marker.word =
    ["source".toList, "sink".toList, "vulnerability".toList, "description".toList,
      "recommendation".toList, "impact".toList] := rfl

/-- They are made of small letters from `a` to `z`. -/
theorem word_small (marker : Marker) : ∀ w ∈ marker.word, 97 ≤ w.toNat ∧ w.toNat ≤ 122 := by
  have hplain : isPlain marker.word = true := by
    cases marker <;> decide
  exact (isPlain_iff.mp hplain).2

/-! ### The parts of a line -/

/-- A way to split a line into the parts of a marker line. -/
structure MarkerParts (line : List Char) where
  marker : Marker
  indent : List Char
  bullet : List Char
  gap : List Char
  stars : List Char
  tag : List Char
  plural : List Char
  closing : List Char
  space : List Char
  rest : List Char
  line_eq : line =
    indent ++ bullet ++ gap ++ stars ++ tag ++ plural ++ closing ++ space ++ ':' :: rest
  indent_blank : ∀ c ∈ indent, isBlank c = true
  /-- A dash, an asterisk, a dot, or digits of any script with a point or a parenthesis. -/
  isBullet : bullet = [] ∨ IsBullet bullet
  gap_blank : ∀ c ∈ gap, isBlank c = true
  stars_star : ∀ c ∈ stars, c = '*'
  /-- The marker's word under simple case folding. -/
  tag_folds : List.Forall₂ FoldsAlike marker.word tag
  /-- The marker's word after lower-casing. -/
  tag_lowers : lower tag = marker.word
  isPlural : plural = [] ∨ ∃ c, plural = [c] ∧ FoldsAlike 's' c
  closing_star : ∀ c ∈ closing, c = '*'
  space_blank : ∀ c ∈ space, isBlank c = true

namespace MarkerParts

/-- The value of the rest of the line: trimmed, without the asterisks at its ends, and trimmed
    again. -/
def value (p : MarkerParts line) : List Char := trim (strip (· == '*') (trim p.rest))

/-- All that stands before the rest opens a marker line. -/
def opening (p : MarkerParts line) : Opening p.marker where
  indent := p.indent
  bullet := p.bullet
  gap := p.gap
  stars := p.stars
  word := p.tag
  plural := p.plural
  closing := p.closing
  space := p.space
  indent_blank := p.indent_blank
  isBullet := p.isBullet
  gap_blank := p.gap_blank
  stars_star := fun c hc => beq_iff_eq.mpr (p.stars_star c hc)
  spells := (spells_iff (word_small p.marker)).mpr ⟨p.tag_folds, p.tag_lowers⟩
  isPlural := p.isPlural.imp_right fun ⟨c, hc, hfolds⟩ =>
    ⟨c, hc, (foldsAlike_iff (by decide)).mp hfolds⟩
  closing_star := fun c hc => beq_iff_eq.mpr (p.closing_star c hc)
  space_blank := p.space_blank

/-- An opening and what is left after it make up the line. -/
theorem text_opening (p : MarkerParts line) : p.opening.text ++ p.rest = line := by
  refine Eq.trans ?_ p.line_eq.symm
  simp only [Opening.text, Opening.tail, opening, List.append_assoc, List.singleton_append]

/-- However a line is split, that is what is read from it. -/
theorem markerLine?_eq (p : MarkerParts line) : markerLine? line = some (p.marker, p.value) := by
  have hread := markerLine?_opening p.opening p.rest
  rwa [p.text_opening] at hread

end MarkerParts

/-! ### What a reading passes over -/

/-- What is passed over at the front of a line is a bullet or nothing. -/
theorem afterBullet_split (cs : List Char) :
    ∃ bullet, (bullet = [] ∨ IsBullet bullet) ∧ cs = bullet ++ afterBullet cs := by
  cases cs with
  | nil => exact ⟨[], .inl rfl, rfl⟩
  | cons c cs =>
    rw [afterBullet]
    split
    · next hmark =>
      refine ⟨[c], .inr ?_, rfl⟩
      simp only [Bool.or_eq_true, beq_iff_eq] at hmark
      rcases hmark with (rfl | rfl) | rfl
      · exact .dash
      · exact .star
      · exact .dot
    · split
      · next hdigit =>
        have hdigits : ∀ d ∈ c :: cs.takeWhile isDecimal, isDecimal d = true :=
          List.forall_mem_cons.mpr ⟨hdigit, fun d hd => List.mem_takeWhile_imp hd⟩
        have hcut : c :: cs = (c :: cs.takeWhile isDecimal) ++ cs.dropWhile isDecimal := by
          rw [List.cons_append, List.takeWhile_append_dropWhile]
        -- The number counts as a bullet only with a mark behind it.
        have hnumber : ∀ {close rest}, cs.dropWhile isDecimal = close :: rest →
            close = '.' ∨ close = ')' → ∃ bullet, (bullet = [] ∨ IsBullet bullet) ∧
              c :: cs = bullet ++ rest := by
          intro close rest hdrop hclose
          refine ⟨_, .inr (.numbered (List.cons_ne_nil _ _) hdigits hclose), ?_⟩
          rw [hcut, hdrop, List.append_assoc, List.singleton_append]
        split
        · next rest hdrop => exact hnumber hdrop (.inl rfl)
        · next rest hdrop => exact hnumber hdrop (.inr rfl)
        · exact ⟨[], .inl rfl, rfl⟩
      · exact ⟨[], .inl rfl, rfl⟩

/-- What is passed over at the front of a line spells the word. -/
theorem afterWord_split {rest : List Char} (h : afterWord word cs = some rest) :
    ∃ tag, Spells word tag ∧ cs = tag ++ rest := by
  induction word generalizing cs with
  | nil =>
    rw [afterWord, Option.some.injEq] at h
    exact ⟨[], .nil, h⟩
  | cons w word ih =>
    cases cs with
    | nil => cases h
    | cons c cs =>
      rw [afterWord] at h
      split at h
      · next hc =>
        obtain ⟨hsame, hlower⟩ := Bool.and_eq_true_iff.mp hc
        obtain ⟨tag, hspells, rfl⟩ := ih h
        exact ⟨c :: tag, .cons ⟨hsame, beq_iff_eq.mp hlower⟩ hspells, rfl⟩
      · cases h

/-- What is passed over at the front of a line spells the word of the marker. -/
theorem takeMarker_split {rest : List Char} (h : takeMarker cs = some (marker, rest)) :
    ∃ tag, Spells marker.word tag ∧ cs = tag ++ rest := by
  obtain ⟨m, -, hm⟩ := List.exists_of_findSome?_eq_some h
  obtain ⟨rest', hrest, heq⟩ := Option.map_eq_some_iff.mp hm
  cases heq
  exact afterWord_split hrest

/-- What is passed over after a word is a plural ending or nothing. -/
theorem afterPlural_split (cs : List Char) :
    ∃ plural, (plural = [] ∨ ∃ c, plural = [c] ∧ FoldsAlike 's' c) ∧
      cs = plural ++ afterPlural cs := by
  cases cs with
  | nil => exact ⟨[], .inl rfl, rfl⟩
  | cons c cs =>
    rw [afterPlural]
    split
    · next hc => exact ⟨[c], .inr ⟨c, rfl, (foldsAlike_iff (by decide)).mpr hc⟩, rfl⟩
    · exact ⟨[], .inl rfl, rfl⟩

/-- What is read from a line is read from a split of the line. -/
theorem exists_parts {value : List Char} (h : markerLine? line = some (marker, value)) :
    ∃ p : MarkerParts line, p.marker = marker ∧ p.value = value := by
  have hblank : ∀ cs : List Char, ∀ c ∈ cs.takeWhile isBlank, isBlank c = true :=
    fun cs c hc => List.mem_takeWhile_imp hc
  have hstar : ∀ cs : List Char, ∀ c ∈ cs.takeWhile isStar, c = '*' := by
    intro cs c hc
    have hc : isStar c = true := List.mem_takeWhile_imp hc
    exact beq_iff_eq.mp hc
  simp only [markerLine?] at h
  obtain ⟨bullet, hbullet, hafter⟩ := afterBullet_split (line.dropWhile isBlank)
  generalize afterBullet (line.dropWhile isBlank) = listed at h hafter
  split at h
  · cases h
  · next marker' rest htake =>
    obtain ⟨tag, hspells, htag⟩ := takeMarker_split htake
    obtain ⟨plural, hplural, hrest⟩ := afterPlural_split rest
    generalize afterPlural rest = closed at h hrest
    split at h
    · next value' hcolon =>
      cases h
      obtain ⟨hfolds, hlowers⟩ := (spells_iff (word_small marker)).mp hspells
      refine ⟨⟨marker, line.takeWhile isBlank, bullet, listed.takeWhile isBlank,
        (listed.dropWhile isBlank).takeWhile isStar, tag, plural, closed.takeWhile isStar,
        (closed.dropWhile isStar).takeWhile isBlank, value', ?_, hblank _, hbullet, hblank _,
        hstar _, hfolds, hlowers, hplural, hstar _, hblank _⟩, rfl, rfl⟩
      -- Each run that was dropped is put back in front of what was left.
      simp only [List.append_assoc]
      rw [← hcolon, List.takeWhile_append_dropWhile, List.takeWhile_append_dropWhile, ← hrest,
        ← htag, List.takeWhile_append_dropWhile, List.takeWhile_append_dropWhile, ← hafter,
        List.takeWhile_append_dropWhile]
    · cases h

/-- **Marker lines are recognised exactly.**  A line announces a marker with a value exactly when it
    can be split into the parts of a marker line that give this marker and this value; and whichever
    way it is split, the parts give the same. -/
theorem markerLine_iff_parts (line : List Char) :
    (∀ marker value, markerLine? line = some (marker, value) ↔
      ∃ p : MarkerParts line, p.marker = marker ∧ p.value = value) ∧
    ∀ p q : MarkerParts line, p.marker = q.marker ∧ p.value = q.value := by
  constructor
  · intro marker value
    constructor
    · exact exists_parts
    · rintro ⟨p, rfl, rfl⟩
      exact p.markerLine?_eq
  · intro p q
    have hsame := Option.some.inj (p.markerLine?_eq.symm.trans q.markerLine?_eq)
    exact ⟨congrArg Prod.fst hsame, congrArg Prod.snd hsame⟩

-- A long s stands for the plural ending and for no letter of the marker's word.
example : markerLine? "* *SinKſ* : **x* ".toList = some (.sink, ['x']) ∧
    markerLine? "ſink: x".toList = none := by decide +kernel

end TaintReview.Extraction
