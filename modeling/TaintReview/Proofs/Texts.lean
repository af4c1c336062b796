import Mathlib.Data.List.Basic
import Mathlib.Data.List.TakeWhile
import TaintReview.Text.Lower
import TaintReview.Text.Pattern

namespace TaintReview.Text

/-!
# Letters, ends and lines of texts

What the other developments about texts share: which characters are no blanks, what is left of a
text that is stripped, and where a text is cut into lines.

* `CodePoints.exists_of_has` — a code point of a set lies in one of its ranges, so that two sets are
  apart when their ranges are (`isBlank_of_isDecimal`);
* `IsLetter` — what a letter is not, and the characters that are letters because they differ from a
  small letter at most in case (`isLetter_of_sameLetter`);
* `Bare`, `strip_surrounded` — a text that a class of characters does not touch at its ends is what
  is left of it after stripping;
* `lines_append_newline` — a text is cut at a line feed, together with the carriage return that may
  stand before it.
-/

/-! ### Code points -/

/-- A code point of a set lies in one of its ranges. -/
theorem CodePoints.exists_of_has {ranges : CodePoints} {n : Nat} (h : ranges.has n = true) :
    ∃ r ∈ ranges, r.1 ≤ n ∧ n ≤ r.2 := by
  induction ranges with
  | nil => cases h
  | cons r ranges ih =>
    obtain ⟨lo, hi⟩ := r
    rw [CodePoints.has] at h
    split at h
    · cases h
    · next hlo =>
      rcases Bool.or_eq_true_iff.mp h with hhi | hrest
      · exact ⟨(lo, hi), List.mem_cons_self, by omega, of_decide_eq_true hhi⟩
      · obtain ⟨r, hr, hn⟩ := ih hrest
        exact ⟨r, List.mem_cons_of_mem _ hr, hn⟩

/-- A blank lies in one of the ranges of blanks. -/
theorem exists_range_of_isBlank {c : Char} (h : isBlank c = true) :
    ∃ r ∈ blankCodePoints, r.1 ≤ c.toNat ∧ c.toNat ≤ r.2 :=
  CodePoints.exists_of_has h

/-- No digit of any script is a blank. -/
theorem isBlank_of_isDecimal {c : Char} (h : isDecimal c = true) : isBlank c = false := by
  by_contra hblank
  rw [Bool.not_eq_false] at hblank
  obtain ⟨r, hr, hlo, hhi⟩ := exists_range_of_isBlank hblank
  obtain ⟨r', hr', hlo', hhi'⟩ := CodePoints.exists_of_has h
  -- The ranges of the two tables do not overlap.
  have hapart : ∀ r ∈ blankCodePoints, ∀ r' ∈ digitCodePoints, r.2 < r'.1 ∨ r'.2 < r.1 := by
    decide +kernel
  have := hapart r hr r' hr'
  omega

/-! ### Letters -/

/-- What a letter is not: a blank, a digit, or one of the marks that make up lists and headings. -/
structure IsLetter (c : Char) : Prop where
  not_blank : isBlank c = false
  not_star : c ≠ '*'
  not_decimal : isDecimal c = false
  not_dash : c ≠ '-'
  not_dot : c ≠ '•'
  not_colon : c ≠ ':'

/-- From `A` to `z` there are no blanks, no digits and no marks of a list. -/
theorem isLetter_of_bounds {c : Char} (hlo : 65 ≤ c.toNat) (hhi : c.toNat ≤ 122) : IsLetter c := by
  have hne : ∀ d : Char, d.toNat < 65 ∨ 122 < d.toNat → c ≠ d := by
    rintro d hd rfl
    omega
  refine ⟨?_, hne _ (by decide), ?_, hne _ (by decide), hne _ (by decide), hne _ (by decide)⟩
  · simp only [isBlank, blankCodePoints, CodePoints.has]
    rw [if_neg (by omega), if_neg (by omega), if_pos (by omega)]
    simp only [Bool.or_false, Bool.or_eq_false_iff, decide_eq_false_iff_not]
    omega
  · rw [isDecimal, digitCodePoints, CodePoints.has, if_neg (by omega),
      CodePoints.has_of_lt (by omega)]
    simp only [Bool.or_false, decide_eq_false_iff_not]
    omega

/-- Only capital letters have another lower case. -/
theorem toLower_cases (c : Char) : (65 ≤ c.toNat ∧ c.toNat ≤ 90) ∨ c.toLower = c := by
  by_cases hupper : c.val ≥ 'A'.val ∧ c.val ≤ 'Z'.val
  · exact .inl hupper
  · exact .inr (dif_neg hupper)

/-- A character that differs from a small letter at most in case is a letter. -/
theorem isLetter_of_sameLetter {w c : Char} (hw : 97 ≤ w.toNat ∧ w.toNat ≤ 122)
    (h : Pattern.sameLetter w c = true) : IsLetter c := by
  rw [Pattern.sameLetter, Bool.or_eq_true_iff, Bool.or_eq_true_iff] at h
  rcases h with (h | h) | h
  · have hlower : c.toLower = w := by simpa using h
    rcases toLower_cases c with ⟨hlo, hhi⟩ | hself
    · exact isLetter_of_bounds hlo (by omega)
    · rw [hself] at hlower
      subst hlower
      exact isLetter_of_bounds (by omega) hw.2
  · obtain ⟨-, rfl⟩ : w = 's' ∧ c = '\u017f' := by simpa using h
    constructor <;> decide
  · obtain ⟨-, rfl⟩ : w = 'k' ∧ c = '\u212a' := by simpa using h
    constructor <;> decide

/-- Every character has a lower-case form. -/
theorem lowerChar_ne_nil (c : Char) : lowerChar c ≠ [] := by
  rw [lowerChar]
  split
  · exact List.cons_ne_nil _ _
  · split <;> exact List.cons_ne_nil _ _

/-- A text does not vanish when it is lower-cased, wherever it stands. -/
theorem lowerFrom_ne_nil (before : List Char) {cs : List Char} (h : cs ≠ []) :
    lowerFrom before cs ≠ [] := by
  obtain ⟨c, cs, rfl⟩ := List.exists_cons_of_ne_nil h
  rw [lowerFrom]
  split
  · exact List.cons_ne_nil _ _
  · exact fun hnil => lowerChar_ne_nil c (List.append_eq_nil_iff.mp hnil).1

/-- A text does not vanish when it is lower-cased. -/
theorem lower_ne_nil {cs : List Char} (h : cs ≠ []) : lower cs ≠ [] := lowerFrom_ne_nil [] h

/-! ### Stripping -/

/-- The text neither begins nor ends with a character of the class. -/
def Bare (p : Char → Bool) (cs : List Char) : Prop :=
  (∀ c ∈ cs.head?, p c = false) ∧ ∀ c ∈ cs.getLast?, p c = false

instance (p : Char → Bool) (cs : List Char) : Decidable (Bare p cs) :=
  decidable_of_iff ((cs.head?.all fun c => !p c) = true ∧ (cs.getLast?.all fun c => !p c) = true)
    (by rw [Bare]; cases cs.head? <;> cases cs.getLast? <;> simp)

/-- The empty text is bare. -/
theorem bare_nil (p : Char → Bool) : Bare p [] :=
  ⟨fun c hc => absurd hc (Option.not_mem_none c), fun c hc => absurd hc (Option.not_mem_none c)⟩

/-- A text without characters of the class is bare. -/
theorem bare_of_forall {p : Char → Bool} {cs : List Char} (h : ∀ c ∈ cs, p c = false) : Bare p cs :=
  ⟨fun c hc => h c (List.mem_of_mem_head? hc), fun c hc => h c (List.mem_of_mem_getLast? hc)⟩

/-- Dropping stops where a text begins that does not begin with a character of the class. -/
theorem dropWhile_append_of_head {p : Char → Bool} {front cs : List Char}
    (hfront : ∀ c ∈ front, p c = true) (hcs : ∀ c ∈ cs.head?, p c = false) :
    (front ++ cs).dropWhile p = cs := by
  rw [List.dropWhile_append_of_pos hfront]
  cases cs with
  | nil => rfl
  | cons c cs =>
    have hc : p c = false := hcs c rfl
    rw [List.dropWhile_cons_of_neg (by rw [hc]; exact Bool.false_ne_true)]

/-- What surrounds a bare text is stripped off, and no more. -/
theorem strip_surrounded {p : Char → Bool} {front cs back : List Char}
    (hfront : ∀ c ∈ front, p c = true) (hback : ∀ c ∈ back, p c = true) (hcs : Bare p cs) :
    strip p (front ++ cs ++ back) = cs := by
  by_cases hnil : cs = []
  · subst hnil
    have hall : ∀ c ∈ front ++ [] ++ back, p c = true := by
      intro c hc
      rcases List.mem_append.mp hc with hc | hc
      · exact hfront c (by simpa using hc)
      · exact hback c hc
    rw [strip, List.dropWhile_eq_nil_iff.mpr hall]
    rfl
  · have hhead : ∀ c ∈ (cs ++ back).head?, p c = false := by
      rw [List.head?_append_of_ne_nil _ hnil]
      exact hcs.1
    have hlast : ∀ c ∈ cs.reverse.head?, p c = false := by
      rw [List.head?_reverse]
      exact hcs.2
    rw [strip, List.append_assoc, dropWhile_append_of_head hfront hhead, stripEnd,
      List.reverse_append,
      dropWhile_append_of_head (fun c hc => hback c (List.mem_reverse.mp hc)) hlast,
      List.reverse_reverse]

/-- A bare text is stripped of nothing. -/
theorem strip_of_bare {p : Char → Bool} {cs : List Char} (h : Bare p cs) : strip p cs = cs := by
  have hstrip := strip_surrounded (List.forall_mem_nil _) (List.forall_mem_nil _) h
  rwa [List.nil_append, List.append_nil] at hstrip

/-! ### Lines -/

/-- The line without a carriage return at its end. -/
def chomped : List Char → List Char
  | [] => []
  | ['\r'] => []
  | c :: cs => c :: chomped cs

/-- Only the last character may be taken away. -/
theorem chomped_cons {c : Char} {cs : List Char} (h : c = '\r' → cs ≠ []) :
    chomped (c :: cs) = c :: chomped cs := by
  rw [chomped]
  intro hc hcs
  exact h hc hcs

/-- A carriage return at the end is all that is taken away. -/
theorem chomped_cases (cs : List Char) : chomped cs = cs ∨ cs = chomped cs ++ ['\r'] := by
  induction cs with
  | nil => exact .inl rfl
  | cons c cs ih =>
    by_cases h : c = '\r' → cs ≠ []
    · rw [chomped_cons h]
      rcases ih with ih | ih
      · exact .inl (by rw [ih])
      · exact .inr (by rw [List.cons_append, ← ih])
    · obtain ⟨rfl, rfl⟩ : c = '\r' ∧ cs = [] := by simpa using h
      exact .inr rfl

/-- A character that ends no line belongs to the line at hand. -/
theorem lines_cons {c : Char} {cs : List Char} (hc : c ≠ '\n')
    (hreturn : c = '\r' → ∀ rest, cs ≠ '\n' :: rest) :
    lines (c :: cs) = (c :: (lines cs).headD []) :: (lines cs).tail := by
  rw [lines]
  · cases lines cs <;> rfl
  · exact hc
  · exact fun rest hr hnext => hreturn hr rest hnext

/-- A line feed ends a line. -/
theorem lines_append_newline {cs : List Char} (h : '\n' ∉ cs) (rest : List Char) :
    lines (cs ++ '\n' :: rest) = chomped cs :: lines rest := by
  induction cs with
  | nil => rw [List.nil_append, lines, chomped]
  | cons c cs ih =>
    obtain ⟨hc, hcs⟩ : '\n' ≠ c ∧ '\n' ∉ cs := by simpa using h
    by_cases hreturn : c = '\r' ∧ cs = []
    · obtain ⟨rfl, rfl⟩ := hreturn
      rw [List.cons_append, List.nil_append, lines, chomped]
    · have hlast : c = '\r' → cs ≠ [] := fun hr hnil => hreturn ⟨hr, hnil⟩
      -- A carriage return here stands before another character than the line feed.
      have hinside : c = '\r' → ∀ rest', cs ++ '\n' :: rest ≠ '\n' :: rest' := by
        intro hr rest' hnext
        obtain ⟨d, ds, rfl⟩ := List.exists_cons_of_ne_nil (hlast hr)
        rw [List.cons_append, List.cons.injEq] at hnext
        exact hcs (hnext.1 ▸ List.mem_cons_self)
      rw [List.cons_append, lines_cons hc.symm hinside, ih hcs, chomped_cons hlast,
        List.headD_cons, List.tail_cons]

/-- A text without line feeds is one line, unless it is empty. -/
theorem lines_of_single {cs : List Char} (h : '\n' ∉ cs) (hne : cs ≠ []) : lines cs = [cs] := by
  induction cs with
  | nil => exact absurd rfl hne
  | cons c cs ih =>
    obtain ⟨hc, hcs⟩ : '\n' ≠ c ∧ '\n' ∉ cs := by simpa using h
    have hinside : c = '\r' → ∀ rest, cs ≠ '\n' :: rest := by
      intro _ rest hnext
      exact hcs (hnext ▸ List.mem_cons_self)
    rw [lines_cons hc.symm hinside]
    by_cases hnil : cs = []
    · rw [hnil, lines, List.headD_nil, List.tail_nil]
    · rw [ih hcs hnil, List.headD_cons, List.tail_cons]

end TaintReview.Text
