import Mathlib.Data.List.DropRight
import TaintReview.Json.Printer
import TaintReview.Json.Reader

namespace TaintReview

open Decimal

/-!
# How numbers and strings are spelled

What the reader makes of the tokens that the printers write, whatever text follows them.

* `Ends rest` — the text cannot carry on a number, as it cannot after a comma, a bracket or a blank;
* `takeSigned_append` — a number that is read at the end of a text is read in front of any other;
* `Number.Legible n` — the text of the number reads back as the number.  `Number.int_legible` shows
  it of the integers; of a floating-point number it is a fact about the digits chosen for it;
* `takeString_escaped`, `pieceText?_pieces` — every string is read back from its escapes.
-/

namespace Json

/-! ### Blanks -/

theorem skip_skip (cs : List Char) : skip (skip cs) = skip cs :=
  List.dropWhile_idempotent isSpace cs

/-- Blanks in front of a text are skipped with its own. -/
theorem skip_append_of_blank {gap : List Char} (h : ∀ c ∈ gap, isSpace c = true)
    (cs : List Char) : skip (gap ++ cs) = skip cs :=
  List.dropWhile_append_of_pos h

/-- Skipping stops at what is no blank, whatever text follows. -/
theorem skip_append_of_skip {cs : List Char} {c : Char} {after : List Char}
    (h : skip cs = c :: after) (rest : List Char) : skip (cs ++ rest) = c :: after ++ rest := by
  have hcs : cs.dropWhile isSpace = c :: after := h
  rw [skip, List.dropWhile_append, hcs]
  rfl

/-- Skipping goes on behind a text of blanks. -/
theorem skip_append_of_skip_eq_nil {cs : List Char} (h : skip cs = []) (rest : List Char) :
    skip (cs ++ rest) = skip rest := by
  have hcs : cs.dropWhile isSpace = [] := h
  rw [skip, List.dropWhile_append, hcs]
  rfl

/-! ### Numbers -/

/-- The text does not carry on a number. -/
def Ends (rest : List Char) : Prop :=
  ∀ c ∈ rest.head?, digit? c = none ∧ c ≠ '.' ∧ c ≠ 'e' ∧ c ≠ 'E'

/-- The end of the text carries nothing on. -/
theorem ends_nil : Ends [] := nofun

/-- Whether a text carries on a number is decided by its first character. -/
theorem ends_cons {c : Char} {rest : List Char}
    (h : digit? c = none ∧ c ≠ '.' ∧ c ≠ 'e' ∧ c ≠ 'E') : Ends (c :: rest) := by
  intro d hd
  cases hd
  exact h

/-- A blank is no part of a number. -/
theorem stops_of_isSpace {c : Char} (h : isSpace c = true) :
    digit? c = none ∧ c ≠ '.' ∧ c ≠ 'e' ∧ c ≠ 'E' := by
  simp only [isSpace, Bool.or_eq_true, beq_iff_eq] at h
  obtain ((rfl | rfl) | rfl) | rfl := h <;> decide

/-- No blank carries on a number, so what comes after the blanks decides. -/
theorem ends_of_skip {rest after : List Char} {c : Char} (h : skip rest = c :: after)
    (hc : Ends [c]) : Ends rest := by
  cases rest with
  | nil => exact ends_nil
  | cons d rest =>
    by_cases hd : isSpace d = true
    · exact ends_cons (stops_of_isSpace hd)
    · rw [skip, List.dropWhile_cons_of_neg hd] at h
      cases h
      exact ends_cons (hc c rfl)

variable {cs rest after : List Char} {t : NumberText}

/-- What carries nothing on begins with no digit. -/
theorem takeDigits_of_ends (h : Ends rest) : takeDigits rest = ([], rest) := by
  cases rest with
  | nil => rfl
  | cons c rest => rw [takeDigits, (h c rfl).1]

/-- Digits are read the same in front of what carries nothing on. -/
theorem takeDigits_append (hrest : Ends rest) {ds : List Nat} (h : takeDigits cs = (ds, after)) :
    takeDigits (cs ++ rest) = (ds, after ++ rest) := by
  induction cs generalizing ds with
  | nil =>
    cases h
    exact takeDigits_of_ends hrest
  | cons c cs ih =>
    -- The reader stops at the first character that is no digit, in both texts at the same place.
    rw [List.cons_append, takeDigits]
    rw [takeDigits] at h
    cases hc : digit? c with
    | none =>
      rw [hc] at h
      cases h
      rfl
    | some d =>
      rw [hc] at h
      cases h
      rw [ih rfl]

/-- At least one digit at the front of a text. -/
def someDigits? (cs : List Char) : Option (List Nat × List Char) :=
  match takeDigits cs with
  | ([], _) => none
  | (ds, rest) => some (ds, rest)

/-- The same when one digit is required. -/
theorem someDigits?_append (hrest : Ends rest) {ds : List Nat}
    (h : someDigits? cs = some (ds, after)) :
    someDigits? (cs ++ rest) = some (ds, after ++ rest) := by
  rw [someDigits?] at h ⊢
  cases hread : takeDigits cs with
  | mk read left =>
    rw [hread] at h
    rw [takeDigits_append hrest hread]
    cases read with
    | nil => cases h
    | cons d read =>
      cases h
      rfl

/-- Without a point there is no fraction. -/
theorem takeFraction_of_ne {c : Char} (hc : c ≠ '.') :
    takeFraction (c :: cs) = some ([], c :: cs) := by
  simp [takeFraction, hc]

/-- A fraction is read the same in front of what carries nothing on. -/
theorem takeFraction_append (hrest : Ends rest) {ds : List Nat}
    (h : takeFraction cs = some (ds, after)) :
    takeFraction (cs ++ rest) = some (ds, after ++ rest) := by
  cases cs with
  | nil =>
    cases h
    -- No fraction was written, and the rest does not begin with a point.
    cases rest with
    | nil => rfl
    | cons c rest => exact takeFraction_of_ne (hrest c rfl).2.1
  | cons c cs =>
    by_cases hc : c = '.'
    · subst hc
      exact someDigits?_append hrest h
    · rw [takeFraction_of_ne hc] at h
      cases h
      exact takeFraction_of_ne hc

/-- The sign of an exponent and what follows it. -/
def exponentSign : List Char → Bool × List Char
  | '+' :: rest => (false, rest)
  | '-' :: rest => (true, rest)
  | rest => (false, rest)

/-- The sign of an exponent is read the same in front of any text. -/
theorem exponentSign_append (c : Char) (cs rest : List Char) :
    exponentSign (c :: cs ++ rest) =
      ((exponentSign (c :: cs)).1, (exponentSign (c :: cs)).2 ++ rest) := by
  by_cases hplus : c = '+'
  · subst hplus
    rfl
  · by_cases hminus : c = '-'
    · subst hminus
      rfl
    · simp [exponentSign, hplus, hminus]

/-- After its mark an exponent is a sign and one digit or more. -/
theorem takeExponent_of_mark {c : Char} (hc : (c == 'e' || c == 'E') = true) :
    takeExponent (c :: cs) =
      (fun read => (some ((exponentSign cs).1, read.1), read.2)) <$>
        someDigits? (exponentSign cs).2 := by
  have hsign : takeExponent (c :: cs) =
      match takeDigits (exponentSign cs).2 with
      | ([], _) => none
      | (ds, rest) => some (some ((exponentSign cs).1, ds), rest) := if_pos hc
  rw [hsign, someDigits?]
  split <;> rfl

/-- Without its mark there is no exponent. -/
theorem takeExponent_of_not_mark {c : Char} (hc : ¬(c == 'e' || c == 'E') = true) :
    takeExponent (c :: cs) = some (none, c :: cs) :=
  if_neg hc

/-- An exponent is read the same in front of what carries nothing on. -/
theorem takeExponent_append (hrest : Ends rest) {e : Option (Bool × List Nat)}
    (h : takeExponent cs = some (e, after)) :
    takeExponent (cs ++ rest) = some (e, after ++ rest) := by
  cases cs with
  | nil =>
    cases h
    -- No exponent was written, and the rest does not begin with a mark.
    cases rest with
    | nil => rfl
    | cons c rest => exact takeExponent_of_not_mark (by simp [(hrest c rfl).2.2])
  | cons c cs =>
    by_cases hc : (c == 'e' || c == 'E') = true
    · rw [takeExponent_of_mark hc, Option.map_eq_map, Option.map_eq_some_iff] at h
      obtain ⟨⟨ds, left⟩, hdigits, hread⟩ := h
      cases hread
      cases cs with
      | nil => cases hdigits
      | cons d cs =>
        rw [List.cons_append, takeExponent_of_mark hc, exponentSign_append,
          someDigits?_append hrest hdigits]
        rfl
    · rw [takeExponent_of_not_mark hc] at h
      cases h
      exact takeExponent_of_not_mark hc

/-- Digits of a whole number: there are some, and a leading zero stands alone. -/
def isWhole : List Nat → Bool
  | [] => false
  | 0 :: _ :: _ => false
  | _ => true

/-- The parts of a number are read one after the other. -/
theorem takeNumber_eq_some_iff {negative : Bool} :
    takeNumber negative cs = some (t, after) ↔
      ∃ integer fraction exponent point mark,
        takeDigits cs = (integer, point) ∧ isWhole integer = true ∧
        takeFraction point = some (fraction, mark) ∧
        takeExponent mark = some (exponent, after) ∧
        t = ⟨negative, integer, fraction, exponent⟩ := by
  cases hread : takeDigits cs with
  | mk read left =>
    -- The reader's cases on the leading zero are the test for a whole number.
    have hparts : takeNumber negative cs =
        if isWhole read then
          (takeFraction left).bind fun fraction =>
            (takeExponent fraction.2).bind fun exponent =>
              some (⟨negative, read, fraction.1, exponent.1⟩, exponent.2)
        else none := by
      rw [takeNumber, hread]
      split <;> simp_all [isWhole]
    rw [hparts]
    constructor
    · intro h
      simp only [Option.ite_none_right_eq_some, Option.bind_eq_some_iff] at h
      obtain ⟨hwhole, ⟨fraction, mark⟩, hfraction, ⟨exponent, last⟩, hexponent, hlast⟩ := h
      cases hlast
      exact ⟨read, fraction, exponent, left, mark, rfl, hwhole, hfraction, hexponent, rfl⟩
    · rintro ⟨integer, fraction, exponent, point, mark, hpoint, hwhole, hfraction, hexponent, rfl⟩
      cases hpoint
      rw [if_pos hwhole, hfraction, Option.bind_some, hexponent, Option.bind_some]

/-- A number is read the same in front of what carries nothing on. -/
theorem takeNumber_append {negative : Bool} (hrest : Ends rest)
    (h : takeNumber negative cs = some (t, after)) :
    takeNumber negative (cs ++ rest) = some (t, after ++ rest) := by
  obtain ⟨integer, fraction, exponent, point, mark, hint, hwhole, hfrac, hexp, ht⟩ :=
    takeNumber_eq_some_iff.mp h
  exact takeNumber_eq_some_iff.mpr ⟨integer, fraction, exponent, _, _,
    takeDigits_append hrest hint, hwhole, takeFraction_append hrest hfrac,
    takeExponent_append hrest hexp, ht⟩

/-- The number at the front of a text, with its sign. -/
def takeSigned : List Char → Option (NumberText × List Char)
  | '-' :: rest => takeNumber true rest
  | rest => takeNumber false rest

/-- Without a minus the number has no sign. -/
theorem takeSigned_of_ne {c : Char} (hc : c ≠ '-') :
    takeSigned (c :: cs) = takeNumber false (c :: cs) := by
  simp [takeSigned, hc]

/-- A signed number is read the same in front of what carries nothing on. -/
theorem takeSigned_append (hrest : Ends rest) (h : takeSigned cs = some (t, after)) :
    takeSigned (cs ++ rest) = some (t, after ++ rest) := by
  cases cs with
  | nil => cases h
  | cons c cs =>
    by_cases hc : c = '-'
    · subst hc
      exact takeNumber_append hrest h
    · rw [takeSigned_of_ne hc] at h
      rw [List.cons_append, takeSigned_of_ne hc]
      exact takeNumber_append hrest h

/-- What begins with no digit is no number. -/
theorem takeNumber_of_digit?_eq_none {c : Char} (hc : digit? c = none) (negative : Bool) :
    takeNumber negative (c :: cs) = none := by
  rw [takeNumber, takeDigits, hc]

/-- A number begins with a digit, so there is no blank and no sign in front of it. -/
theorem takeSigned_skip (h : takeNumber false cs = some (t, after)) :
    takeSigned (skip cs) = some (t, after) := by
  cases cs with
  | nil => cases h
  | cons c cs =>
    have hdigit : digit? c ≠ none := by
      intro hc
      rw [takeNumber_of_digit?_eq_none hc] at h
      cases h
    -- Neither a blank nor a minus is a digit.
    have hblank : ¬isSpace c = true := fun hc => hdigit (stops_of_isSpace hc).1
    have hminus : c ≠ '-' := by
      rintro rfl
      exact hdigit (by decide)
    rw [skip, List.dropWhile_cons_of_neg hblank, takeSigned_of_ne hminus, h]

/-- No number begins like any of the other values. -/
theorem takeValue_of_takeSigned {fuel : Nat} (h : takeSigned (skip cs) = some (t, after)) :
    takeValue (fuel + 1) cs = some (.number t, after) := by
  rw [takeValue]
  split <;> simp_all [takeSigned, takeNumber_of_digit?_eq_none, digit?]

/-- What is read as a number is a signed number behind blanks. -/
theorem takeSigned_of_takeValue {fuel : Nat} (h : takeValue fuel cs = some (.number t, after)) :
    takeSigned (skip cs) = some (t, after) := by
  cases fuel with
  | zero => cases h
  | succ fuel =>
    rw [takeValue] at h
    split at h
    all_goals simp_all [takeSigned, Option.bind_eq_some_iff]
    -- What remains are the containers, and a container is no number.
    all_goals split at h <;> simp_all [Option.bind_eq_some_iff]

/-- A text is read when its value is and only blanks are left. -/
theorem Written.parse?_of_takeValue {w : Written}
    (h : takeValue (2 * cs.length + 1) cs = some (w, after)) (hblank : skip after = []) :
    Written.parse? (String.ofList cs) = some w := by
  rw [Written.parse?, String.toList_ofList]
  exact Option.bind_eq_some_iff.mpr ⟨(w, after), h, if_pos hblank⟩

/-! ### Digits -/

/-- Digits that fill a text are read on into the next one. -/
theorem takeDigits_append_of_digits {ds : List Nat} (h : takeDigits cs = (ds, [])) :
    takeDigits (cs ++ rest) = (ds ++ (takeDigits rest).1, (takeDigits rest).2) := by
  induction cs generalizing ds with
  | nil =>
    cases h
    rfl
  | cons c cs ih =>
    rw [takeDigits] at h
    rw [List.cons_append, takeDigits]
    cases hc : digit? c with
    | none =>
      rw [hc] at h
      cases h
    | some d =>
      rw [hc] at h
      cases hread : takeDigits cs with
      | mk read left =>
        rw [hread] at h
        cases h
        rw [ih hread]
        rfl

/-- One more digit at the end makes the number ten times as large and adds the digit. -/
theorem ofDigits_concat (ds : List Nat) (d : Nat) :
    ofDigits (ds ++ [d]) = ofDigits ds * 10 + d := by
  rw [ofDigits, List.foldl_append]
  rfl

/-- A positive number keeps its form when a digit is added at the end. -/
theorem isWhole_concat {ds : List Nat} (h : isWhole ds = true) (hpos : 0 < ofDigits ds) (d : Nat) :
    isWhole (ds ++ [d]) = true := by
  cases ds with
  | nil => cases h
  | cons first ds =>
    -- A zero in front would stand alone, and the number would not be positive.
    have hfirst : first ≠ 0 := by
      rintro rfl
      cases ds with
      | nil => exact absurd hpos (by decide)
      | cons second ds => cases h
    rw [List.cons_append, isWhole]
    · nofun
    · intro second ds heq
      exact hfirst (List.head_eq_of_cons_eq heq)

/-- The character of a digit is read as that digit. -/
theorem takeDigits_digitChar {d : Nat} (hd : d < 10) : takeDigits [d.digitChar] = ([d], []) := by
  revert d
  decide

/-- The digits of a number spell it, without a zero in front. -/
theorem takeDigits_digitsOf (n : Nat) :
    ∃ ds, takeDigits (digitsOf n) = (ds, []) ∧ isWhole ds = true ∧ ofDigits ds = n := by
  induction n using Nat.strongRecOn with
  | ind n ih =>
    by_cases hn : n < 10
    · refine ⟨[n], ?_, ?_, ?_⟩
      · rw [digitsOf, Nat.toDigits_of_lt_base hn, takeDigits_digitChar hn]
      · rw [isWhole]
        nofun
        nofun
      · simp [ofDigits]
    · -- The digits of a longer number are those of its tenth and the last one.
      obtain ⟨ds, hread, hwhole, hvalue⟩ := ih (n / 10) (by omega)
      have hlast := takeDigits_digitChar (Nat.mod_lt n (by decide : 10 > 0))
      refine ⟨ds ++ [n % 10], ?_, isWhole_concat hwhole (by omega) _, ?_⟩
      · rw [digitsOf, Nat.toDigits_of_base_le (by decide) (by omega)]
        rw [digitsOf] at hread
        rw [takeDigits_append_of_digits hread, hlast]
      · rw [ofDigits_concat, hvalue]
        omega

end Json

namespace Number

open Json

/-! ### Legible numbers -/

/-- The text of the number is read back as the number. -/
def Legible (n : Number) : Prop := parse? (String.ofList n.text) = some (.number n)

/-- The digits that the text of the number spells. -/
def spelled (n : Number) : NumberText :=
  ((takeSigned (skip n.text)).map (·.1)).getD ⟨false, [], [], none⟩

/-- What is read from the text of a number is what it spells. -/
theorem spelled_eq {n : Number} {t : NumberText} {left : List Char}
    (h : takeSigned (skip n.text) = some (t, left)) : n.spelled = t := by
  rw [spelled, h]
  rfl

/-- Only the tree of a number has a number for its value. -/
theorem value?_eq_number {w : Written} {depth : Nat} {n : Number}
    (h : w.value? depth = some (.number n)) : ∃ t, w = .number t ∧ t.value? = some n := by
  cases w with
  | number t =>
    rw [Written.value?, Option.map_eq_map, Option.map_eq_some_iff] at h
    obtain ⟨m, hm, heq⟩ := h
    cases heq
    exact ⟨t, rfl, hm⟩
  | _ => simp_all [Written.value?]

/-- A number is legible when its text, up to blanks, spells digits whose value it is. -/
theorem legible_iff {n : Number} :
    n.Legible ↔ ∃ left, takeSigned (skip n.text) = some (n.spelled, left) ∧ skip left = [] ∧
      n.spelled.value? = some n := by
  constructor
  · intro h
    rw [Legible, parse?, Written.parse?, String.toList_ofList] at h
    obtain ⟨w, hw, hvalue⟩ := Option.bind_eq_some_iff.mp h
    obtain ⟨⟨w', left⟩, htake, hleft⟩ := Option.bind_eq_some_iff.mp hw
    obtain ⟨hblank, heq⟩ := Option.ite_none_right_eq_some.mp hleft
    cases heq
    obtain ⟨t, rfl, ht⟩ := value?_eq_number hvalue
    have hsigned := takeSigned_of_takeValue htake
    rw [spelled_eq hsigned]
    exact ⟨left, hsigned, hblank, ht⟩
  · rintro ⟨left, hsigned, hblank, hvalue⟩
    have hread := Written.parse?_of_takeValue (takeValue_of_takeSigned hsigned) hblank
    have hnumber : (Written.number n.spelled).value? maxDepth = some (.number n) := by
      rw [Written.value?, hvalue]
      rfl
    exact Option.bind_eq_some_iff.mpr ⟨_, hread, hnumber⟩

/-- A legible number is read in front of any text that does not carry it on, up to blanks. -/
theorem takeValue_text {n : Number} (h : n.Legible) {rest : List Char} (hrest : Ends rest)
    (fuel : Nat) :
    ∃ left, takeValue (fuel + 1) (n.text ++ rest) = some (.number n.spelled, left) ∧
      skip left = skip rest := by
  obtain ⟨left, htake, hleft, -⟩ := legible_iff.mp h
  have hskip : skip (n.text ++ rest) = skip n.text ++ rest := by
    cases hfront : skip n.text with
    | nil =>
      rw [hfront] at htake
      cases htake
    | cons c cs => exact skip_append_of_skip hfront rest
  refine ⟨left ++ rest, takeValue_of_takeSigned ?_, ?_⟩
  · rw [hskip]
    exact takeSigned_append hrest htake
  · exact skip_append_of_skip_eq_nil hleft rest

/-- The digits of a magnitude, with the sign of the integer, have that integer for their value. -/
theorem value?_of_digits {n : Int} (h : -0x8000000000000000 ≤ n ∧ n < 0x10000000000000000)
    {ds : List Nat} (hds : ofDigits ds = n.natAbs) :
    NumberText.value? ⟨decide (n < 0), ds, [], none⟩ = some (.int n h) := by
  by_cases hneg : n < 0
  · -- A negative integer is not zero and fits a signed word.
    have hmagnitude : 0 < n.natAbs ∧ n.natAbs ≤ 0x8000000000000000 := by omega
    have hword : ofInt? (-(n.natAbs : Int)) = some (.int n h) := by
      rw [show -(n.natAbs : Int) = n by omega]
      exact dif_pos h
    simp only [NumberText.value?, NumberText.isIntegral, hds, hneg, hmagnitude, hword, decide_true,
      List.isEmpty_nil, Option.isNone_none, Bool.and_self, Bool.not_true, Bool.false_eq_true,
      if_true, if_false]
  · have hword : ofInt? (n.natAbs : Int) = some (.int n h) := by
      rw [show (n.natAbs : Int) = n by omega]
      exact dif_pos h
    simp only [NumberText.value?, NumberText.isIntegral, hds, hneg, hword, decide_false,
      List.isEmpty_nil, Option.isNone_none, Bool.and_self, Bool.not_true, Bool.false_eq_true,
      if_false]

/-- Every integer is legible. -/
theorem int_legible (n : Int) (h : -0x8000000000000000 ≤ n ∧ n < 0x10000000000000000) :
    Legible (.int n h) := by
  obtain ⟨ds, hread, hwhole, hvalue⟩ := takeDigits_digitsOf n.natAbs
  have htake (negative : Bool) :
      takeNumber negative (digitsOf n.natAbs) = some (⟨negative, ds, [], none⟩, []) :=
    takeNumber_eq_some_iff.mpr ⟨ds, [], none, [], [], hread, hwhole, rfl, rfl, rfl⟩
  -- The sign is written first, and only for what is negative.
  have hsigned : takeSigned (skip (text (.int n h))) =
      some (⟨decide (n < 0), ds, [], none⟩, []) := by
    rw [text, signedDigits]
    by_cases hneg : n < 0
    · rw [if_pos hneg, decide_eq_true hneg]
      exact htake true
    · rw [if_neg hneg, decide_eq_false hneg]
      exact takeSigned_skip (htake false)
  refine legible_iff.mpr ⟨[], ?_, rfl, ?_⟩
  · rw [spelled_eq hsigned]
    exact hsigned
  · rw [spelled_eq hsigned]
    exact value?_of_digits h hvalue

end Number

namespace Json

/-! ### Strings -/

/-- The piece that a character is written as: control characters without a letter of their own
    are written by their bits. -/
def pieceOf (c : Char) : Piece :=
  if (escapedChar c).length ≤ 2 then .char c else .bits c.toNat

/-- The pieces of a string. -/
def pieces (s : String) : List Piece := s.toList.map pieceOf

/-- The bits of a control character are read back from two digits. -/
theorem hexQuad?_hexPair {n : Nat} (h : n < 0x20) :
    hexQuad? '0' '0' (Nat.digitChar (n / 16 % 16)) (Nat.digitChar (n % 16)) = some n := by
  revert n
  decide

/-- A character is written by its letter, by its bits or as it stands. -/
theorem escapedChar_cases (c : Char) :
    (∃ letter, escapedChar c = ['\\', letter] ∧ letter ≠ 'u' ∧ escape? letter = some c) ∨
      (escapedChar c = ['\\', 'u', '0', '0'] ++ hexPair c.toNat ∧ c.toNat < 0x20) ∨
      (escapedChar c = [c] ∧ c ≠ '"' ∧ c ≠ '\\' ∧ ¬c.toNat < 0x20) := by
  unfold escapedChar
  split
  case h_8 =>
    right
    split
    · exact .inl ⟨rfl, ‹_›⟩
    · exact .inr ⟨rfl, ‹_›, ‹_›, ‹_›⟩
  all_goals exact .inl ⟨_, rfl, by decide, rfl⟩

/-- A character is read back as its piece. -/
theorem takeString_escapedChar (c : Char) (rest : List Char) :
    takeString (escapedChar c ++ rest) =
      (takeString rest).bind fun read => some (pieceOf c :: read.1, read.2) := by
  rw [pieceOf]
  obtain ⟨letter, htext, hletter, hescape⟩ | ⟨htext, hcontrol⟩ |
    ⟨htext, hquote, hslash, hcontrol⟩ := escapedChar_cases c
  · rw [htext]
    simp [takeString, hletter, hescape]
  · rw [htext]
    simp [takeString, hexPair, hexQuad?_hexPair hcontrol]
  · rw [htext]
    simp [takeString, hslash, hcontrol]

/-- A string is read back as its pieces, up to the closing quote. -/
theorem takeString_escaped (cs rest : List Char) :
    takeString (cs.flatMap escapedChar ++ '"' :: rest) = some (cs.map pieceOf, rest) := by
  induction cs with
  | nil => rfl
  | cons c cs ih =>
    rw [List.flatMap_cons, List.append_assoc, takeString_escapedChar, ih]
    rfl

/-- Bits below the surrogates stand for a character of their own. -/
theorem pieceChars?_bits {n : Nat} (h : n < 0xd800) (ps : List Piece) :
    pieceChars? (.bits n :: ps) = (Char.ofNat n :: ·) <$> pieceChars? ps := by
  rw [pieceChars?.eq_def]
  simp [h]

/-- The piece of a character stands for that character. -/
theorem pieceChars?_cons (c : Char) (ps : List Piece) :
    pieceChars? (pieceOf c :: ps) = (c :: ·) <$> pieceChars? ps := by
  rw [pieceOf]
  obtain ⟨letter, htext, -, -⟩ | ⟨htext, hcontrol⟩ | ⟨htext, -, -, -⟩ := escapedChar_cases c
  · rw [htext]
    rfl
  · -- A control character is below the surrogates.
    have hbits := pieceChars?_bits (by omega : c.toNat < 0xd800) ps
    rw [Char.ofNat_toNat] at hbits
    rw [htext]
    exact hbits
  · rw [htext]
    rfl

/-- The pieces of a string stand for that string. -/
theorem pieceText?_pieces (s : String) : pieceText? (pieces s) = some s := by
  have hchars (cs : List Char) : pieceChars? (cs.map pieceOf) = some cs := by
    induction cs with
    | nil => rfl
    | cons c cs ih =>
      rw [List.map_cons, pieceChars?_cons, ih]
      rfl
  rw [pieceText?, pieces, hchars]
  exact congrArg some String.ofList_toList

end Json

end TaintReview
