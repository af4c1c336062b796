import TaintReview.Proofs.FunnelRows
import TaintReview.Proofs.PatternSearch

namespace TaintReview

open Text Decimal

/-!
# Numbers and their texts in columns

One store answers with numbers where another one answers with their texts.  Columns are read so that
this makes no difference.  An integer is printed as a decimal text that stands for it; the text of a
floating-point number always has a point or an exponent, so it stands for no integer.

* `isSignedNumeral_signedDigits` — the text of an integer stands for it;
* `Number.exists_mark_floatText` — the text of a floating-point number is no decimal text;
* `Json.asInt64?_between` — the text of a number, between blanks, is read as the number is;
* `Json.Restates v v'` — `v'` is `v`, or `v` is a number and `v'` its text between blanks;
* **`Record.numbers_read_alike`** — columns with the one and with the other are read alike.
-/

/-! ### The text of an integer -/

/-- A digit at the end multiplies what stands before it by ten. -/
theorem IsNumeral.concat {text : List Char} {n d : Nat} (h : IsNumeral text n) (hd : d < 10) :
    IsNumeral (text ++ [Nat.digitChar d]) (n * 10 + d) := by
  obtain ⟨ds, -, hds, rfl, rfl⟩ := h
  refine ⟨ds ++ [d], by simp, ?_, by simp, ?_⟩
  · exact List.forall_mem_append.mpr ⟨hds, List.forall_mem_singleton.mpr hd⟩
  · rw [List.reverse_append, List.reverse_singleton, List.singleton_append, Nat.ofDigits_cons]
    omega

/-- The digits of a number stand for it. -/
theorem isNumeral_digitsOf (n : Nat) : IsNumeral (digitsOf n) n := by
  induction n using Nat.strongRecOn with
  | ind n ih =>
    by_cases hn : n < 10
    · rw [digitsOf, Nat.toDigits_of_lt_base hn]
      exact ⟨[n], by simp, by simpa using hn, rfl, by simp⟩
    · -- The last digit stands behind the digits of a tenth of the number.
      have hfront := (ih (n / 10) (by omega)).concat (Nat.mod_lt n (by decide : 10 > 0))
      rw [Nat.div_add_mod'] at hfront
      rw [digitsOf, Nat.toDigits_of_base_le (by decide) (by omega)]
      exact hfront

/-- The text of an integer is a decimal text that stands for it. -/
theorem isSignedNumeral_signedDigits (n : Int) : IsSignedNumeral (signedDigits n) n := by
  have hdigits := isNumeral_digitsOf n.natAbs
  rw [signedDigits]
  by_cases hneg : n < 0
  · have hminus := IsSignedNumeral.minus hdigits
    rw [show -(n.natAbs : Int) = n by omega] at hminus
    rwa [if_pos hneg]
  · have hplain := IsSignedNumeral.plain hdigits
    rw [show (n.natAbs : Int) = n by omega] at hplain
    rwa [if_neg hneg]

/-- The character may stand in a decimal text. -/
def isNumeralChar (c : Char) : Bool := c.isDigit || c == '+' || c == '-'

theorem isNumeralChar_digitChar {d : Nat} (h : d < 10) :
    isNumeralChar (Nat.digitChar d) = true := by
  rw [isNumeralChar, Nat.isDigit_digitChar, decide_eq_true h]
  rfl

/-- A decimal text has such characters only. -/
theorem IsSignedNumeral.forall_isNumeralChar {cs : List Char} {n : Int} (h : IsSignedNumeral cs n) :
    ∀ c ∈ cs, isNumeralChar c = true := by
  have hdigits {ds : List Char} {m : Nat} (h : IsNumeral ds m) :
      ∀ c ∈ ds, isNumeralChar c = true := by
    obtain ⟨ds, -, hds, rfl, -⟩ := h
    exact List.forall_mem_map.mpr fun d hd => isNumeralChar_digitChar (hds d hd)
  cases h with
  | plain digits => exact hdigits digits
  | plus digits => exact List.forall_mem_cons.mpr ⟨by decide, hdigits digits⟩
  | minus digits => exact List.forall_mem_cons.mpr ⟨by decide, hdigits digits⟩

/-- None of these characters is blank. -/
theorem not_isBlank_of_isNumeralChar {c : Char} (h : isNumeralChar c = true) :
    isBlank c = false := by
  rw [isNumeralChar, Bool.or_eq_true, Bool.or_eq_true, beq_iff_eq, beq_iff_eq] at h
  rcases h with (hdigit | rfl) | rfl
  · obtain ⟨d, hd, rfl⟩ := exists_digitChar hdigit
    have hall : ∀ d < 10, isBlank (Nat.digitChar d) = false := by decide
    exact hall d hd
  · decide
  · decide

/-- A decimal text between blanks is read as what it stands for. -/
theorem readInt64?_between {cs front back : List Char} {n : Int} (h : IsSignedNumeral cs n)
    (hfront : ∀ c ∈ front, isBlank c = true) (hback : ∀ c ∈ back, isBlank c = true) :
    readInt64? (trim (front ++ cs ++ back)) = int64OfInt? n := by
  have hbare : Bare isBlank cs :=
    bare_of_forall fun c hc => not_isBlank_of_isNumeralChar (h.forall_isNumeralChar c hc)
  rw [trim, strip_surrounded hfront hback hbare]
  exact readInt64?_of_isSignedNumeral h

/-! ### The text of a floating-point number -/

/-- The character spoils a decimal text wherever it stands. -/
structure IsMark (c : Char) : Prop where
  not_blank : isBlank c = false
  not_numeral : isNumeralChar c = false

/-- A text with such a character is not read as an integer. -/
theorem readInt64?_trim_of_isMark {cs : List Char} {c : Char} (hc : c ∈ cs) (h : IsMark c) :
    readInt64? (trim cs) = none := by
  cases hread : readInt64? (trim cs) with
  | none => rfl
  | some w =>
    have hnumeral := isSignedNumeral_of_readInt64? hread
    have hmark := h.not_numeral
    rw [hnumeral.forall_isNumeralChar c (mem_trim hc h.not_blank)] at hmark
    cases hmark

theorem mem_positional (digits : List Char) (point : Int) :
    '.' ∈ positional true digits point := by
  rw [positional]
  split
  · simp
  · split <;> simp

theorem mem_scientific (plusSign : Bool) (digits : List Char) (point : Int) :
    'e' ∈ scientific plusSign digits point := by
  simp [scientific]

theorem mem_withSign {c : Char} {text : List Char} (negative : Bool) (h : c ∈ text) :
    c ∈ withSign negative text := by
  cases negative with
  | false => exact h
  | true => exact List.mem_cons_of_mem _ h

namespace Number

/-- A magnitude is written with a point or with an exponent. -/
theorem mem_magnitude (m : Binary) : '.' ∈ layout.magnitude m ∨ 'e' ∈ layout.magnitude m := by
  rw [Layout.magnitude]
  split
  · exact .inl (by decide)
  · rw [Layout.decimal]
    split
    · exact .inl (mem_positional _ _)
    · exact .inr (mem_scientific _ _ _)

/-- **The text of a floating-point number is no decimal text**, even when the number is integral. -/
theorem exists_mark_floatText (x : Float) : ∃ c ∈ floatText x, IsMark c := by
  rw [floatText]
  split
  · next negative m _ =>
    rcases mem_magnitude m with hpoint | hexponent
    · exact ⟨'.', mem_withSign negative hpoint, by decide, by decide⟩
    · exact ⟨'e', mem_withSign negative hexponent, by decide, by decide⟩
  · -- What is not finite is written as `null`.
    exact ⟨'n', by decide, by decide, by decide⟩

end Number

/-! ### Values and columns -/

namespace Json

/-- **The text of a number is read as the number is**, whatever blanks stand around it. -/
theorem asInt64?_between (x : Number) {before behind : String} (hbefore : isBlankText before = true)
    (hbehind : isBlankText behind = true) :
    (Json.string (before ++ String.ofList x.text ++ behind)).asInt64? =
      (Json.number x).asInt64? := by
  have hfront := List.all_eq_true.mp hbefore
  have hback := List.all_eq_true.mp hbehind
  rw [asInt64?, String.toList_append, String.toList_append, String.toList_ofList]
  cases x with
  | int n inRange => exact readInt64?_between (isSignedNumeral_signedDigits n) hfront hback
  | float x isFinite =>
    obtain ⟨c, hc, hmark⟩ := Number.exists_mark_floatText x
    have hmem := List.mem_append_left behind.toList (List.mem_append_right before.toList hc)
    exact readInt64?_trim_of_isMark hmem hmark

/-- A number is read as an integer when it is one in the range of a signed word. -/
theorem asInt64?_number_eq_some_iff {x : Number} {w : Int64} :
    (Json.number x).asInt64? = some w ↔ ∃ inRange, x = .int w.toInt inRange := by
  rw [asInt64?_eq_some_iff]
  constructor
  · intro h
    -- The relation is split at a variable, not at a function of the word.
    generalize hn : w.toInt = n at h
    cases h with
    | @number n inRange fits => exact ⟨inRange, rfl⟩
  · rintro ⟨inRange, rfl⟩
    exact .number (fitsInt64_toInt w)

/-- The second value stands for the first one: it is the same, or the text of a number between
    blanks. -/
inductive Restates : Json → Json → Prop where
  | same (v : Json) : Restates v v
  | text {x : Number} {s before behind : String} (shown : (Json.number x).asText? = some s)
      (blankBefore : isBlankText before = true) (blankBehind : isBlankText behind = true) :
      Restates (.number x) (.string (before ++ s ++ behind))

/-- A value and what stands for it are read as the same integer. -/
theorem Restates.asInt64?_eq {v v' : Json} (h : Restates v v') : v'.asInt64? = v.asInt64? := by
  cases h with
  | same => rfl
  | text shown blankBefore blankBehind =>
    cases shown
    exact asInt64?_between _ blankBefore blankBehind

theorem filterMap_asInt64?_of_restates {items items' : List Json}
    (h : List.Forall₂ Restates items items') :
    items'.filterMap asInt64? = items.filterMap asInt64? := by
  induction h with
  | nil => rfl
  | cons hv _ ih => rw [List.filterMap_cons, List.filterMap_cons, hv.asInt64?_eq, ih]

end Json

namespace Record

theorem int?_of_get? {row : Record} {column : String} {v : Json}
    (h : Fields.get? row column = some v) : int? row column = v.asInt64? := by
  rw [int?, h, Option.bind_some]

theorem ints_of_get? {row : Record} {column : String} {items : List Json}
    (h : Fields.get? row column = some (.array items)) :
    ints row column = items.filterMap Json.asInt64? := by
  rw [ints, h]

/-- **Numbers and their texts are read alike.**  A column that holds a number is read as an integer
    exactly when the number is one in the range of a signed word, and a column that holds the text
    of the number between blanks is read in the same way.  A list of integers stays the same when
    any of its numbers are given as text. -/
theorem numbers_read_alike (row row' : Record) (column : String) :
    (∀ x, Fields.get? row column = some (.number x) →
      (∀ w, int? row column = some w ↔ ∃ inRange, x = .int w.toInt inRange) ∧
      ∃ s, text? row column = some s ∧
        ∀ before behind, isBlankText before = true → isBlankText behind = true →
          Fields.get? row' column = some (.string (before ++ s ++ behind)) →
          int? row' column = int? row column) ∧
    ∀ items items', Fields.get? row column = some (.array items) →
      Fields.get? row' column = some (.array items') → List.Forall₂ Json.Restates items items' →
      ints row' column = ints row column := by
  constructor
  · intro x hx
    have hread := int?_of_get? hx
    refine ⟨fun w => ?_, String.ofList x.text, ?_, ?_⟩
    · rw [hread]
      exact Json.asInt64?_number_eq_some_iff
    · rw [text?, hx]
      rfl
    · intro before behind hbefore hbehind htext
      rw [hread, int?_of_get? htext, Json.asInt64?_between x hbefore hbehind]
  · intro items items' hitems hitems' hrestated
    rw [ints_of_get? hitems, ints_of_get? hitems', Json.filterMap_asInt64?_of_restates hrestated]

/-- The least integer between blanks, and the least one that is out of range in a list. -/
theorem numbers_read_alike_bounds :
    int? [("id", .string (" " ++ "-9223372036854775808" ++ "\n"))] "id" =
        int? [("id", .ofInt64 Int64.minValue)] "id" ∧
      ints [("ids", .array [.string ("" ++ "9223372036854775808" ++ " "), .ofInt64 7])] "ids" =
        ints [("ids", .array [.ofUInt64 0x8000000000000000, .ofInt64 7])] "ids" := by
  constructor
  · have hshown : text? [("id", .ofInt64 Int64.minValue)] "id" = some "-9223372036854775808" := by
      decide +kernel
    obtain ⟨-, s, hs, hread⟩ := (numbers_read_alike [("id", .ofInt64 Int64.minValue)]
      [("id", .string (" " ++ "-9223372036854775808" ++ "\n"))] "id").1 (.ofInt64 Int64.minValue)
      List.lookup_cons_self
    -- The text of the column is the one that the theorem speaks of.
    obtain rfl : "-9223372036854775808" = s := Option.some.inj (hshown.symm.trans hs)
    exact hread " " "\n" (by decide) (by decide) List.lookup_cons_self
  · have hshown : (Json.ofUInt64 0x8000000000000000).asText? = some "9223372036854775808" := by
      decide +kernel
    have hrestated : List.Forall₂ Json.Restates [.ofUInt64 0x8000000000000000, .ofInt64 7]
        [.string ("" ++ "9223372036854775808" ++ " "), .ofInt64 7] :=
      .cons (.text hshown (by decide) (by decide)) (.cons (.same _) .nil)
    exact (numbers_read_alike _ _ "ids").2 _ _ List.lookup_cons_self List.lookup_cons_self hrestated

end Record

end TaintReview
