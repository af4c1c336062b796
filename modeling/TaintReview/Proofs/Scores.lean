import TaintReview.Endpoint

namespace TaintReview

open Float.Model Float.Model.UnpackedFloat

/-!
# Scores

A score is a number from 0 to 1.  Comparing floating-point numbers is not a total order, since what
is no number compares with nothing; among numbers it is one, and that is why clamping gives a score.

* `Score.le_of_not_lt` — of two numbers the one that is not less is at least the other;
* `isScore_clampConfidence` — whatever is clamped becomes a score;
* `Number.isNaN_toFloat` — every number of a document is one.
-/

/-- The number lies from 0 to 1. -/
def IsScore (x : Float) : Prop := x.isNaN = false ∧ 0 ≤ x ∧ x ≤ 1

instance (x : Float) : Decidable (IsScore x) :=
  inferInstanceAs (Decidable (x.isNaN = false ∧ 0 ≤ x ∧ x ≤ 1))

/-! ### The order of numbers -/

namespace Score

/-- Comparing the other way round swaps the outcome. -/
theorem compare_swap (a b : UnpackedFloat) : b.compare a = (a.compare b).map Ordering.swap := by
  have hsame : ∀ (m n : Nat) (d e : Int),
      (compare e d).then (compare n m) = ((compare d e).then (compare m n)).swap := by
    intro m n d e
    rw [Ordering.swap_then, Int.compare_swap, Nat.compare_swap]
  -- Only two finite numbers of one sign are compared by their digits.
  rcases a with (_ | _) | _ | _ | ⟨_ | _, m, d, _⟩ <;>
    rcases b with (_ | _) | _ | _ | ⟨_ | _, n, e, _⟩ <;>
    first
    | rfl
    | exact congrArg some (hsame m n d e)
    | exact congrArg (some ∘ Ordering.swap) (hsame m n d e)

/-- Any two numbers can be compared. -/
theorem exists_compare {a b : UnpackedFloat} (ha : a.isNaN = false) (hb : b.isNaN = false) :
    ∃ o, a.compare b = some o := by
  rcases a with (_ | _) | _ | _ | ⟨_ | _, _⟩ <;> rcases b with (_ | _) | _ | _ | ⟨_ | _, _⟩ <;>
    first
    | exact ⟨_, rfl⟩
    | exact absurd ha (by decide)
    | exact absurd hb (by decide)

theorem lt_iff {x y : Float} : x < y ↔ x.toModel.unpack.compare y.toModel.unpack = some .lt := by
  show decide (x.toModel < y.toModel) = true ↔ _
  rw [decide_eq_true_iff]
  show (x.toModel.unpack.compare y.toModel.unpack == some .lt) = true ↔ _
  exact beq_iff_eq

theorem le_iff {x y : Float} :
    x ≤ y ↔ (x.toModel.unpack.compare y.toModel.unpack).any (·.isLE) = true := by
  show decide (x.toModel ≤ y.toModel) = true ↔ _
  exact decide_eq_true_iff

/-- Of two numbers the one that is not less is at least the other. -/
theorem le_of_not_lt {x y : Float} (hx : x.isNaN = false) (hy : y.isNaN = false) (h : ¬ x < y) :
    y ≤ x := by
  obtain ⟨o, ho⟩ := exists_compare hx hy
  rw [le_iff, compare_swap, ho]
  have hne : o ≠ .lt := fun ho' => h (lt_iff.mpr (ho.trans (congrArg some ho')))
  cases o with
  | lt => exact absurd rfl hne
  | eq => rfl
  | gt => rfl

end Score

/-- **Clamping gives scores.**  Whatever comes in, be it no number or beyond all bounds, a score
    comes out. -/
theorem isScore_clampConfidence (x : Float) : IsScore (clampConfidence x) := by
  have hzero : IsScore 0 := by decide
  have hone : IsScore 1 := by decide
  rw [clampConfidence]
  by_cases hnan : x.isNaN = true
  · rwa [if_pos hnan]
  have hx : x.isNaN = false := Bool.eq_false_iff.mpr hnan
  rw [if_neg hnan]
  by_cases hlow : x < 0
  · rwa [if_pos hlow]
  rw [if_neg hlow]
  by_cases hhigh : 1 < x
  · rwa [if_pos hhigh]
  rw [if_neg hhigh]
  -- What is neither below 0 nor above 1 lies between them, since it is a number.
  exact ⟨hx, Score.le_of_not_lt hx hzero.1 hlow, Score.le_of_not_lt hone.1 hx hhigh⟩

/-! ### Numbers of documents -/

/-- The number in floating point. -/
def Number.toFloat : Number → Float
  | .int n _ => Float.ofInt n
  | .float x _ => x

namespace Score

/-- A choice between numbers is a number. -/
theorem isNaN_ite {p : Prop} [Decidable p] {u v : UnpackedFloat} (hu : p → u.isNaN = false)
    (hv : ¬ p → v.isNaN = false) : (if p then u else v).isNaN = false := by
  by_cases h : p
  · rw [if_pos h]
    exact hu h
  · rw [if_neg h]
    exact hv h

theorem isNaN_dite {p : Prop} [Decidable p] {u : p → UnpackedFloat} {v : ¬ p → UnpackedFloat}
    (hu : ∀ h, (u h).isNaN = false) (hv : ∀ h, (v h).isNaN = false) :
    (if h : p then u h else v h).isNaN = false := by
  by_cases h : p
  · rw [dif_pos h]
    exact hu h
  · rw [dif_neg h]
    exact hv h

/-- Bits are those of a number unless the greatest exponent has a mantissa. -/
theorem isNaN_unpack {spec : Format} {b : BitVec spec.numBits}
    (h : unpackExponent b = -1#_ → unpackMantissa b = 0#_) :
    (UnpackedFloat.unpack spec b).isNaN = false := by
  -- The greatest exponent stands for infinity or for no number, all others for finite numbers.
  refine isNaN_ite (fun hexp => ?special) fun _ => ?finite
  case special => exact isNaN_ite (fun _ => rfl) fun hmantissa => absurd (h hexp) hmantissa
  case finite => exact isNaN_ite (fun _ => isNaN_dite (fun _ => rfl) fun _ => rfl) fun _ => rfl

/-- Packing makes a number of a number, if only an infinite one. -/
theorem isNaN_pack {u : UnpackedFloat} (h : u.isNaN = false) :
    (Float.ofModel (pack u)).isNaN = false := by
  have hbits : unpackExponent (UnpackedFloat.pack Format.binary64 u) = -1#_ →
      unpackMantissa (UnpackedFloat.pack Format.binary64 u) = 0#_ := by
    fun_cases UnpackedFloat.pack Format.binary64 u with
    | case1 => exact absurd h (by decide)
    | case2 s => exact fun _ => unpackMantissa_packComponents
    | case3 s => exact fun _ => unpackMantissa_packComponents
    | case4 s m e hm biased hbig => exact fun _ => unpackMantissa_packComponents
    | case5 s m e hm bits biased hsmall hnormal =>
      -- The greatest exponent is kept for what is not finite.
      intro hexp
      have htop : biased % 2048 = 2047 := by
        rw [unpackExponent_packComponents] at hexp
        exact congrArg BitVec.toNat hexp
      have hlt : ¬ 2048 ≤ biased + 1 := hsmall
      omega
    | case6 s m e hm bits biased hsmall hnormal =>
      intro hexp
      rw [unpackExponent_packComponents] at hexp
      exact absurd hexp (by decide)
  exact isNaN_unpack hbits

theorem isNaN_of_isFinite {u : UnpackedFloat} (h : u.isFinite = true) : u.isNaN = false := by
  cases u with
  | notANumber => exact absurd h (by decide)
  | infinity | zero | finite => rfl

theorem isNaN_neg (u : UnpackedFloat) : u.neg.isNaN = u.isNaN := by
  cases u <;> rfl

/-- What is rounded is a number. -/
theorem isNaN_roundWithAccuracy (spec : Format) (s : Sign) (m : Nat) (e : Int) (a : Accuracy) :
    (roundWithAccuracy spec s m e a).isNaN = false :=
  isNaN_dite (fun _ => rfl) fun _ => rfl

/-- Multiplied by a finite number other than zero, a number stays one. -/
theorem isNaN_mul_finite (spec : Format) (u : UnpackedFloat) (s : Sign) (m : Nat) (e : Int)
    (hm : 0 < m) : (UnpackedFloat.mul spec u (.finite s m e hm)).isNaN = u.isNaN := by
  cases u with
  | notANumber | infinity | zero => rfl
  | finite => exact isNaN_roundWithAccuracy ..

theorem isNaN_ofInt (spec : Format) (n : Int) : (UnpackedFloat.ofInt spec n).isNaN = false := by
  unfold UnpackedFloat.ofInt UnpackedFloat.normalize
  split
  · exact isNaN_roundWithAccuracy ..
  · rfl
  · exact isNaN_roundWithAccuracy ..

theorem isNaN_ofScientific (spec : Format) (m : Nat) (e : Int) :
    (UnpackedFloat.ofScientific spec m e).isNaN = false := by
  refine isNaN_dite (fun _ => rfl) fun _ => ?_
  refine isNaN_ite (fun _ => rfl) fun _ => ?_
  refine isNaN_ite (fun _ => rfl) fun _ => ?_
  exact isNaN_ite (fun _ => isNaN_roundWithAccuracy ..) fun _ => isNaN_roundWithAccuracy ..

/-- Small numbers are converted as words and multiplied by the power of ten, here `1`. -/
theorem isNaN_ofNat (n : Nat) : (Float.ofNat n).isNaN = false := by
  show (Float.ofScientific n false 0).isNaN = false
  rw [Float.ofScientific]
  split
  · have hword : n.toUInt64.toFloat.isNaN = false := isNaN_pack (isNaN_ofInt _ _)
    -- The power of ten is given by its bits.
    have hone : (Float.ofBits 0x3FF0000000000000).toModel.unpack =
        .finite .positive (2 ^ 52) (-52) (by decide) := rfl
    have hproduct := (isNaN_mul_finite Format.binary64 n.toUInt64.toFloat.toModel.unpack .positive
      (2 ^ 52) (-52) (by decide)).trans hword
    rw [← hone] at hproduct
    exact isNaN_pack hproduct
  · exact isNaN_pack (isNaN_ofScientific _ n 0)

end Score

/-- Every number of a document is one. -/
theorem Number.isNaN_toFloat (n : Number) : n.toFloat.isNaN = false := by
  cases n with
  | int n _ =>
    cases n with
    | ofNat n => exact Score.isNaN_ofNat n
    | negSucc n =>
      have hpos : (Float.ofNat n.succ).isNaN = false := Score.isNaN_ofNat n.succ
      exact Score.isNaN_pack ((Score.isNaN_neg (Float.ofNat n.succ).toModel.unpack).trans hpos)
  | float x h => exact Score.isNaN_of_isFinite h

end TaintReview
