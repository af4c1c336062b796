namespace TaintReview.Decimal

/-!
# The value of a floating-point number

A finite floating-point number is an integer times a power of two.  The texts below are
computed from these two integers, so that nothing about them is left to rounding.
-/

/-- The magnitude `mantissa · 2 ^ exponent` of a finite number.  `narrowBelow` says that the
    next smaller number of the format is only half as far away as the next larger one. -/
structure Binary where
  mantissa : Nat
  exponent : Int
  narrowBelow : Bool
deriving DecidableEq, Repr

/-- What a floating-point number stands for. -/
inductive Reading where
  | nan
  | infinite (negative : Bool)
  | finite (negative : Bool) (magnitude : Binary)
deriving DecidableEq, Repr

/-- Read the bits of a format with the given widths of fraction and exponent. -/
def Reading.ofBits (fractionWidth exponentWidth bits : Nat) : Reading :=
  -- One past the largest fraction and one past the largest exponent.
  let fractions := Nat.pow 2 fractionWidth
  let exponents := Nat.pow 2 exponentWidth
  let fraction := bits % fractions
  let biased := bits / fractions % exponents
  let negative := bits / (fractions * exponents) % 2 == 1
  -- The exponent of the smallest numbers, in units of the last fraction bit.
  let least : Int := 2 - (exponents / 2 : Nat) - fractionWidth
  if biased = exponents - 1 then
    if fraction = 0 then .infinite negative else .nan
  else if biased = 0 then .finite negative ⟨fraction, least, false⟩
  else
    .finite negative
      ⟨fractions + fraction, least + (biased - 1 : Nat), fraction = 0 && 1 < biased⟩

/-- What a double-precision number stands for. -/
def Reading.ofFloat (x : Float) : Reading := Reading.ofBits 52 11 x.toBits.toNat

/-- What a single-precision number stands for. -/
def Reading.ofFloat32 (x : Float32) : Reading := Reading.ofBits 23 8 x.toBits.toNat

/-- Numerator and denominator of `n · 2 ^ e`. -/
def dyadic (n : Nat) (e : Int) : Nat × Nat :=
  if 0 ≤ e then (n * Nat.pow 2 e.toNat, 1) else (n, Nat.pow 2 (-e).toNat)

end TaintReview.Decimal
