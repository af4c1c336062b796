import TaintReview.Decimal.Shortest

namespace TaintReview.Decimal

/-!
# How numbers are written and read

A layout decides where positional notation ends and how exponents look.  The digits of a
floating-point number are always the shortest that read back; a fixed number of places is
rounded from the exact value.  A decimal is read exactly and rounded once, to the nearest
double-precision number and from halfway to the even one.
-/

/-- The decisions of a number format.  A decimal is written positionally when its point,
    counted from the left of its digits, lies above `leastPoint` and at most at
    `greatestPoint`. -/
structure Layout where
  leastPoint : Int
  greatestPoint : Int
  plusSign : Bool
  pointZero : Bool
  tie : Tie

/-- The decimal digits of a number. -/
def digitsOf (n : Nat) : List Char := Nat.toDigits 10 n

/-- The given number of zeros. -/
def zeros (n : Nat) : List Char := List.replicate n '0'

/-- Positional notation of `digits` with the point `point` places from their left. -/
def positional (pointZero : Bool) (digits : List Char) (point : Int) : List Char :=
  if point ≤ 0 then '0' :: '.' :: zeros (-point).toNat ++ digits
  else if digits.length ≤ point.toNat then
    digits ++ zeros (point.toNat - digits.length) ++ (if pointZero then ['.', '0'] else [])
  else digits.take point.toNat ++ '.' :: digits.drop point.toNat

/-- The digits of an integer with a minus sign when it is negative. -/
def signedDigits (n : Int) : List Char :=
  if n < 0 then '-' :: digitsOf n.natAbs else digitsOf n.natAbs

/-- Scientific notation of `digits` with the point `point` places from their left. -/
def scientific (plusSign : Bool) (digits : List Char) (point : Int) : List Char :=
  let e := point - 1
  let mantissa :=
    match digits with
    | [] => []
    | [d] => [d]
    | d :: ds => d :: '.' :: ds
  mantissa ++ 'e' :: ((if plusSign && 0 ≤ e then ['+'] else []) ++ signedDigits e)

/-- A decimal in the given layout. -/
def Layout.decimal (l : Layout) (d : Numeral) : List Char :=
  let digits := digitsOf d.digits
  let point := digits.length + d.exponent
  if l.leastPoint < point && point ≤ l.greatestPoint then positional l.pointZero digits point
  else scientific l.plusSign digits point

/-- Put a minus sign in front of a text. -/
def withSign (negative : Bool) (text : List Char) : List Char :=
  if negative then '-' :: text else text

/-- A finite magnitude in the given layout. -/
def Layout.magnitude (l : Layout) (x : Binary) : List Char :=
  if x.mantissa = 0 then (if l.pointZero then ['0', '.', '0'] else ['0'])
  else l.decimal (x.shortest l.tie)

/-- The texts of the values that are no numbers. -/
structure Specials where
  nan : String
  infinity : String

/-- A floating-point number, with the given text of its magnitude. -/
def Reading.render (special : Specials) (magnitude : Binary → List Char) : Reading → String
  | .nan => special.nan
  | .infinite negative => String.ofList (withSign negative special.infinity.toList)
  | .finite negative x => String.ofList (withSign negative (magnitude x))

/-- A floating-point number in the given layout. -/
def Layout.render (l : Layout) (special : Specials) (x : Reading) : String :=
  x.render special l.magnitude

/-! ### Numbers in prose -/

/-- The texts in prose of the values that are no numbers. -/
def proseSpecials : Specials := ⟨"NaN", "inf"⟩

/-- Prose writes every magnitude positionally and an integral one without a point. -/
def proseMagnitude (x : Binary) : List Char :=
  if x.mantissa = 0 then ['0']
  else
    let d := x.shortest .up
    let digits := digitsOf d.digits
    positional false digits (digits.length + d.exponent)

/-- A number in prose. -/
def prose (x : Reading) : String := x.render proseSpecials proseMagnitude

/-! ### A fixed number of places -/

/-- The quotient rounded to the nearest integer, a half to the even one. -/
def roundHalfEven (a b : Nat) : Nat :=
  let q := a / b
  match compare (2 * (a % b)) b with
  | .lt => q
  | .gt => q + 1
  | .eq => if q % 2 == 0 then q else q + 1

/-- A magnitude with `places` digits after the point. -/
def fixedMagnitude (places : Nat) (x : Binary) : List Char :=
  let scaled := dyadic (x.mantissa * Nat.pow 10 places) x.exponent
  let n := roundHalfEven scaled.1 scaled.2
  let part := digitsOf (n % Nat.pow 10 places)
  let fraction := zeros (places - part.length) ++ part
  digitsOf (n / Nat.pow 10 places) ++ '.' :: fraction

/-- The number with `places` digits after the point. -/
def fixed (places : Nat) (x : Reading) : String := x.render proseSpecials (fixedMagnitude places)

/-! ### The floating-point number next to a decimal -/

/-- Numerator and denominator of `n / d / 2 ^ e`. -/
def inUnitsOf (n d : Nat) (e : Int) : Nat × Nat :=
  if 0 ≤ e then (n, d * Nat.pow 2 e.toNat) else (n * Nat.pow 2 (-e).toNat, d)

/-- The exponent of the last place of a quotient in a format of 53 bits, whose smallest one
    is `-1074`. -/
def lastPlace (n d : Nat) : Int :=
  let e : Int := (n.log2 : Int) - d.log2 - 52
  let (a, b) := inUnitsOf n d e
  max (-1074) (if a / b < 0x10000000000000 then e - 1 else e)

/-- The double-precision number next to `n / d`; infinite beyond the largest one. -/
def nearestFloat (n d : Nat) : Float :=
  if n = 0 then 0
  else
    let e := lastPlace n d
    let (a, b) := inUnitsOf n d e
    let q := roundHalfEven a b
    -- Below `2 ^ 52` the number is subnormal; a carry out of the fraction raises the exponent.
    let bits := if q < 0x10000000000000 then q else (e + 1074).toNat * 0x10000000000000 + q
    Float.ofBits (if 0x7ff0000000000000 ≤ bits then 0x7ff0000000000000 else bits.toUInt64)

/-- The double-precision number next to `m · 10 ^ e`.  Exponents that put the value beyond
    all doubt, given the digits of `m`, are not raised to. -/
def ofDecimal (m : Nat) (e : Int) : Float :=
  let point := (digitsOf m).length + e
  if m = 0 || point < -400 then 0
  else if 400 < point then 1 / 0
  else if 0 ≤ e then nearestFloat (m * Nat.pow 10 e.toNat) 1
  else nearestFloat m (Nat.pow 10 (-e).toNat)

end TaintReview.Decimal
