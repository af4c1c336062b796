import TaintReview.Decimal.Binary

namespace TaintReview.Decimal

/-!
# The shortest decimal that reads back

Among the decimals that round to a given number, the search takes one with the fewest
digits, and of those the nearest.  For one digit, two digits and so on it looks at the two
neighbours of the number on that decimal grid.
-/

/-- Which of two equally near neighbours is taken. -/
inductive Tie where
  | toEven
  | up
deriving DecidableEq, Repr

/-- The decimal `digits · 10 ^ exponent`. -/
structure Numeral where
  digits : Nat
  exponent : Int
deriving DecidableEq, Repr

/-- How many decimal digits a number is written with. -/
def digitCount (n : Nat) : Nat := (Nat.toDigits 10 n).length

/-- The power of ten right above the positive quotient `a / b`. -/
def magnitudeOf (a b : Nat) : Int :=
  if b ≤ a then digitCount (a / b) else 1 - digitCount ((b - 1) / a)

/-- The interval of the reals that round to a number: its ends and the number itself, all
    over one denominator.  The ends belong to it when `closed`. -/
structure Rounding where
  low : Nat
  mid : Nat
  high : Nat
  denominator : Nat
  closed : Bool
deriving DecidableEq, Repr

/-- The reals that round to the number, to nearest with ties to the even mantissa. -/
def Binary.rounding (x : Binary) : Rounding :=
  let scale := dyadic 1 (x.exponent - 2)
  { low := (4 * x.mantissa - (if x.narrowBelow then 1 else 2)) * scale.1
    mid := 4 * x.mantissa * scale.1
    high := (4 * x.mantissa + 2) * scale.1
    denominator := scale.2
    closed := x.mantissa % 2 == 0 }

/-- The interval measured in units of `10 ^ k`. -/
def Rounding.inUnits (r : Rounding) (k : Int) : Rounding :=
  if 0 ≤ k then { r with denominator := r.denominator * Nat.pow 10 k.toNat }
  else
    let s := Nat.pow 10 (-k).toNat
    { r with low := r.low * s, mid := r.mid * s, high := r.high * s }

/-- Does the integer lie in the interval? -/
def Rounding.has (r : Rounding) (d : Nat) : Bool :=
  let n := d * r.denominator
  if r.closed then r.low ≤ n && n ≤ r.high else r.low < n && n < r.high

/-- The integer of the interval that is nearest to its number, if one of the number's two
    neighbours lies in the interval. -/
def Rounding.nearest? (r : Rounding) (tie : Tie) : Option Nat :=
  let d := r.mid / r.denominator
  match r.has d, r.has (d + 1) with
  | false, false => none
  | true, false => some d
  | false, true => some (d + 1)
  | true, true =>
    match compare (2 * r.mid) ((2 * d + 1) * r.denominator), tie with
    | .lt, _ => some d
    | .gt, _ => some (d + 1)
    | .eq, .up => some (d + 1)
    | .eq, .toEven => some (if d % 2 == 0 then d else d + 1)

/-- Move the zeros at the end of the digits into the exponent, at most `fuel` of them. -/
def Numeral.stripZeros : Nat → Numeral → Numeral
  | 0, d => d
  | fuel + 1, d =>
    if d.digits % 10 = 0 then stripZeros fuel ⟨d.digits / 10, d.exponent + 1⟩ else d

/-- Look for a decimal with `count`, `count + 1`, … digits, on at most `fuel` grids.  The
    last resort is the integer part on the finest grid, which is never needed once the
    grids reach the digits that tell all numbers of the format apart. -/
def searchFrom (r : Rounding) (tie : Tie) (top : Int) : Nat → Nat → Numeral
  | 0, count =>
    let r' := r.inUnits (top - count)
    ⟨r'.mid / r'.denominator, top - count⟩
  | fuel + 1, count =>
    match (r.inUnits (top - count)).nearest? tie with
    | some d => Numeral.stripZeros (count + 1) ⟨d, top - count⟩
    | none => searchFrom r tie top fuel (count + 1)

/-- The shortest decimal that reads back as the positive number `x`. -/
def Binary.shortest (x : Binary) (tie : Tie) : Numeral :=
  let r := x.rounding
  searchFrom r tie (magnitudeOf r.mid r.denominator) 17 1

end TaintReview.Decimal
