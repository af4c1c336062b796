import TaintReview.Json.Written

namespace TaintReview.Json

/-!
# Reading JSON

The values of the parts of a JSON text.  An integer that fits no machine word becomes a
floating-point number, as `-0` does; a number beyond the floating-point range and half of a
surrogate pair have no value.  Containers nest at most 127 deep, and of two members with one
key the later counts.
-/

/-! ### Numbers -/

/-- The largest unsigned word. -/
def maxWord : Nat := 0xffffffffffffffff

/-- Append digits to a number while it stays an unsigned word; the digits left over come
    back. -/
def appendDigits (n : Nat) : List Nat → Nat × List Nat
  | [] => (n, [])
  | d :: ds => if n * 10 + d ≤ maxWord then appendDigits (n * 10 + d) ds else (n, d :: ds)

/-- The floating-point number next to `10 ^ k`. -/
def powerOfTen (k : Nat) : Float := Float.ofScientific 1 false k

/-- Divide by `10 ^ k`, in steps that stay within the floating-point range.  Three steps
    bring every word to zero. -/
def divideByPower : Nat → Float → Nat → Float
  | 0, x, k => x / powerOfTen k
  | steps + 1, x, k =>
    if k ≤ 308 then x / powerOfTen k
    else if x == 0 then x
    else divideByPower steps (x / powerOfTen 308) (k - 308)

/-- The floating-point number of a word times a power of ten: one rounding for the word and
    one for each step of scaling. -/
def scaled? (n : Nat) (e : Int) : Option Float :=
  let x := Float.ofNat n
  if e < 0 then
    some (if 1540 < e.natAbs then 0 else divideByPower 4 x e.natAbs)
  else if e ≤ 308 then
    let y := x * powerOfTen e.toNat
    if y.isFinite then some y else none
  else if n = 0 then some x
  else none

/-- The number of a list of decimal digits. -/
def ofDigits (ds : List Nat) : Nat := ds.foldl (fun n d => n * 10 + d) 0

/-- The largest exponent that is read as a number. -/
def maxExponent : Nat := 0x7fffffff

/-- The magnitude of a number that is not written as an integer. -/
def NumberText.magnitude? (t : NumberText) : Option Float :=
  let (n, dropped) := appendDigits 0 t.integer
  let (m, lost) := appendDigits n t.fraction
  let start : Int := dropped.length - (t.fraction.length - lost.length : Nat)
  match t.exponent with
  | none => scaled? m start
  | some (negative, ds) =>
    let e := ofDigits ds
    if maxExponent < e then (if m = 0 || negative then some 0 else none)
    else scaled? m (if negative then start - e else start + e)

/-- Is the number written without fraction and exponent? -/
def NumberText.isIntegral (t : NumberText) : Bool := t.fraction.isEmpty && t.exponent.isNone

/-- The value of a number. -/
def NumberText.value? (t : NumberText) : Option Number :=
  let n := ofDigits t.integer
  let asInteger : Option Number :=
    if !t.isIntegral then none
    else if t.negative then (if 0 < n && n ≤ 0x8000000000000000 then Number.ofInt? (-n) else none)
    else Number.ofInt? n
  match asInteger with
  | some k => some k
  | none => do
    let x ← t.magnitude?
    Number.ofFloat? (if t.negative then -x else x)

/-! ### Strings -/

/-- The characters of a string; none when half of a surrogate pair stands alone. -/
def pieceChars? : List Piece → Option (List Char)
  | [] => some []
  | .char c :: rest => (c :: ·) <$> pieceChars? rest
  | .bits n :: rest =>
    if n < 0xd800 || 0xdfff < n then (Char.ofNat n :: ·) <$> pieceChars? rest
    else if n < 0xdc00 then
      match rest with
      | .bits m :: rest =>
        if 0xdc00 ≤ m && m ≤ 0xdfff then
          (Char.ofNat (0x10000 + (n - 0xd800) * 0x400 + (m - 0xdc00)) :: ·) <$> pieceChars? rest
        else none
      | _ => none
    else none

/-- The text of a string. -/
def pieceText? (ps : List Piece) : Option String := String.ofList <$> pieceChars? ps

/-! ### Values -/

/-- How deep containers may nest, and one more. -/
def maxDepth : Nat := 128

mutual

/-- The value of a tree, with less than `depth` containers inside one another. -/
def Written.value? : Nat → Written → Option Json
  | _, .null => some .null
  | _, .bool b => some (.bool b)
  | _, .number n => Json.number <$> n.value?
  | _, .string ps => Json.string <$> pieceText? ps
  | depth, .array items =>
    if depth ≤ 1 then none else Json.array <$> itemValues? (depth - 1) items
  | depth, .object members =>
    if depth ≤ 1 then none
    else (fun ms => Json.object (Fields.ofList ms)) <$> memberValues? (depth - 1) members

/-- The values of the items of an array. -/
def itemValues? : Nat → List Written → Option (List Json)
  | _, [] => some []
  | depth, v :: rest => do
    let v ← v.value? depth
    let vs ← itemValues? depth rest
    pure (v :: vs)

/-- The members of an object with their values, as they stand. -/
def memberValues? : Nat → List (List Piece × Written) → Option (List (String × Json))
  | _, [] => some []
  | depth, (k, v) :: rest => do
    let k ← pieceText? k
    let v ← v.value? depth
    let ms ← memberValues? depth rest
    pure ((k, v) :: ms)

end

/-- The value of a JSON text. -/
def parse? (s : String) : Option Json := do
  let w ← Written.parse? s
  w.value? maxDepth

end TaintReview.Json
