import TaintReview.Decimal.Layout

namespace TaintReview

open Decimal

/-!
# JSON values

The open values of the library: columns of a query's rows, properties of graph nodes and
the metadata that findings carry.  An object lists its members in increasing order of
their keys; `Fields.insert` keeps that order.
-/

/-- A number: an integer of one machine word, signed or unsigned, or a finite
    floating-point number. -/
inductive Number where
  | int (value : Int) (inRange : -0x8000000000000000 ≤ value ∧ value < 0x10000000000000000)
  | float (value : Float) (isFinite : value.isFinite = true)
deriving DecidableEq

/-- A JSON value. -/
inductive Json where
  | null
  | bool (value : Bool)
  | number (value : Number)
  | string (value : String)
  | array (items : List Json)
  | object (fields : List (String × Json))

instance : Inhabited Json := ⟨.null⟩

/-- The members of an object, in increasing order of their keys. -/
abbrev Fields := List (String × Json)

/-! ### Numbers -/

/-- The number of a signed word. -/
def Number.ofInt64 (n : Int64) : Number :=
  .int n.toInt ⟨by have := n.le_toInt; omega, by have := n.toInt_lt; omega⟩

/-- The number of an unsigned word. -/
def Number.ofUInt64 (n : UInt64) : Number :=
  .int n.toNat ⟨by omega, by have := n.toNat_lt; omega⟩

/-- The number of a half word. -/
def Number.ofUInt32 (n : UInt32) : Number :=
  .int n.toNat ⟨by omega, by have := n.toNat_lt; omega⟩

/-- The integer as a number, when it fits a machine word. -/
def Number.ofInt? (n : Int) : Option Number :=
  if h : -0x8000000000000000 ≤ n ∧ n < 0x10000000000000000 then some (.int n h) else none

/-- The floating-point number, when it is finite. -/
def Number.ofFloat? (x : Float) : Option Number :=
  if h : x.isFinite = true then some (.float x h) else none

/-- Numbers in documents: positional from `0.00001` up to below `10 ^ 16`, an integral
    floating-point number with `.0`, exponents always with a sign. -/
def Number.layout : Layout where
  leastPoint := -5
  greatestPoint := 16
  plusSign := true
  pointZero := true
  tie := .toEven

/-- The text of a floating-point number in a document. -/
def Number.floatText (x : Float) : List Char :=
  match Reading.ofFloat x with
  | .finite negative m => withSign negative (layout.magnitude m)
  | _ => "null".toList

/-- The text of a number in a document. -/
def Number.text : Number → List Char
  | .int n _ => signedDigits n
  | .float x _ => floatText x

/-! ### Building values -/

namespace Json

/-- A signed word. -/
def ofInt64 (n : Int64) : Json := .number (.ofInt64 n)

/-- An unsigned word. -/
def ofUInt64 (n : UInt64) : Json := .number (.ofUInt64 n)

/-- A half word. -/
def ofUInt32 (n : UInt32) : Json := .number (.ofUInt32 n)

/-- A count. -/
def ofNat (n : Nat) : Json := ofUInt64 n.toUInt64

/-- A floating-point number; what is not finite has no number and becomes `null`. -/
def ofFloat (x : Float) : Json :=
  match Number.ofFloat? x with
  | some n => .number n
  | none => .null

/-- A value that may be absent. -/
def ofOption {α : Type} (f : α → Json) : Option α → Json
  | none => .null
  | some a => f a

/-- A list of values. -/
def ofList {α : Type} (f : α → Json) (xs : List α) : Json := .array (xs.map f)

/-- The string, when the value is one. -/
def asString? : Json → Option String
  | .string s => some s
  | _ => none

/-! ### Equality -/

/-- Integers are equal as integers and floating-point numbers as such; an integer equals no
    floating-point number. -/
def sameNumber : Number → Number → Bool
  | .int a _, .int b _ => a == b
  | .float a _, .float b _ => a == b
  | _, _ => false

mutual

/-- Equality of values. -/
def same : Json → Json → Bool
  | .null, .null => true
  | .bool a, .bool b => a == b
  | .number a, .number b => sameNumber a b
  | .string a, .string b => a == b
  | .array a, .array b => sameItems a b
  | .object a, .object b => sameFields a b
  | _, _ => false

/-- Equality of the items of two arrays. -/
def sameItems : List Json → List Json → Bool
  | [], [] => true
  | a :: as, b :: bs => same a b && sameItems as bs
  | _, _ => false

/-- Equality of the members of two objects. -/
def sameFields : List (String × Json) → List (String × Json) → Bool
  | [], [] => true
  | (k, a) :: as, (l, b) :: bs => k == l && same a b && sameFields as bs
  | _, _ => false

end

end Json

/-! ### Members -/

namespace Fields

/-- The value of a member. -/
def get? (fields : Fields) (key : String) : Option Json := fields.lookup key

/-- Set a member, at its place in the order of the keys. -/
def insert (key : String) (value : Json) : Fields → Fields
  | [] => [(key, value)]
  | (k, v) :: rest =>
    if key < k then (key, value) :: (k, v) :: rest
    else if key = k then (key, value) :: rest
    else (k, v) :: insert key value rest

/-- Members given in any order; a later one replaces an earlier one of the same key. -/
def ofList (members : List (String × Json)) : Fields :=
  members.foldl (fun fields m => insert m.1 m.2 fields) []

end Fields

end TaintReview
