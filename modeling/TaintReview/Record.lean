import TaintReview.Error
import TaintReview.Text.Basic

namespace TaintReview

open Text

/-!
# Rows of a query

A row is a list of named columns.  Graph stores are loose about the types of their columns,
so integers may come as text and texts as numbers.
-/

/-- A row: its columns by name. -/
abbrev Record := Fields

/-- The parameters of a statement. -/
abbrev Parameters := Fields

/-! ### Integers in text -/

/-- The value of a non-empty run of decimal digits. -/
def digitsValue? : List Char → Option Nat
  | [] => none
  | cs => if cs.all Char.isDigit then
      some (cs.foldl (fun n c => n * 10 + (c.toNat - '0'.toNat)) 0) else none

/-- The integer as a signed word, when it fits. -/
def int64OfInt? (n : Int) : Option Int64 :=
  if -0x8000000000000000 ≤ n ∧ n < 0x8000000000000000 then some (Int64.ofInt n) else none

/-- The signed word that a text of digits with an optional sign stands for. -/
def readInt64? : List Char → Option Int64
  | '+' :: ds => do int64OfInt? (← digitsValue? ds)
  | '-' :: ds => do int64OfInt? (-(← digitsValue? ds))
  | ds => do int64OfInt? (← digitsValue? ds)

/-- A value read as an integer: an integer number, or text that trims to one.  A
    floating-point number is never an integer. -/
def Json.asInt64? : Json → Option Int64
  | .number (.int n _) => int64OfInt? n
  | .string s => readInt64? (trim s.toList)
  | _ => none

/-- A value read as text: a string, or the text of a number or a truth value. -/
def Json.asText? : Json → Option String
  | .string s => some s
  | .number n => some (String.ofList n.text)
  | .bool b => some (toString b)
  | _ => none

namespace Record

/-! ### Columns -/

/-- A column as an integer. -/
def int? (row : Record) (column : String) : Option Int64 :=
  (Fields.get? row column).bind Json.asInt64?

/-- A column as text. -/
def text? (row : Record) (column : String) : Option String :=
  (Fields.get? row column).bind Json.asText?

/-- A column as text, when that is not blank. -/
def nonBlank? (row : Record) (column : String) : Option String :=
  (text? row column).filter fun s => !isBlankText s

/-- The integers among the items of a column. -/
def ints (row : Record) (column : String) : List Int64 :=
  match Fields.get? row column with
  | some (.array items) => items.filterMap Json.asInt64?
  | _ => []

/-- A column that has to be an integer. -/
def requireInt (row : Record) (column : String) : Except ServiceError Int64 :=
  match int? row column with
  | some n => .ok n
  | none => .error (.invalidRecord column "an integer")

end Record

end TaintReview
