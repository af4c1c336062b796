import TaintReview.Yaml.Node
import TaintReview.Decimal.Layout

namespace TaintReview.Yaml

open Decimal

/-!
# Typed values of a document

What a node gives where a value of a certain kind is expected.  A plain scalar is read by its
text; a quoted one is a string only.  Where nothing is written a record has its defaults and
a list is empty.
-/

/-! ### Texts of scalars -/

/-- The tag of a kind of scalars. -/
def coreTag (kind : String) : List Char := ("tag:yaml.org,2002:" ++ kind).toList

/-- The truth value of a text. -/
def boolOf? (text : List Char) : Option Bool :=
  if ["true", "True", "TRUE"].contains (String.ofList text) then some true
  else if ["false", "False", "FALSE"].contains (String.ofList text) then some false
  else none

/-- Is it one of the texts for nothing, the empty one apart? -/
def isNullText (text : List Char) : Bool :=
  ["null", "Null", "NULL", "~"].contains (String.ofList text)

/-- The number of digits to a base of at most sixteen; there must be one. -/
def digitsIn? (base : Nat) (text : List Char) : Option Nat :=
  if text.isEmpty then none
  else text.foldlM (fun n c => do
    let d ← hexDigit? c
    if d < base then pure (n * base + d) else none) 0

/-- Drop a plus sign. -/
def withoutPlus : List Char → List Char
  | '+' :: rest => rest
  | text => text

/-- Does the text begin with a sign? -/
def isSigned (text : List Char) : Bool := text.head?.any fun c => c == '+' || c == '-'

/-- Digits that begin with a zero and are no number for that. -/
def isZeroPadded (text : List Char) : Bool :=
  match (if isSigned text then text.tail else text) with
  | '0' :: d :: rest => (d :: rest).all Char.isDigit
  | _ => false

/-- The base that a text's beginning gives, and the digits to it. -/
def basedDigits? : List Char → Option (Nat × List Char)
  | '0' :: 'x' :: rest => some (16, rest)
  | '0' :: 'o' :: rest => some (8, rest)
  | '0' :: 'b' :: rest => some (2, rest)
  | _ => none

/-- The number of a text without sign, in decimal digits or in those of another base. -/
def unsignedOf? (text : List Char) : Option Nat :=
  let digits := withoutPlus text
  match basedDigits? digits with
  | some (base, rest) => digitsIn? base rest
  | none => if isZeroPadded text then none else digitsIn? 10 digits

/-- Read `[digits][.digits][e[sign]digits]` with a digit before or behind the point, as
    `m · 10 ^ e`. -/
def decimalOf? (text : List Char) : Option (Nat × Int) := do
  let whole := text.takeWhile Char.isDigit
  let rest := text.drop whole.length
  let fraction := if rest.head? == some '.' then rest.tail.takeWhile Char.isDigit else []
  let rest := if rest.head? == some '.' then rest.drop (fraction.length + 1) else rest
  let m ← digitsIn? 10 (whole ++ fraction)
  match rest with
  | [] => pure (m, -fraction.length)
  | e :: rest =>
    if e != 'e' && e != 'E' then none
    else
      let n ← digitsIn? 10 (if isSigned rest then rest.tail else rest)
      pure (m, (if rest.head? == some '-' then -(n : Int) else n) - fraction.length)

/-- The floating-point number of a text. -/
def floatOf? (text : List Char) : Option Float :=
  let s := String.ofList text
  let positive := withoutPlus text
  if text.head? == some '+' && isSigned positive then none
  else if [".inf", ".Inf", ".INF"].contains (String.ofList positive) then some (1 / 0)
  else if ["-.inf", "-.Inf", "-.INF"].contains s then some (-1 / 0)
  else if [".nan", ".NaN", ".NAN"].contains s then some (0 / 0)
  else do
    let negative := positive.head? == some '-'
    let (m, e) ← decimalOf? (if negative then positive.tail else positive)
    let x := ofDecimal m e
    if x.isFinite then pure (if negative then -x else x) else none

/-! ### Nodes -/

/-- A typed reading of nodes. -/
abbrev Reading (α : Type) := Document → Node → Option α

namespace Reading

/-- A scalar whose text says what it is: a plain one, or a literal block with the kind's
    tag. -/
def scalarOf {α : Type} (kind : String) (ofText : List Char → Option α) : Reading α :=
  fun d n => do
    match ← d.resolve? n with
    | .scalar _ tag style text =>
      if style == .plain || (style == .literal && tag == some (coreTag kind)) then ofText text
      else none
    | _ => none

/-- A truth value. -/
def bool : Reading Bool := scalarOf "bool" boolOf?

/-- A number without sign below the bound. -/
def natBelow (bound : Nat) : Reading Nat :=
  scalarOf "int" fun text => (unsignedOf? text).filter (· < bound)

/-- An unsigned word. -/
def uint64 : Reading UInt64 := fun d n => (natBelow 0x10000000000000000 d n).map (·.toUInt64)

/-- An unsigned half word. -/
def uint32 : Reading UInt32 := fun d n => (natBelow 0x100000000 d n).map (·.toUInt32)

/-- A floating-point number. -/
def float : Reading Float := scalarOf "float" floatOf?

/-- A single-precision number. -/
def float32 : Reading Float32 := fun d n => (float d n).map Float.toFloat32

/-- A string: the text of any scalar. -/
def string : Reading String := fun d n => do
  match ← d.resolve? n with
  | .scalar _ _ _ text => pure (String.ofList text)
  | _ => none

/-- A value that may be left out.  A plain scalar is left out when it is empty or says so;
    with the tag for nothing it must say so. -/
def optional {α : Type} (read : Reading α) : Reading (Option α) := fun d n => do
  match ← d.resolve? n with
  | .scalar _ tag .plain text =>
    if tag == some (coreTag "null") then
      if isNullText text then pure none else none
    else if tag.isNone && (text.isEmpty || isNullText text) then pure none
    else some <$> read d n
  | _ => some <$> read d n

/-- Is nothing written here? -/
def isEmpty : Node → Bool
  | .scalar _ _ .plain [] => true
  | _ => false

/-- A list. -/
def list {α : Type} (read : Reading α) : Reading (List α) := fun d n => do
  let node ← d.resolve? n
  match node with
  | .sequence _ items => items.mapM (read d)
  | _ => if isEmpty node then pure [] else none

/-- The entries of a mapping, each under the text of its key. -/
def entries : Reading (List (String × Node)) := fun d n => do
  let node ← d.resolve? n
  match node with
  | .mapping _ entries => entries.mapM fun e => do pure (← string d e.1, e.2)
  | _ => if isEmpty node then pure [] else none

/-- The value under a key, or its default; a key that is known is written once. -/
def entry {α : Type} (d : Document) (es : List (String × Node)) (key : String) (default : α)
    (read : Reading α) : Option α :=
  match es.filter (·.1 == key) with
  | [] => some default
  | [e] => read d e.2
  | _ => none

end Reading

end TaintReview.Yaml
