import TaintReview.Json.Basic
import TaintReview.Text.Quoted

namespace TaintReview

open Text

/-!
# Decoding JSON values

Typed reading of JSON values.  A decoder either gives a value or names the first thing that
is wrong.  The members of an object are looked at in the order of their keys, unknown ones
are passed over, and only then is a missing member reported.  A record may also be written
as the array of its fields.
-/

/-- Why a value cannot be decoded. -/
inductive DecodeError where
  /-- A required member is absent. -/
  | missing (field : String)
  /-- The value is of another kind than expected. -/
  | wrongKind (found : Json) (expected : String)
  /-- An integer does not fit its field. -/
  | outOfRange (found : Int) (expected : String)
  /-- A tag written as an object has no key or several. -/
  | notOneKey
  /-- A tag is none of the known ones. -/
  | unknownTag (found : String) (known : List String)
  /-- An array has too few or too many items for its record. -/
  | wrongLength (length : Nat) (expected : String)

/-- A typed reading of JSON values. -/
abbrev Decoder (α : Type) := Json → Except DecodeError α

/-- How a value is named in a message. -/
def Json.kind : Json → String
  | .null => "null"
  | .bool b => s!"boolean `{b}`"
  | .number (.int n _) => s!"integer `{n}`"
  | .number (.float x _) => "floating point `" ++ String.ofList (Number.floatText x) ++ "`"
  | .string s => "string " ++ quoted s
  | .array _ => "sequence"
  | .object _ => "map"

/-- The text of a decoding error. -/
def DecodeError.message : DecodeError → String
  | .missing field => s!"missing field `{field}`"
  | .wrongKind found expected => s!"invalid type: {found.kind}, expected {expected}"
  | .outOfRange found expected => s!"invalid value: integer `{found}`, expected {expected}"
  | .notOneKey => "invalid value: map, expected map with a single key"
  | .unknownTag found known =>
    let tags := ", ".intercalate (known.map fun tag => s!"`{tag}`")
    s!"unknown variant `{found}`, expected one of {tags}"
  | .wrongLength length expected => s!"invalid length {length}, expected {expected}"

namespace Decode

/-! ### Plain values -/

/-- Any value at all. -/
def json : Decoder Json := .ok

/-- A string. -/
def string : Decoder String
  | .string s => .ok s
  | v => .error (.wrongKind v "a string")

/-- A truth value. -/
def bool : Decoder Bool
  | .bool b => .ok b
  | v => .error (.wrongKind v "a boolean")

/-- An integer between two bounds, the upper one excluded. -/
def intBetween (least bound : Int) (expected : String) : Decoder Int
  | .number (.int n _) =>
    if least ≤ n ∧ n < bound then .ok n else .error (.outOfRange n expected)
  | v => .error (.wrongKind v expected)

/-- A signed word. -/
def int64 : Decoder Int64 := fun v =>
  Int64.ofInt <$> intBetween (-0x8000000000000000) 0x8000000000000000 "i64" v

/-- An unsigned half word. -/
def uint32 : Decoder UInt32 := fun v =>
  (·.toNat.toUInt32) <$> intBetween 0 0x100000000 "u32" v

/-- An unsigned word. -/
def size : Decoder UInt64 := fun v =>
  (·.toNat.toUInt64) <$> intBetween 0 0x10000000000000000 "usize" v

/-- A floating-point number, also written as an integer. -/
def float : Decoder Float
  | .number (.int n _) => .ok (Float.ofInt n)
  | .number (.float x _) => .ok x
  | v => .error (.wrongKind v "f64")

/-- A single-precision number: the nearest to the number given. -/
def float32 : Decoder Float32
  | .number (.int n _) => .ok (Float32.ofInt n)
  | .number (.float x _) => .ok x.toFloat32
  | v => .error (.wrongKind v "f32")

/-- A value that may be `null`. -/
def nullable {α : Type} (decode : Decoder α) : Decoder (Option α)
  | .null => .ok none
  | v => some <$> decode v

/-- An array of values of one kind. -/
def list {α : Type} (decode : Decoder α) : Decoder (List α)
  | .array items => items.mapM decode
  | v => .error (.wrongKind v "a sequence")

/-- An open object. -/
def fields : Decoder Fields
  | .object fields => .ok fields
  | v => .error (.wrongKind v "a map")

/-! ### Tags -/

/-- The payload of a tag written as an object is `null`. -/
def noPayload : Decoder Unit
  | .null => .ok ()
  | v => .error (.wrongKind v "unit")

/-- A tag, by itself or as the one key of an object.  The tag is checked before its
    payload. -/
def tag {α : Type} (ofTag : String → Except DecodeError α) : Decoder α
  | .string s => ofTag s
  | .object [(key, payload)] => do
    let a ← ofTag key
    noPayload payload
    pure a
  | .object _ => .error .notOneKey
  | v => .error (.wrongKind v "string or map")

/-! ### Records -/

/-- A member, when it is there. -/
def member {α : Type} (members : Fields) (key : String) (decode : Decoder α) :
    Except DecodeError (Option α) :=
  match members.get? key with
  | none => .ok none
  | some v => some <$> decode v

/-- A member with a default. -/
def memberOr {α : Type} (members : Fields) (key : String) (default : α) (decode : Decoder α) :
    Except DecodeError α :=
  (·.getD default) <$> member members key decode

/-- A required member that was looked for. -/
def required {α : Type} (key : String) : Option α → Except DecodeError α
  | none => .error (.missing key)
  | some a => .ok a

/-- The items of an array that are still to be read, and how many were read. -/
abbrev ItemReader := StateT (Nat × List Json) (Except DecodeError)

/-- The next item, when there is one. -/
def item {α : Type} (decode : Decoder α) : ItemReader (Option α) := do
  match ← get with
  | (_, []) => pure none
  | (n, v :: rest) => do
    set (n + 1, rest)
    some <$> decode v

/-- The next item, or a default past the end of the array. -/
def itemOr {α : Type} (default : α) (decode : Decoder α) : ItemReader α :=
  (·.getD default) <$> item decode

/-- The next item of a record that cannot do without it. -/
def requiredItem {α : Type} (expected : String) (decode : Decoder α) : ItemReader α := do
  let (n, _) ← get
  match ← item decode with
  | some a => pure a
  | none => throw (.wrongLength n expected)

/-- Read a record from an array; no item may be left over. -/
def items {α : Type} (reader : ItemReader α) (all : List Json) : Except DecodeError α := do
  let (a, (_, rest)) ← reader.run (0, all)
  if rest.isEmpty then pure a else throw (.wrongLength all.length "fewer elements in array")

/-- A record, written as an object or as the array of its fields. -/
def record {α : Type} (name : String) (ofFields : Fields → Except DecodeError α)
    (ofItems : ItemReader α) : Decoder α
  | .object fields => ofFields fields
  | .array all => items ofItems all
  | v => .error (.wrongKind v s!"struct {name}")

end Decode

end TaintReview
