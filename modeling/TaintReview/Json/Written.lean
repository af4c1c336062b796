import TaintReview.Json.Basic

namespace TaintReview.Json

/-!
# JSON texts

The tree that a JSON text spells, before its parts are given values: numbers by their
digits, strings by their escapes, members in the order in which they stand, repeated keys
included.  A part of a document that nobody reads only has to be spelled right, so this tree
and the values of its parts are kept apart.
-/

/-- A number by its digits. -/
structure NumberText where
  negative : Bool
  integer : List Nat
  fraction : List Nat
  exponent : Option (Bool × List Nat)
deriving DecidableEq, Repr

/-- A part of a string: a character, or the sixteen bits of an escape. -/
inductive Piece where
  | char (c : Char)
  | bits (n : Nat)
deriving DecidableEq, Repr

/-- The tree that a text spells. -/
inductive Written where
  | null
  | bool (value : Bool)
  | number (value : NumberText)
  | string (pieces : List Piece)
  | array (items : List Written)
  | object (members : List (List Piece × Written))

/-! ### Tokens -/

/-- The blanks between tokens. -/
def isSpace (c : Char) : Bool := c == ' ' || c == '\n' || c == '\t' || c == '\r'

/-- The rest of the text after its blanks. -/
def skip (cs : List Char) : List Char := cs.dropWhile isSpace

/-- The value of a decimal digit. -/
def digit? (c : Char) : Option Nat := if c.isDigit then some (c.toNat - '0'.toNat) else none

/-- The value of a hexadecimal digit. -/
def hexDigit? (c : Char) : Option Nat :=
  if c.isDigit then some (c.toNat - '0'.toNat)
  else if 'a' ≤ c ∧ c ≤ 'f' then some (c.toNat - 'a'.toNat + 10)
  else if 'A' ≤ c ∧ c ≤ 'F' then some (c.toNat - 'A'.toNat + 10)
  else none

/-- The digits at the front of a text and what follows them. -/
def takeDigits : List Char → List Nat × List Char
  | [] => ([], [])
  | c :: cs =>
    match digit? c with
    | none => ([], c :: cs)
    | some d =>
      let (ds, rest) := takeDigits cs
      (d :: ds, rest)

/-- The exponent at the front of a text, if there is one. -/
def takeExponent (cs : List Char) : Option (Option (Bool × List Nat) × List Char) :=
  match cs with
  | c :: rest =>
    if c == 'e' || c == 'E' then
      let (negative, rest) :=
        match rest with
        | '+' :: rest => (false, rest)
        | '-' :: rest => (true, rest)
        | rest => (false, rest)
      match takeDigits rest with
      | ([], _) => none
      | (ds, rest) => some (some (negative, ds), rest)
    else some (none, cs)
  | [] => some (none, [])

/-- The fraction at the front of a text, if there is one. -/
def takeFraction (cs : List Char) : Option (List Nat × List Char) :=
  match cs with
  | '.' :: rest =>
    match takeDigits rest with
    | ([], _) => none
    | (ds, rest) => some (ds, rest)
  | _ => some ([], cs)

/-- A number after its sign.  A leading zero stands alone. -/
def takeNumber (negative : Bool) (cs : List Char) : Option (NumberText × List Char) :=
  match takeDigits cs with
  | ([], _) => none
  | (0 :: _ :: _, _) => none
  | (integer, rest) => do
    let (fraction, rest) ← takeFraction rest
    let (exponent, rest) ← takeExponent rest
    pure (⟨negative, integer, fraction, exponent⟩, rest)

/-- The character that a one-letter escape stands for. -/
def escape? : Char → Option Char
  | '"' => some '"'
  | '\\' => some '\\'
  | '/' => some '/'
  | 'b' => some '\x08'
  | 'f' => some '\x0c'
  | 'n' => some '\n'
  | 'r' => some '\r'
  | 't' => some '\t'
  | _ => none

/-- The number that four hexadecimal digits stand for. -/
def hexQuad? (a b c d : Char) : Option Nat := do
  let a ← hexDigit? a
  let b ← hexDigit? b
  let c ← hexDigit? c
  let d ← hexDigit? d
  pure (((a * 16 + b) * 16 + c) * 16 + d)

/-- The pieces of a string up to its closing quote, and what follows it. -/
def takeString : List Char → Option (List Piece × List Char)
  | [] => none
  | '"' :: rest => some ([], rest)
  | '\\' :: 'u' :: a :: b :: c :: d :: rest => do
    let n ← hexQuad? a b c d
    let (pieces, rest) ← takeString rest
    pure (.bits n :: pieces, rest)
  | '\\' :: e :: rest => do
    let c ← escape? e
    let (pieces, rest) ← takeString rest
    pure (.char c :: pieces, rest)
  | c :: rest =>
    if c == '\\' || c.toNat < 0x20 then none
    else do
      let (pieces, rest) ← takeString rest
      pure (.char c :: pieces, rest)

/-- The rest of the text after a given word. -/
def expect : List Char → List Char → Option (List Char)
  | [], cs => some cs
  | _ :: _, [] => none
  | w :: ws, c :: cs => if w == c then expect ws cs else none

/-! ### Values

The readers take as fuel a bound on the length of the text: every call leaves less of it. -/

mutual

/-- The value at the front of a text. -/
def takeValue : Nat → List Char → Option (Written × List Char)
  | 0, _ => none
  | fuel + 1, cs =>
    match skip cs with
    | 'n' :: rest => do
      let rest ← expect ['u', 'l', 'l'] rest
      pure (.null, rest)
    | 't' :: rest => do
      let rest ← expect ['r', 'u', 'e'] rest
      pure (.bool true, rest)
    | 'f' :: rest => do
      let rest ← expect ['a', 'l', 's', 'e'] rest
      pure (.bool false, rest)
    | '"' :: rest => do
      let (pieces, rest) ← takeString rest
      pure (.string pieces, rest)
    | '[' :: rest =>
      match skip rest with
      | ']' :: rest => some (.array [], rest)
      | rest => do
        let (items, rest) ← takeItems fuel rest
        pure (.array items, rest)
    | '\x7b' :: rest =>
      match skip rest with
      | '\x7d' :: rest => some (.object [], rest)
      | rest => do
        let (members, rest) ← takeMembers fuel rest
        pure (.object members, rest)
    | '-' :: rest => do
      let (n, rest) ← takeNumber true rest
      pure (.number n, rest)
    | rest => do
      let (n, rest) ← takeNumber false rest
      pure (.number n, rest)

/-- At least one item, up to the closing bracket. -/
def takeItems : Nat → List Char → Option (List Written × List Char)
  | 0, _ => none
  | fuel + 1, cs => do
    let (v, rest) ← takeValue fuel cs
    match skip rest with
    | ']' :: rest => some ([v], rest)
    | ',' :: rest => do
      let (vs, rest) ← takeItems fuel rest
      pure (v :: vs, rest)
    | _ => none

/-- At least one member, up to the closing brace. -/
def takeMembers : Nat → List Char → Option (List (List Piece × Written) × List Char)
  | 0, _ => none
  | fuel + 1, cs =>
    match skip cs with
    | '"' :: rest => do
      let (key, rest) ← takeString rest
      match skip rest with
      | ':' :: rest => do
        let (v, rest) ← takeValue fuel rest
        match skip rest with
        | '\x7d' :: rest => some ([(key, v)], rest)
        | ',' :: rest => do
          let (ms, rest) ← takeMembers fuel rest
          pure ((key, v) :: ms, rest)
        | _ => none
      | _ => none
    | _ => none

end

/-- The tree that the whole text spells. -/
def Written.parse? (s : String) : Option Written := do
  let cs := s.toList
  let (v, rest) ← takeValue (2 * cs.length + 1) cs
  if skip rest = [] then some v else none

end TaintReview.Json
