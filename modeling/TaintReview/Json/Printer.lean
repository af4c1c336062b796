import TaintReview.Json.Basic

namespace TaintReview.Json

/-!
# Writing JSON

Two printers of the same values: everything on one line without blanks, and one member or
item a line with two blanks a level.  Inside a string only the quote, the backslash and the
control characters are escaped.
-/

/-- The two lower-case hexadecimal digits of a number below 256. -/
def hexPair (n : Nat) : List Char := [Nat.digitChar (n / 16 % 16), Nat.digitChar (n % 16)]

/-- One character of a string. -/
def escapedChar (c : Char) : List Char :=
  match c with
  | '"' => ['\\', '"']
  | '\\' => ['\\', '\\']
  | '\x08' => ['\\', 'b']
  | '\t' => ['\\', 't']
  | '\n' => ['\\', 'n']
  | '\x0c' => ['\\', 'f']
  | '\r' => ['\\', 'r']
  | c => if c.toNat < 0x20 then ['\\', 'u', '0', '0'] ++ hexPair c.toNat else [c]

/-- A string between its quotes. -/
def stringText (s : String) : List Char :=
  '"' :: s.toList.flatMap escapedChar ++ ['"']

/-- The text of a value without parts. -/
def boolText (b : Bool) : List Char := if b then "true".toList else "false".toList

/-! ### On one line -/

mutual

/-- The value on one line. -/
def compactText : Json → List Char
  | .null => "null".toList
  | .bool b => boolText b
  | .number n => n.text
  | .string s => stringText s
  | .array items => '[' :: compactItems items ++ [']']
  | .object fields => '\x7b' :: compactFields fields ++ ['\x7d']

/-- Items divided by commas. -/
def compactItems : List Json → List Char
  | [] => []
  | [v] => compactText v
  | v :: w :: rest => compactText v ++ ',' :: compactItems (w :: rest)

/-- Members divided by commas. -/
def compactFields : List (String × Json) → List Char
  | [] => []
  | [(k, v)] => stringText k ++ ':' :: compactText v
  | (k, v) :: m :: rest => stringText k ++ ':' :: compactText v ++ ',' :: compactFields (m :: rest)

end

/-- The value on one line. -/
def compact (v : Json) : String := String.ofList (compactText v)

/-! ### One item a line -/

/-- A new line at the given level. -/
def newline (level : Nat) : List Char := '\n' :: List.replicate (2 * level) ' '

mutual

/-- The value with its parts on lines of their own, `level` levels deep. -/
def prettyText (level : Nat) : Json → List Char
  | .null => "null".toList
  | .bool b => boolText b
  | .number n => n.text
  | .string s => stringText s
  | .array [] => ['[', ']']
  | .array (v :: rest) =>
    '[' :: prettyItems (level + 1) (v :: rest) ++ newline level ++ [']']
  | .object [] => ['\x7b', '\x7d']
  | .object (m :: rest) =>
    '\x7b' :: prettyFields (level + 1) (m :: rest) ++ newline level ++ ['\x7d']

/-- Items divided by commas, each on a line of its own. -/
def prettyItems (level : Nat) : List Json → List Char
  | [] => []
  | [v] => newline level ++ prettyText level v
  | v :: w :: rest =>
    newline level ++ prettyText level v ++ ',' :: prettyItems level (w :: rest)

/-- Members divided by commas, each on a line of its own. -/
def prettyFields (level : Nat) : List (String × Json) → List Char
  | [] => []
  | [(k, v)] => newline level ++ stringText k ++ ':' :: ' ' :: prettyText level v
  | (k, v) :: m :: rest =>
    newline level ++ stringText k ++ ':' :: ' ' :: prettyText level v ++
      ',' :: prettyFields level (m :: rest)

end

/-- The value with its parts on lines of their own. -/
def pretty (v : Json) : String := String.ofList (prettyText 0 v)

end TaintReview.Json
