import TaintReview.Yaml.Scalar

namespace TaintReview.Yaml

/-!
# Directives, anchors and tags

The small languages around the content of a document: the directives before it, the names
that anchors and aliases carry, and tags.
-/

/-! ### Anchors and aliases -/

/-- May a name end before this text? -/
def endsName (rest : List Char) : Bool :=
  atGap rest || rest.head?.any fun c =>
    c == '?' || c == ':' || c == ',' || c == ']' || c == '}' || c == '%' || c == '@' || c == '`'

/-- Read the name of an anchor or an alias, the cursor at its sign. -/
def name? (c : Cursor) : Option (List Char × Cursor) :=
  let c := c.skip 1
  let name := c.rest.takeWhile isNameChar
  let c := c.skip name.length
  if !name.isEmpty && endsName c.rest then some (name, c) else none

/-! ### Tags -/

/-- A character of a tag, `%` apart; a tag in angle brackets may also hold `,`, `[`
    and `]`. -/
def isTagChar (verbatim : Bool) (c : Char) : Bool :=
  isNameChar c || ";/?:@&=+$.!~*'()".toList.contains c || (verbatim && ",[]".toList.contains c)

/-- The octet written behind a percent sign. -/
def octet? : List Char → Option Nat
  | '%' :: a :: b :: _ => hexNumber? [a, b] 2
  | _ => none

/-- How many octets an encoded character takes, and what its first octet adds to it. -/
def leadOctet? (n : Nat) : Option (Nat × Nat) :=
  if n < 0x80 then some (1, n)
  else if n / 0x20 == 0x6 then some (2, n % 0x20)
  else if n / 0x10 == 0xe then some (3, n % 0x10)
  else if n / 0x8 == 0x1e then some (4, n % 0x8)
  else none

/-- The rest of an encoded character. -/
def trailOctets? : Nat → Nat → List Char → Option Nat
  | 0, n, _ => some n
  | k + 1, n, cs => do
    let o ← octet? cs
    if o / 0x40 == 0x2 then trailOctets? k (n * 0x40 + o % 0x40) (cs.drop 3) else none

/-- A character written as percent signs and octets, and the length of that. -/
def percentChar? (cs : List Char) : Option (Char × Nat) := do
  let (width, lead) ← leadOctet? (← octet? cs)
  let n ← trailOctets? (width - 1) lead (cs.drop 3)
  pure ((charOf? n).getD '\ufffd', 3 * width)

/-- Read the characters of a tag. -/
def tagChars? (verbatim : Bool) : Nat → List Char → Cursor → Option (List Char × Cursor)
  | 0, _, _ => none
  | fuel + 1, text, c =>
    match c.rest with
    | [] => some (text, c)
    | x :: _ =>
      if x == '%' then do
        let (p, length) ← percentChar? c.rest
        tagChars? verbatim fuel (text ++ [p]) (c.skip length)
      else if isTagChar verbatim x then tagChars? verbatim fuel (text ++ [x]) (c.skip 1)
      else some (text, c)

/-- Read the characters of a tag, of which there must be one. -/
def someTagChars? (verbatim : Bool) (c : Cursor) : Option (List Char × Cursor) := do
  let (text, c) ← tagChars? verbatim (c.rest.length + 1) [] c
  if text.isEmpty then none else pure (text, c)

/-- Read what may be the handle of a tag: an exclamation mark, a name and, if it is there,
    another exclamation mark. -/
def tagHandle? (c : Cursor) : Option (List Char × Cursor) :=
  match c.rest with
  | '!' :: rest =>
    let name := rest.takeWhile isNameChar
    let close := if (rest.drop name.length).head? == some '!' then ['!'] else []
    let handle := '!' :: name ++ close
    some (handle, c.skip handle.length)
  | _ => none

/-- Is it a handle with a second exclamation mark? -/
def isClosedHandle (handle : List Char) : Bool :=
  2 ≤ handle.length && handle.getLast? == some '!'

/-- Read a tag: in angle brackets, behind a handle, or behind an exclamation mark.  The mark
    alone is a tag of its own. -/
def tag? (inFlow : Bool) (c : Cursor) : Option (Token × Cursor) := do
  let (handle, suffix, c) ←
    if c.rest.take 2 == ['!', '<'] then do
      let (suffix, c) ← someTagChars? true (c.skip 2)
      if c.rest.head? == some '>' then pure ([], suffix, c.skip 1) else none
    else do
      let (handle, c) ← tagHandle? c
      if isClosedHandle handle then do
        let (suffix, c) ← someTagChars? false c
        pure (handle, suffix, c)
      else do
        let (text, c) ← tagChars? false (c.rest.length + 1) handle.tail c
        pure (if text.isEmpty then ([], ['!'], c) else (['!'], text, c))
  if atGap c.rest || (inFlow && c.rest.head? == some ',') then
    pure (.tag handle suffix, c)
  else none

/-! ### Directives -/

/-- Read a number of at most nine digits. -/
def versionNumber? (c : Cursor) : Option (Nat × Cursor) :=
  let digits := c.rest.takeWhile Char.isDigit
  if digits.isEmpty || 9 < digits.length then none
  else some (digits.foldl (fun n d => 10 * n + (d.toNat - '0'.toNat)) 0, c.skip digits.length)

/-- Read the value of a version directive. -/
def version? (c : Cursor) : Option (Token × Cursor) := do
  let (major, c) ← versionNumber? (c.skipWhile isBlank)
  if c.rest.head? != some '.' then none
  else
    let (minor, c) ← versionNumber? (c.skip 1)
    pure (.version major minor, c)

/-- Read the value of a tag directive: a handle and what it stands for. -/
def tagDirective? (c : Cursor) : Option (Token × Cursor) := do
  let (handle, c) ← tagHandle? (c.skipWhile isBlank)
  if !(handle == ['!'] || isClosedHandle handle) || !c.rest.head?.any isBlank then none
  else
    let (expansion, c) ← someTagChars? true (c.skipWhile isBlank)
    if atGap c.rest then pure (.tagDirective handle expansion, c) else none

/-- Read a directive, the cursor at its percent sign.  Only the two known ones are read. -/
def directive? (c : Cursor) : Option (Token × Cursor) := do
  let c := c.skip 1
  let name := c.rest.takeWhile isNameChar
  let c := c.skip name.length
  if !atGap c.rest then none
  else
    let (token, c) ←
      if name == "YAML".toList then version? c
      else if name == "TAG".toList then tagDirective? c
      else none
    pure (token, ← c.finishLine?)

end TaintReview.Yaml
