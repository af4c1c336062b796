import TaintReview.Yaml.Token.Names

namespace TaintReview.Yaml

/-!
# From a text to its tokens

Indentation and colons give a YAML text its structure.  The lexer keeps the columns of the
open blocks, and the place of the last token that may yet turn out to be a key: when a colon
follows it on the same line, `key`, and where a mapping begins its start, are put before that
token.
-/

/-- A token that may turn out to be a key. -/
structure PossibleKey where
  /-- Nothing but a key can stand here. -/
  required : Bool
  /-- How many tokens precede it. -/
  number : Nat
  index : Nat
  line : Nat
  column : Nat

/-- The state of the lexer. -/
structure Lexer where
  cursor : Cursor
  tokens : List Token := []
  /-- The column of the innermost block, `-1` outside of all. -/
  indent : Int := -1
  /-- The columns of the blocks around it. -/
  outerIndents : List Int := []
  /-- A key without a question mark may begin here. -/
  keyAllowed : Bool := true
  /-- The possible key of the innermost flow collection. -/
  key : Option PossibleKey := none
  /-- The possible keys of the collections around it, one for each level of nesting. -/
  outerKeys : List (Option PossibleKey) := []

namespace Lexer

/-- Is the text inside a flow collection? -/
def inFlow (l : Lexer) : Bool := !l.outerKeys.isEmpty

/-- Add a token. -/
def emit (l : Lexer) (t : Token) : Lexer := { l with tokens := l.tokens ++ [t] }

/-- Put a token before the one of the given number. -/
def emitAt (l : Lexer) (n : Nat) (t : Token) : Lexer :=
  { l with tokens := l.tokens.take n ++ t :: l.tokens.drop n }

/-! ### Indentation -/

/-- Open a block at the column, unless one is open there. -/
def openBlock (l : Lexer) (column : Nat) (number : Nat) (start : Token) : Lexer :=
  if l.inFlow || (column : Int) ≤ l.indent then l
  else { l.emitAt number start with indent := column, outerIndents := l.indent :: l.outerIndents }

/-- Close all blocks right of the column. -/
def closeBlocksTo (column : Int) : Int → List Int → List Token → Int × List Int × List Token
  | indent, [], tokens => (indent, [], tokens)
  | indent, outer :: rest, tokens =>
    if column < indent then closeBlocksTo column outer rest (tokens ++ [.blockEnd])
    else (indent, outer :: rest, tokens)

/-- Close all blocks right of the column; a flow collection has no columns. -/
def closeBlocks (l : Lexer) (column : Int) : Lexer :=
  if l.inFlow then l
  else
    let (indent, outerIndents, tokens) := closeBlocksTo column l.indent l.outerIndents l.tokens
    { l with indent, outerIndents, tokens }

/-! ### Possible keys -/

/-- Give up the possible key; an error when only a key could stand there. -/
def dropKey (l : Lexer) : Option Lexer :=
  if l.key.any (·.required) then none else some { l with key := none }

/-- The next token may be a key, when keys may begin here. -/
def noteKey (l : Lexer) : Option Lexer :=
  if l.keyAllowed then do
    let l ← l.dropKey
    let c := l.cursor
    let required := !l.inFlow && l.indent == c.column
    pure { l with key := some ⟨required, l.tokens.length, c.index, c.line, c.column⟩ }
  else some l

/-- The possible key, when a colon here makes it one: it is on this line and not more than
    1024 characters away. -/
def confirmedKey (l : Lexer) : Option (Option PossibleKey) :=
  match l.key with
  | none => some none
  | some k =>
    if k.line < l.cursor.line || k.index + 1024 < l.cursor.index then
      if k.required then none else some none
    else some (some k)

/-! ### Tokens -/

/-- Step over spaces, comments and line ends.  A tab may stand where no key can begin. -/
def skipGap : Nat → Lexer → Lexer
  | 0, l => l
  | fuel + 1, l =>
    let c := l.cursor
    let c := if c.index == 0 && c.rest.head? == some byteOrderMark then c.skip 1 else c
    let tabs := l.inFlow || !l.keyAllowed
    let c := (c.skipWhile fun x => x == ' ' || (tabs && x == '\t')).skipComment
    if c.rest.head?.any isBreak then
      skipGap fuel { l with cursor := c.skipBreak, keyAllowed := l.keyAllowed || !l.inFlow }
    else { l with cursor := c }

/-- Step over characters and add a token. -/
def take (l : Lexer) (n : Nat) (t : Token) : Lexer :=
  { l.emit t with cursor := l.cursor.skip n }

/-- Read a token that begins a document or precedes it. -/
def takeOutside (l : Lexer) (read : Cursor → Option (Token × Cursor)) : Option Lexer := do
  let l ← (l.closeBlocks (-1)).dropKey
  let (token, cursor) ← read l.cursor
  pure { l.emit token with cursor, keyAllowed := false }

/-- Open a flow collection. -/
def openFlow (l : Lexer) (t : Token) : Option Lexer := do
  let l ← l.noteKey
  pure { l.take 1 t with key := none, outerKeys := l.key :: l.outerKeys, keyAllowed := true }

/-- Close a flow collection. -/
def closeFlow (l : Lexer) (t : Token) : Option Lexer := do
  let l ← l.dropKey
  let l := { l.take 1 t with keyAllowed := false }
  match l.outerKeys with
  | [] => pure l
  | key :: outerKeys => pure { l with key, outerKeys }

/-- Read the sign of an item in a block. -/
def takeBlockEntry (l : Lexer) : Option Lexer := do
  if !l.inFlow && !l.keyAllowed then none
  else
    let l ← (l.openBlock l.cursor.column l.tokens.length .blockSequenceStart).dropKey
    pure { l.take 1 .blockEntry with keyAllowed := true }

/-- Read the sign of a key. -/
def takeKey (l : Lexer) : Option Lexer := do
  if !l.inFlow && !l.keyAllowed then none
  else
    let l ← (l.openBlock l.cursor.column l.tokens.length .blockMappingStart).dropKey
    pure { l.take 1 .key with keyAllowed := !l.inFlow }

/-- Read the sign of a value. -/
def takeValue (l : Lexer) : Option Lexer := do
  match ← l.confirmedKey with
  | some k =>
    let l := (l.emitAt k.number .key).openBlock k.column k.number .blockMappingStart
    pure { l.take 1 .value with key := none, keyAllowed := false }
  | none =>
    if !l.inFlow && !l.keyAllowed then none
    else
      let l := l.openBlock l.cursor.column l.tokens.length .blockMappingStart
      pure { l.take 1 .value with key := none, keyAllowed := !l.inFlow }

/-- Read a token that may be a key and after which none can begin. -/
def takeContent (l : Lexer) (read : Cursor → Option (Token × Cursor)) : Option Lexer := do
  let l ← l.noteKey
  let (token, cursor) ← read l.cursor
  pure { l.emit token with cursor, keyAllowed := false }

/-- Read a block scalar. -/
def takeBlockScalar (l : Lexer) (style : Style) : Option Lexer := do
  let l ← l.dropKey
  let (text, cursor) ← blockScalar? (style == .folded) l.indent l.cursor
  pure { l.emit (.scalar style text) with cursor, keyAllowed := true }

/-- Read a quoted scalar. -/
def takeQuoted (l : Lexer) (style : Style) : Option Lexer :=
  l.takeContent fun c =>
    (quoted? (style == .doubleQuoted) c).map fun (text, c) => (.scalar style text, c)

/-- Read a plain scalar. -/
def takePlain (l : Lexer) : Option Lexer := do
  let l ← l.noteKey
  let s ← plain? l.inFlow l.indent l.cursor
  pure { l.emit (.scalar .plain s.text) with cursor := s.cursor, keyAllowed := s.broken }

/-- May a plain scalar begin with this character, before that text? -/
def beginsPlain (inFlow : Bool) (x : Char) (rest : List Char) : Bool :=
  if x == '-' then !rest.head?.any isBlank
  else if x == '?' || x == ':' then !inFlow && !atGap rest
  else !(isBlank x || isBreak x || isFlowIndicator x || "#&*!|>'\"%@`".toList.contains x)

/-- Read the token at the cursor. -/
def takeToken (l : Lexer) (x : Char) (rest : List Char) : Option Lexer :=
  if l.cursor.column == 0 && x == '%' then l.takeOutside directive?
  else if l.cursor.atMarker ['-', '-', '-'] then
    l.takeOutside fun c => some (.documentStart, c.skip 3)
  else if l.cursor.atMarker ['.', '.', '.'] then
    l.takeOutside fun c => some (.documentEnd, c.skip 3)
  else if x == '[' then l.openFlow .flowSequenceStart
  else if x == '{' then l.openFlow .flowMappingStart
  else if x == ']' then l.closeFlow .flowSequenceEnd
  else if x == '}' then l.closeFlow .flowMappingEnd
  else if x == ',' then do
    let l ← l.dropKey
    pure { l.take 1 .flowEntry with keyAllowed := true }
  else if x == '-' && atGap rest then l.takeBlockEntry
  else if x == '?' && (l.inFlow || atGap rest) then l.takeKey
  else if x == ':' && (l.inFlow || atGap rest) then l.takeValue
  else if x == '*' then l.takeContent fun c => (name? c).map fun (name, c) => (.alias name, c)
  else if x == '&' then l.takeContent fun c => (name? c).map fun (name, c) => (.anchor name, c)
  else if x == '!' then l.takeContent (tag? l.inFlow)
  else if x == '|' && !l.inFlow then l.takeBlockScalar .literal
  else if x == '>' && !l.inFlow then l.takeBlockScalar .folded
  else if x == '\'' then l.takeQuoted .singleQuoted
  else if x == '"' then l.takeQuoted .doubleQuoted
  else if beginsPlain l.inFlow x rest then l.takePlain
  else none

/-- Read all tokens.  Each one but the last takes a character. -/
def run : Nat → Lexer → Option (List Token)
  | 0, _ => none
  | fuel + 1, l =>
    let l := l.skipGap (l.cursor.rest.length + 1)
    let l := l.closeBlocks l.cursor.column
    match l.cursor.rest with
    | [] => ((l.closeBlocks (-1)).dropKey).map (·.tokens)
    | x :: rest => (l.takeToken x rest).bind (run fuel)

end Lexer

/-- The tokens of a text, when it is well formed as far as tokens go. -/
def Token.scan? (text : List Char) : Option (List Token) :=
  if text.all isAllowed then Lexer.run (text.length + 1) { cursor := { rest := text } } else none

end TaintReview.Yaml
