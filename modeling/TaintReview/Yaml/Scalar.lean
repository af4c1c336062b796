import TaintReview.Yaml.Cursor

namespace TaintReview.Yaml

/-!
# Tokens and scalars of a YAML text

The tokens, and the five ways to write the scalars among them.  Each reader takes the cursor at
the scalar and gives its text and the cursor behind it, or nothing when the scalar is not well
formed.  A scalar may run over several lines; the gap between two of its parts is folded to a
space or to the empty lines it holds.
-/

/-! ### Tokens -/

/-- How a scalar is written. -/
inductive Style where
  | plain
  | singleQuoted
  | doubleQuoted
  | literal
  | folded
deriving DecidableEq, Repr

/-- A token.  `blockEnd` closes the innermost sequence or mapping that indentation opened;
    `key` and `value` stand before the two sides of an entry. -/
inductive Token where
  | version (major minor : Nat)
  | tagDirective (handle expansion : List Char)
  | documentStart
  | documentEnd
  | blockSequenceStart
  | blockMappingStart
  | blockEnd
  | flowSequenceStart
  | flowSequenceEnd
  | flowMappingStart
  | flowMappingEnd
  | blockEntry
  | flowEntry
  | key
  | value
  | alias (name : List Char)
  | anchor (name : List Char)
  | tag (handle suffix : List Char)
  | scalar (style : Style) (text : List Char)
deriving DecidableEq, Repr

/-! ### Gaps -/

/-- The blanks and line ends between two parts of a scalar. -/
structure Gap where
  /-- A line ended in the gap. -/
  broken : Bool := false
  /-- The blanks of a gap within one line. -/
  blanks : List Char := []
  /-- The first line's end. -/
  first : List Char := []
  /-- The further line ends. -/
  more : List Char := []

/-- What a gap stands for: its blanks within a line; across lines a single line feed becomes
    a space, and further line ends are kept. -/
def Gap.text (g : Gap) : List Char :=
  if !g.broken then g.blanks
  else if g.first != ['\n'] then g.first ++ g.more
  else if g.more.isEmpty then [' '] else g.more

/-- Add a line's end to a gap; what blanks there were no longer count. -/
def Gap.addBreak (g : Gap) (text : List Char) : Gap :=
  if g.broken then { g with more := g.more ++ text }
  else { g with broken := true, blanks := [], first := text }

/-- Read a gap.  A tab that stands for indentation, left of `tabLimit` on a later line, is an
    error. -/
def gap? (tabLimit : Int) : Nat → Gap → Cursor → Option (Gap × Cursor)
  | 0, _, _ => none
  | fuel + 1, g, c =>
    match c.rest with
    | [] => some (g, c)
    | x :: _ =>
      if isBlank x then
        if g.broken && x == '\t' && c.column < tabLimit then none
        else gap? tabLimit fuel (if g.broken then g else { g with blanks := g.blanks ++ [x] })
          (c.skip 1)
      else if isBreak x then gap? tabLimit fuel (g.addBreak c.breakText) c.skipBreak
      else some (g, c)

/-! ### Plain scalars -/

/-- A character that structures flow collections. -/
def isFlowIndicator (c : Char) : Bool :=
  c == ',' || c == '[' || c == ']' || c == '{' || c == '}'

/-- The part of a plain scalar up to a gap, to a colon before a gap or, in a flow collection,
    to an indicator, with what follows it.  In a flow collection a colon directly before an
    indicator is an error. -/
def plainRun? (inFlow : Bool) : List Char → Option (List Char × List Char)
  | [] => some ([], [])
  | x :: rest =>
    if isBlank x || isBreak x then some ([], x :: rest)
    else if x == ':' && atGap rest then some ([], x :: rest)
    else if inFlow && x == ':' && rest.head?.any (fun y => isFlowIndicator y || y == '?') then none
    else if inFlow && isFlowIndicator x then some ([], x :: rest)
    else (plainRun? inFlow rest).map fun (run, after) => (x :: run, after)

/-- A plain scalar as far as it was read. -/
structure PlainScalar where
  text : List Char
  cursor : Cursor
  /-- The last thing read was a line's end, so a key may follow. -/
  broken : Bool

/-- Read the further parts of a plain scalar after `text` and the gap `g`. -/
def plainFrom? (inFlow : Bool) (indent : Int) :
    Nat → List Char → Gap → Cursor → Option PlainScalar
  | 0, _, _, _ => none
  | fuel + 1, text, g, c =>
    if c.atDocumentMarker || c.rest.head? == some '#' then
      some ⟨text, c, g.broken⟩
    else do
      let (run, _) ← plainRun? inFlow c.rest
      let read := !run.isEmpty
      let text := if read then text ++ g.text ++ run else text
      let g := if read then {} else g
      let c := c.skip run.length
      if c.rest.isEmpty || !atGap c.rest then some ⟨text, c, g.broken⟩
      else do
        let (g, c) ← gap? indent (c.rest.length + 1) g c
        if !inFlow && c.column < indent then some ⟨text, c, g.broken⟩
        else plainFrom? inFlow indent fuel text g c

/-- Read a plain scalar; in a block it ends at the first line that is indented no deeper than
    the block. -/
def plain? (inFlow : Bool) (parentIndent : Int) (c : Cursor) : Option PlainScalar :=
  plainFrom? inFlow (parentIndent + 1) (c.rest.length + 1) [] {} c

/-! ### Quoted scalars -/

/-- The value of a hexadecimal digit. -/
def hexDigit? (c : Char) : Option Nat :=
  if '0' ≤ c && c ≤ '9' then some (c.toNat - '0'.toNat)
  else if 'a' ≤ c && c ≤ 'f' then some (c.toNat - 'a'.toNat + 10)
  else if 'A' ≤ c && c ≤ 'F' then some (c.toNat - 'A'.toNat + 10)
  else none

/-- The number written by exactly so many hexadecimal digits. -/
def hexNumber? (digits : List Char) (width : Nat) : Option Nat :=
  if digits.length = width then
    digits.foldlM (fun n d => (hexDigit? d).map (16 * n + ·)) 0
  else none

/-- The character of a code point. -/
def charOf? (n : Nat) : Option Char :=
  if h : n.isValidChar then some (Char.ofNatAux n h) else none

/-- Escapes of one character in double quotes. -/
def simpleEscapes : List (Char × Char) :=
  [('0', '\x00'), ('a', '\x07'), ('b', '\x08'), ('t', '\t'), ('\t', '\t'), ('n', '\n'),
   ('v', '\x0b'), ('f', '\x0c'), ('r', '\r'), ('e', '\x1b'), (' ', ' '), ('"', '"'),
   ('/', '/'), ('\\', '\\'), ('N', nextLine), ('_', '\u00a0'), ('L', lineSeparator),
   ('P', paragraphSeparator)]

/-- How many hexadecimal digits follow an escape. -/
def escapeWidth? : Char → Option Nat
  | 'x' => some 2
  | 'u' => some 4
  | 'U' => some 8
  | _ => none

/-- The character of the escape that begins behind a backslash, and the escape's length. -/
def escape? : List Char → Option (Char × Nat)
  | [] => none
  | e :: rest =>
    match simpleEscapes.lookup e with
    | some c => some (c, 1)
    | none => do
      let width ← escapeWidth? e
      let n ← hexNumber? (rest.take width) width
      let c ← charOf? n
      pure (c, width + 1)

/-- Read the further parts of a quoted scalar.  A gap that follows an escaped line's end
    begins broken and with nothing kept. -/
def quotedFrom? (double : Bool) : Nat → List Char → Cursor → Option (List Char × Cursor)
  | 0, _, _ => none
  | fuel + 1, text, c =>
    if c.atDocumentMarker then none
    else
      match c.rest with
      | [] => none
      | x :: rest =>
        if isBlank x || isBreak x then do
          let (g, c) ← gap? 0 (c.rest.length + 1) {} c
          quotedFrom? double fuel (text ++ g.text) c
        else if double then
          if x == '"' then some (text, c.skip 1)
          else if x == '\\' then
            if rest.head?.any isBreak then do
              let (g, c) ← gap? 0 (c.rest.length + 1) { broken := true } (c.skip 1).skipBreak
              quotedFrom? double fuel (text ++ g.text) c
            else do
              let (e, length) ← escape? rest
              quotedFrom? double fuel (text ++ [e]) (c.skip (length + 1))
          else quotedFrom? double fuel (text ++ [x]) (c.skip 1)
        else if x == '\'' then
          if rest.head? == some '\'' then quotedFrom? double fuel (text ++ ['\'']) (c.skip 2)
          else some (text, c.skip 1)
        else quotedFrom? double fuel (text ++ [x]) (c.skip 1)

/-- Read a quoted scalar, the cursor at its opening quote. -/
def quoted? (double : Bool) (c : Cursor) : Option (List Char × Cursor) :=
  quotedFrom? double (c.rest.length + 1) [] (c.skip 1)

/-! ### Block scalars -/

/-- What becomes of the line ends that close a block scalar: all but the text's own go, one
    stays, all stay. -/
inductive Chomp where
  | strip
  | clip
  | keep
deriving DecidableEq, Repr

/-- The header of a block scalar: how its end is treated and, if given, its indentation
    relative to the block around it. -/
structure BlockHeader where
  chomp : Chomp := .clip
  indent : Option Nat := none

/-- The sign of a header. -/
def chompOf? : Char → Option Chomp
  | '+' => some .keep
  | '-' => some .strip
  | _ => none

/-- The digit of a header; zero is an error. -/
def headerDigit? (c : Cursor) : Option (Option Nat × Cursor) :=
  match c.rest with
  | d :: _ =>
    if d == '0' then none
    else if d.isDigit then some (some (d.toNat - '0'.toNat), c.skip 1)
    else some (none, c)
  | [] => some (none, c)

/-- The sign of a header, when there is one. -/
def headerSign (c : Cursor) : Option Chomp × Cursor :=
  match c.rest.head?.bind chompOf? with
  | some chomp => (some chomp, c.skip 1)
  | none => (none, c)

/-- Read the sign and the digit of a header, in either order. -/
def blockHeader? (c : Cursor) : Option (BlockHeader × Cursor) := do
  match headerSign c with
  | (some chomp, c) =>
    let (indent, c) ← headerDigit? c
    pure ({ chomp, indent }, c)
  | (none, c) =>
    let (indent, c) ← headerDigit? c
    if indent.isNone then pure ({}, c)
    else
      let (chomp, c) := headerSign c
      pure ({ chomp := chomp.getD .clip, indent }, c)

/-- The empty lines before a line of a block scalar. -/
structure EmptyLines where
  breaks : List Char
  /-- The deepest column that blanks reached. -/
  deepest : Nat
  cursor : Cursor

/-- Step over the indentation of a line of a block scalar, up to the given column, or over
    all spaces when the indentation is still to be found. -/
def skipIndent (indent : Option Nat) (c : Cursor) : Cursor :=
  match indent with
  | none => c.skipWhile (· == ' ')
  | some n => c.skip ((c.rest.take (n - c.column)).takeWhile (· == ' ')).length

/-- Read empty lines.  A tab where indentation is still to be found is an error. -/
def emptyLines? (indent : Option Nat) : Nat → List Char → Nat → Cursor → Option EmptyLines
  | 0, _, _, _ => none
  | fuel + 1, breaks, deepest, c =>
    let c := skipIndent indent c
    let deepest := max deepest c.column
    if indent.all (c.column < ·) && c.rest.head? == some '\t' then none
    else if c.rest.head?.any isBreak then
      emptyLines? indent fuel (breaks ++ c.breakText) deepest c.skipBreak
    else some ⟨breaks, deepest, c⟩

/-- What is known between two lines of a block scalar. -/
structure BlockState where
  text : List Char := []
  /-- The end of the last line. -/
  ending : List Char := []
  /-- The empty lines after it. -/
  breaks : List Char
  /-- The last line began with a blank. -/
  blankLine : Bool := false

/-- Read the lines of a block scalar.  When folded, the end of a line becomes a space, unless
    it or the next line begins with a blank, or empty lines follow. -/
def blockLines? (folded : Bool) (indent : Nat) :
    Nat → BlockState → Cursor → Option (BlockState × Cursor)
  | 0, _, _ => none
  | fuel + 1, s, c =>
    if c.column != indent || c.rest.isEmpty then some (s, c)
    else do
      let blank := c.rest.head?.any isBlank
      let joined :=
        if folded && s.ending == ['\n'] && !s.blankLine && !blank then
          if s.breaks.isEmpty then [' '] else []
        else s.ending
      let line := c.rest.takeWhile (!isBreak ·)
      let c := c.skip line.length
      let text := s.text ++ joined ++ s.breaks ++ line
      let ending := c.breakText
      let lines ← emptyLines? (some indent) (c.rest.length + 1) [] 0 c.skipBreak
      blockLines? folded indent fuel { text, ending, breaks := lines.breaks, blankLine := blank }
        lines.cursor

/-- Read a block scalar, the cursor at its `|` or `>`.  Without an indentation in the header
    the deepest of the first empty lines, or the first line of text, gives it. -/
def blockScalar? (folded : Bool) (parentIndent : Int) (c : Cursor) :
    Option (List Char × Cursor) := do
  let (header, c) ← blockHeader? (c.skip 1)
  let c ← c.finishLine?
  let given : Option Nat := header.indent.map (parentIndent.toNat + ·)
  let lines ← emptyLines? given (c.rest.length + 1) [] 0 c
  let indent := given.getD (max lines.deepest (max (parentIndent + 1).toNat 1))
  let (s, c) ← blockLines? folded indent (lines.cursor.rest.length + 1)
    { breaks := lines.breaks } lines.cursor
  match header.chomp with
  | .strip => pure (s.text, c)
  | .clip => pure (s.text ++ s.ending, c)
  | .keep => pure (s.text ++ s.ending ++ s.breaks, c)

end TaintReview.Yaml
