import TaintReview.Yaml.Value

namespace TaintReview.Yaml

open Decimal

/-!
# Writing scalars

A string is written plain where that reads back as the same string, and in the lightest
quotes that can hold it otherwise.  A text with line feeds becomes a literal block unless
its blanks or its characters do not allow that.
-/

/-! ### What a text looks like -/

/-- The number of a text with a minus sign and digits of another base. -/
def negativeBased? : List Char → Option Nat
  | '-' :: rest => (basedDigits? rest).bind fun (base, digits) => digitsIn? base digits
  | _ => none

/-- Would the text, written plain, be read as an integer? -/
def looksInteger (text : List Char) : Bool :=
  (unsignedOf? text).any (· < Nat.pow 2 128) || (negativeBased? text).any (· ≤ Nat.pow 2 127)
    || (!isZeroPadded text && text.head? == some '-'
      && (digitsIn? 10 text.tail).any (· ≤ Nat.pow 2 127))

/-- Would the text, written plain, be read as something else than a string?  Digits behind a
    zero are among them, since readers disagree on those. -/
def looksTyped (text : List Char) : Bool :=
  text.isEmpty || isNullText text || (boolOf? text).isSome || looksInteger text
    || isZeroPadded text || (floatOf? text).isSome

/-! ### Which styles can hold a text -/

/-- A character that is written as it is. -/
def isPrintable (c : Char) : Bool :=
  c == '\n' || (' ' ≤ c && c ≤ '~')
    || ('\u00a0' ≤ c && c ≤ '\ufffd' && c != byteOrderMark) || 0x10000 ≤ c.toNat

/-- Does some character satisfy the first test and the one behind it the second? -/
def hasPair (p q : Char → Bool) : List Char → Bool
  | a :: b :: rest => (p a && q b) || hasPair p q (b :: rest)
  | _ => false

/-- Is there a colon before a blank, a line's end or the end of the text, or a number sign
    behind a blank or a line's end? -/
def hasInnerIndicator : List Char → Bool
  | [] => false
  | c :: rest =>
    (c == ':' && atGap rest) || ((isBlank c || isBreak c) && rest.head? == some '#')
      || hasInnerIndicator rest

/-- Does the text begin with what is structure at the beginning of a plain scalar? -/
def hasLeadingIndicator : List Char → Bool
  | [] => false
  | c :: rest =>
    "#,[]{}&*!|>'\"%@`".toList.contains c || ((c == '?' || c == ':' || c == '-') && atGap rest)

/-- Can the text be written plain? -/
def fitsPlain (text : List Char) : Bool :=
  let atEdge (c : Char) : Bool := c == ' ' || isBreak c
  !text.head?.any atEdge && !text.getLast?.any atEdge && !text.any isBreak
    && text.all isPrintable && !hasLeadingIndicator text && !hasInnerIndicator text
    && !(["---".toList, "...".toList].contains (text.take 3))

/-- Can the text stand in single quotes? -/
def fitsSingleQuotes (text : List Char) : Bool :=
  text.all isPrintable && !hasPair isBreak (· == ' ') text && !hasPair (· == ' ') isBreak text

/-- Can the text be a literal block? -/
def fitsLiteral (text : List Char) : Bool :=
  text.all isPrintable && text.getLast? != some ' ' && !hasPair (· == ' ') isBreak text

/-- The style of a string. -/
def styleOf (text : List Char) : Style :=
  if text.contains '\n' then (if fitsLiteral text then .literal else .doubleQuoted)
  else if !looksTyped text && fitsPlain text then .plain
  else if fitsSingleQuotes text then .singleQuoted
  else .doubleQuoted

/-! ### Writing in a style -/

/-- The indentation of a line. -/
def indentation (n : Nat) : List Char := List.replicate n ' '

/-- Write a text with its own line ends, each line but the first indented.  Nothing is put on
    empty lines; with `closing` the last line is indented even if it is empty. -/
def indented (n : Nat) (closing : Bool) : Bool → List Char → List Char
  | begun, [] => if begun && closing then indentation n else []
  | begun, c :: rest =>
    if isBreak c then c :: indented n closing true rest
    else (if begun then indentation n else []) ++ c :: indented n closing false rest

/-- Double each single quote. -/
def doubleQuotes (text : List Char) : List Char :=
  text.flatMap fun c => if c == '\'' then ['\'', '\''] else [c]

/-- The hexadecimal digits of a number, in capitals and with leading zeros. -/
def hexDigits (width n : Nat) : List Char :=
  let digits := (Nat.toDigits 16 n).map Char.toUpper
  List.replicate (width - digits.length) '0' ++ digits

/-- The letters of escapes that are written. -/
def writtenEscapes : List (Char × Char) :=
  [('\x00', '0'), ('\x07', 'a'), ('\x08', 'b'), ('\t', 't'), ('\n', 'n'), ('\x0b', 'v'),
   ('\x0c', 'f'), ('\r', 'r'), ('\x1b', 'e'), ('"', '"'), ('\\', '\\'), (nextLine, 'N'),
   (lineSeparator, 'L'), (paragraphSeparator, 'P')]

/-- A character in double quotes. -/
def escaped (c : Char) : List Char :=
  if isPrintable c && !isBreak c && c != '"' && c != '\\' then [c]
  else
    match writtenEscapes.lookup c with
    | some letter => ['\\', letter]
    | none =>
      if c.toNat ≤ 0xff then '\\' :: 'x' :: hexDigits 2 c.toNat
      else if c.toNat ≤ 0xffff then '\\' :: 'u' :: hexDigits 4 c.toNat
      else '\\' :: 'U' :: hexDigits 8 c.toNat

/-- The header of a literal block: an indentation when the text itself begins with blanks,
    and a sign unless it ends in exactly one line's end. -/
def literalHeader (text : List Char) : List Char :=
  let indent := if text.head?.any (fun c => c == ' ' || isBreak c) then ['2'] else []
  let sign :=
    match text.reverse with
    | [] => ['-']
    | last :: before =>
      if !isBreak last then ['-']
      else if before.isEmpty || before.head?.any isBreak then ['+']
      else []
  '|' :: indent ++ sign

/-- A string as it is written where further lines are indented by `n`, up to the end of its
    last line. -/
def stringText (n : Nat) (text : List Char) : List Char :=
  match styleOf text with
  | .plain => text ++ ['\n']
  | .singleQuoted => '\'' :: doubleQuotes (indented n true false text) ++ ['\'', '\n']
  | .literal | .folded =>
    literalHeader text ++ '\n' :: indented n false true text
      ++ (if text.getLast?.any isBreak then [] else ['\n'])
  | .doubleQuoted => '"' :: text.flatMap escaped ++ ['"', '\n']

/-! ### Numbers -/

/-- Double-precision numbers are positional from `0.00001` up to below `10 ^ 16`. -/
def floatLayout : Layout where
  leastPoint := -5
  greatestPoint := 16
  plusSign := false
  pointZero := true
  tie := .toEven

/-- Single-precision numbers are positional from `0.000001` up to below `10 ^ 13`. -/
def float32Layout : Layout where
  leastPoint := -6
  greatestPoint := 13
  plusSign := false
  pointZero := true
  tie := .toEven

/-- How values that are no numbers are written. -/
def specials : Specials := { nan := ".nan", infinity := ".inf" }

/-- The text of a double-precision number. -/
def floatText (x : Float) : String := floatLayout.render specials (.ofFloat x)

/-- The text of a single-precision number. -/
def float32Text (x : Float32) : String := float32Layout.render specials (.ofFloat32 x)

end TaintReview.Yaml
