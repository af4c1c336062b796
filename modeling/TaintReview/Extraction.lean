import TaintReview.FlowPath
import TaintReview.Lexicon.Keywords
import TaintReview.Text.Basic
import TaintReview.Text.Lower

namespace TaintReview.Extraction

open Text

/-!
# Flows in free text

Completions describe flows in lines that start with a marker, such as `Source:` or `Impact:`.
The markers fill a draft; as soon as the draft knows a source and a sink it becomes a path
and a new draft begins.  A text that strays from the layout yields fewer paths and never an
error.
-/

/-! ### Marker lines -/

/-- What a line may announce. -/
inductive Marker where
  | source
  | sink
  | vulnerability
  | description
  | recommendation
  | impact
deriving DecidableEq, Repr

/-- All markers. -/
def Marker.all : List Marker :=
  [.source, .sink, .vulnerability, .description, .recommendation, .impact]

/-- The marker's word. -/
def Marker.word : Marker → List Char
  | .source => "source".toList
  | .sink => "sink".toList
  | .vulnerability => "vulnerability".toList
  | .description => "description".toList
  | .recommendation => "recommendation".toList
  | .impact => "impact".toList

/-- The rest of a text after a word in any case that lower-cases to it. -/
def afterWord : List Char → List Char → Option (List Char)
  | [], cs => some cs
  | _ :: _, [] => none
  | w :: ws, c :: cs =>
    if Pattern.sameLetter w c && lowerChar c == [w] then afterWord ws cs else none

/-- The marker at the front of a text and what follows it. -/
def takeMarker (cs : List Char) : Option (Marker × List Char) :=
  Marker.all.findSome? fun m => (afterWord m.word cs).map (m, ·)

/-- The rest of a line after the bullet or the number that may open it. -/
def afterBullet : List Char → List Char
  | [] => []
  | c :: cs =>
    if c == '-' || c == '*' || c == '•' then cs
    else if isDecimal c then
      match cs.dropWhile isDecimal with
      | '.' :: rest => rest
      | ')' :: rest => rest
      | _ => c :: cs
    else c :: cs

/-- The rest of a line after an optional plural ending. -/
def afterPlural : List Char → List Char
  | [] => []
  | c :: cs => if Pattern.sameLetter 's' c then cs else c :: cs

/-- Is the character an asterisk? -/
def isStar (c : Char) : Bool := c == '*'

/-- The value of a marker: no blanks and no asterisks around it. -/
def markerValue (cs : List Char) : List Char := trim (strip isStar (trim cs))

/-- The marker and the value of a line, when it is a marker line: an optional bullet, the
    marker's word, possibly in bold and in the plural, and a colon. -/
def markerLine? (line : List Char) : Option (Marker × List Char) :=
  let start := (afterBullet (line.dropWhile isBlank)).dropWhile isBlank
  match takeMarker (start.dropWhile isStar) with
  | none => none
  | some (marker, rest) =>
    match ((afterPlural rest).dropWhile isStar).dropWhile isBlank with
    | ':' :: value => some (marker, markerValue value)
    | _ => none

/-! ### Endpoints by name -/

/-- The text without call parentheses. -/
def dropCalls : List Char → List Char
  | [] => []
  | '(' :: ')' :: cs => dropCalls cs
  | c :: cs => c :: dropCalls cs

/-- A value as names are compared with it. -/
def comparable (value : List Char) : List Char :=
  lower (trim (dropCalls (value.filter (· != '`'))))

/-- Of two endpoints, the one with the longer name in bytes; of equally long ones the later. -/
def longer (best : Option Endpoint) (e : Endpoint) : Option Endpoint :=
  match best with
  | none => some e
  | some b => if e.name.utf8ByteSize < b.name.utf8ByteSize then some b else some e

/-- The endpoint that a value names: the first whose name it is, else the one with the longest
    name that it contains. -/
def resolve (value : List Char) (endpoints : List Endpoint) : Option Endpoint :=
  let v := comparable value
  if v.isEmpty then none
  else
    match endpoints.find? fun e => lower e.name.toList == v with
    | some e => some e
    | none =>
      (endpoints.filter fun e => !e.name.isEmpty && contains (lower e.name.toList) v).foldl
        longer none

/-! ### Drafts -/

/-- What the markers since the last path have said. -/
structure Draft where
  source : Option Endpoint := none
  sink : Option Endpoint := none
  vulnerability : Option String := none
  impact : Option Impact := none
  description : Option String := none
  recommendations : List String := []

/-- The draft after one more marker.  A name that is no endpoint's leaves it as it was. -/
def Draft.mark (sources sinks : List Endpoint) (d : Draft) (marker : Marker)
    (value : List Char) : Draft :=
  match marker with
  | .source => { d with source := (resolve value sources).or d.source }
  | .sink => { d with sink := (resolve value sinks).or d.sink }
  | .vulnerability => { d with vulnerability := some (String.ofList value) }
  | .impact => { d with impact := Impact.ofLabel? (String.ofList value) }
  | .description => { d with description := some (String.ofList value) }
  | .recommendation =>
    if value.isEmpty then d
    else { d with recommendations := d.recommendations ++ [String.ofList value] }

/-- The path of a draft that knows its source and its sink. -/
def Draft.path? (d : Draft) : Option FlowPath :=
  match d.source, d.sink with
  | some source, some sink =>
    let vulnerabilityType :=
      match d.vulnerability with
      | some v => if v.isEmpty then (Lexicon.profile sink.category).vulnerabilityType else v
      | none => (Lexicon.profile sink.category).vulnerabilityType
    let description := d.description.getD ""
    some
      { source
        sink
        vulnerabilityType
        impact := d.impact.getD .medium
        description
        recommendations := d.recommendations
        confidence := clampConfidence (Lexicon.hedgeConfidence description)
        metadata := Metadata.empty.insert "extraction" (.string "marker_lines") }
  | _, _ => none

/-- The paths of the lines to come, given the draft so far. -/
def flowsFrom (sources sinks : List Endpoint) (d : Draft) : List (List Char) → List FlowPath
  | [] => []
  | line :: lines =>
    match markerLine? line with
    | none => flowsFrom sources sinks d lines
    | some (marker, value) =>
      let d := d.mark sources sinks marker value
      match d.path? with
      | some path => path :: flowsFrom sources sinks {} lines
      | none => flowsFrom sources sinks d lines

/-- The flows that a text describes, between the given endpoints. -/
def flows (text : String) (sources sinks : List Endpoint) : List FlowPath :=
  flowsFrom sources sinks {} (lines text.toList)

end TaintReview.Extraction
