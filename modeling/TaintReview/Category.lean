import TaintReview.Error

namespace TaintReview

/-!
# Categories of sources and sinks

A category names the channel through which data enters or leaves a program.  `unknown` is a
category of its own: the role is certain and the channel is not.
-/

/-- The channel of a source or a sink. -/
inductive Category where
  | userInput
  | databaseRead
  | fileRead
  | networkReceive
  | environmentVariable
  | configuration
  | databaseWrite
  | fileWrite
  | networkSend
  | commandExecution
  | markupRendering
  | logging
  | responseGeneration
  | unknown
deriving DecidableEq, Repr

namespace Category

/-- The channels of sources. -/
def sourceKinds : List Category :=
  [.userInput, .databaseRead, .fileRead, .networkReceive, .environmentVariable, .configuration]

/-- The channels of sinks. -/
def sinkKinds : List Category :=
  [.databaseWrite, .fileWrite, .networkSend, .commandExecution, .markupRendering, .logging,
   .responseGeneration]

/-- All categories. -/
def all : List Category := sourceKinds ++ sinkKinds ++ [.unknown]

/-- The category's name. -/
def tag : Category → String
  | .userInput => "user_input"
  | .databaseRead => "database_read"
  | .fileRead => "file_read"
  | .networkReceive => "network_receive"
  | .environmentVariable => "environment_variable"
  | .configuration => "configuration"
  | .databaseWrite => "database_write"
  | .fileWrite => "file_write"
  | .networkSend => "network_send"
  | .commandExecution => "command_execution"
  | .markupRendering => "markup_rendering"
  | .logging => "logging"
  | .responseGeneration => "response_generation"
  | .unknown => "unknown"

/-- The category of a name. -/
def ofTag? (s : String) : Option Category := all.find? (·.tag == s)

/-- The category of a name; any other text is an error. -/
def parse (s : String) : Except ReviewError Category := named "category" s (ofTag? s)

/-- Is it a channel of sources? -/
def isSourceKind (c : Category) : Bool := sourceKinds.contains c

/-- Is it a channel of sinks? -/
def isSinkKind (c : Category) : Bool := sinkKinds.contains c

/-- A category in a JSON value; a name that is not known is the unknown category. -/
def decode : Decoder Category := Decode.tag fun s => .ok ((ofTag? s).getD .unknown)

/-- The category as a JSON value. -/
def toJson (c : Category) : Json := .string c.tag

/-- Every category is found by its name. -/
@[simp] theorem ofTag?_tag (c : Category) : ofTag? c.tag = some c := by
  cases c <;> rfl

end Category

end TaintReview
