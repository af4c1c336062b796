import TaintReview.Stage
import TaintReview.Json.Decode

namespace TaintReview

/-!
# Errors

Two kinds of errors: what the services behind a review report (the code graph, the
completion service), and what a review itself reports.  The category of a review's error
says whether it ends the run or is recovered from at the item that failed.
-/

/-! ### Errors of the services -/

/-- What a service failed at. -/
inductive ServiceErrorKind where
  | query
  | write
  | completion
  | serialization
  | unavailable
  | invalidRecord
deriving DecidableEq, Repr

/-- The kind's name. -/
def ServiceErrorKind.tag : ServiceErrorKind → String
  | .query => "query"
  | .write => "write"
  | .completion => "completion"
  | .serialization => "serialization"
  | .unavailable => "unavailable"
  | .invalidRecord => "invalid_record"

/-- The kind of a name. -/
def ServiceErrorKind.ofTag? (s : String) : Option ServiceErrorKind :=
  [.query, .write, .completion, .serialization, .unavailable, .invalidRecord].find? (·.tag == s)

/-- An error of a service, with the text of what caused it when that is known. -/
structure ServiceError where
  kind : ServiceErrorKind
  detail : String
  cause : Option String := none
deriving DecidableEq, Repr

namespace ServiceError

/-- The text of the error. -/
def message (e : ServiceError) : String := s!"[{e.kind.tag}] {e.detail}"

/-- A query failed. -/
def query (detail : String) : ServiceError := { kind := .query, detail }

/-- A write failed. -/
def write (detail : String) : ServiceError := { kind := .write, detail }

/-- A completion failed. -/
def completion (detail : String) : ServiceError := { kind := .completion, detail }

/-- A service cannot be reached. -/
def unavailable (detail : String) : ServiceError := { kind := .unavailable, detail }

/-- A row lacks a column of the expected kind. -/
def invalidRecord (column expected : String) : ServiceError :=
  { kind := .invalidRecord, detail := s!"column '{column}' missing or not {expected}" }

/-- A text that should be JSON is not. -/
def notJson (cause : String) : ServiceError :=
  { kind := .serialization, detail := s!"JSON error: {cause}", cause := some cause }

end ServiceError

/-! ### Errors of a review -/

/-- An error of a review. -/
inductive ReviewError where
  /-- The settings or the request cannot be used. -/
  | configuration (detail : String)
  /-- A completion service is asked for and none is there. -/
  | completionMissing
  /-- The graph does not know the investigation. -/
  | investigationNotFound (id : String)
  /-- The run was cancelled before it entered the stage. -/
  | cancelled (stage : Stage)
  /-- A stage was entered out of order. -/
  | invalidTransition (current target : String)
  /-- The graph failed. -/
  | graph (error : ServiceError)
  /-- The completion service failed. -/
  | completion (error : ServiceError)
  /-- A value does not fit its type. -/
  | serialization (detail : String)
  /-- A text cannot be read. -/
  | parse (detail : String)
  /-- A settings text is no YAML of settings. -/
  | yaml
  /-- A settings file cannot be read. -/
  | io (detail : String)
deriving DecidableEq, Repr

/-- What an error means for the run. -/
inductive ErrorCategory where
  | configuration
  | lookup
  | candidate
  | synthesis
  | persistence
  | cancelled
deriving DecidableEq, Repr

namespace ErrorCategory

/-- All categories. -/
def all : List ErrorCategory :=
  [.configuration, .lookup, .candidate, .synthesis, .persistence, .cancelled]

/-- The category's name. -/
def tag : ErrorCategory → String
  | .configuration => "configuration"
  | .lookup => "lookup"
  | .candidate => "candidate"
  | .synthesis => "synthesis"
  | .persistence => "persistence"
  | .cancelled => "cancelled"

/-- Does an error of this category end the run? -/
def isFatal : ErrorCategory → Bool
  | .configuration | .lookup | .cancelled => true
  | .candidate | .synthesis | .persistence => false

end ErrorCategory

namespace ReviewError

/-- The category of an error.  An error of the graph is seen at the top of a run only when
    the investigation is looked up. -/
def category : ReviewError → ErrorCategory
  | .configuration _ | .completionMissing | .yaml | .io _ | .invalidTransition _ _ =>
    .configuration
  | .investigationNotFound _ | .graph _ => .lookup
  | .cancelled _ => .cancelled
  | .completion _ | .serialization _ | .parse _ => .candidate

/-- The text of the error. -/
def message : ReviewError → String
  | .configuration detail => s!"Configuration error: {detail}"
  | .completionMissing => "Completion service required but not configured"
  | .investigationNotFound id => s!"Investigation not found: {id}"
  | .cancelled stage => s!"Run cancelled before stage {stage.tag}"
  | .invalidTransition current target => s!"Invalid stage transition: {current} -> {target}"
  | .graph e => s!"Graph error: {e.message}"
  | .completion e => s!"Completion error: {e.message}"
  | .serialization detail => s!"Serialization error: {detail}"
  | .parse detail => s!"Parse error: {detail}"
  | .yaml => "YAML error"
  | .io detail => s!"IO error: {detail}"

/-- A value that cannot be decoded. -/
def ofDecode (e : DecodeError) : ReviewError := .serialization e.message

end ReviewError

/-! ### Reading names strictly -/

/-- Take what a name stands for, or report the name. -/
def named {α : Type} (what : String) (text : String) : Option α → Except ReviewError α
  | some a => .ok a
  | none => .error (.parse s!"Invalid {what}: {text}")

/-- The stage of a name. -/
def Stage.parse (s : String) : Except ReviewError Stage := named "stage" s (Stage.ofTag? s)

/-- The error category of a name. -/
def ErrorCategory.parse (s : String) : Except ReviewError ErrorCategory :=
  named "error category" s (all.find? (·.tag == s))

/-- A stage in a JSON value. -/
def Stage.decode : Decoder Stage :=
  Decode.tag fun s =>
    match Stage.ofTag? s with
    | some stage => .ok stage
    | none => .error (.unknownTag s (Stage.all.map Stage.tag))

/-- An error category in a JSON value. -/
def ErrorCategory.decode : Decoder ErrorCategory :=
  Decode.tag fun s =>
    match all.find? (·.tag == s) with
    | some category => .ok category
    | none => .error (.unknownTag s (all.map tag))

/-! ### Failures a run recovers from -/

/-- How many items failed without ending the run, by category. -/
structure RecoveredFailures where
  candidate : Nat := 0
  synthesis : Nat := 0
  persistence : Nat := 0
deriving DecidableEq, Repr

namespace RecoveredFailures

/-- Count failures of a category.  Fatal categories end the run and are not counted. -/
def add (f : RecoveredFailures) (count : Nat) : ErrorCategory → RecoveredFailures
  | .candidate => { f with candidate := f.candidate + count }
  | .synthesis => { f with synthesis := f.synthesis + count }
  | .persistence => { f with persistence := f.persistence + count }
  | .configuration | .lookup | .cancelled => f

/-- All failures. -/
def total (f : RecoveredFailures) : Nat := f.candidate + f.synthesis + f.persistence

/-- The counts as members. -/
def toFields (f : RecoveredFailures) : Fields :=
  [("candidate", .ofNat f.candidate), ("persistence", .ofNat f.persistence),
   ("synthesis", .ofNat f.synthesis)]

end RecoveredFailures

end TaintReview
