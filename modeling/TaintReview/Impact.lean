import TaintReview.Error
import TaintReview.Text.Basic
import TaintReview.Text.Lower

namespace TaintReview

open Text

/-!
# Impact levels

A coarse severity that ranks the flows of a review.
-/

/-- How much harm a flow may do. -/
inductive Impact where
  | high
  | medium
  | low
  | informational
deriving DecidableEq, Repr, Inhabited

namespace Impact

/-- All levels, the gravest first. -/
def all : List Impact := [.high, .medium, .low, .informational]

/-- The level's name. -/
def tag : Impact → String
  | .high => "high"
  | .medium => "medium"
  | .low => "low"
  | .informational => "informational"

/-- The place of a level in the order of severity. -/
def index : Impact → Nat
  | .high => 0
  | .medium => 1
  | .low => 2
  | .informational => 3

/-- The level of a name. -/
def ofTag? (s : String) : Option Impact := all.find? (·.tag == s)

/-- The level of a name; any other text is an error. -/
def parse (s : String) : Except ReviewError Impact := named "impact level" s (ofTag? s)

/-- How free text begins when it names a level. -/
def labels : List (Impact × List String) :=
  [(.high, ["crit", "high"]), (.medium, ["med", "moderate"]), (.low, ["low"]),
   (.informational, ["info", "none"])]

/-- The level that free text such as "Critical" or "info" names by its beginning. -/
def ofLabel? (label : String) : Option Impact :=
  let cs := lower (trim label.toList)
  (labels.find? fun entry => entry.2.any fun start => start.toList.isPrefixOf cs).map (·.1)

/-- A level in a JSON value. -/
def decode : Decoder Impact :=
  Decode.tag fun s =>
    match ofTag? s with
    | some impact => .ok impact
    | none => .error (.unknownTag s (all.map tag))

/-- The level as a JSON value. -/
def toJson (i : Impact) : Json := .string i.tag

/-- Every level is found by its name. -/
@[simp] theorem ofTag?_tag (i : Impact) : ofTag? i.tag = some i := by
  cases i <;> rfl

end Impact

end TaintReview
