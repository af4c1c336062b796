import TaintReview.Error
import TaintReview.Json.Metadata

namespace TaintReview

/-!
# Walking through the stages

A tracker knows the stage of a run and how long each earlier stage took.  It only moves to
the next stage; any other request is refused and changes nothing.
-/

/-- The stage of a run and the times of the stages before it, in milliseconds. -/
structure Tracker where
  current : Stage := .setup
  timings : List (Stage × UInt64) := []
deriving DecidableEq, Repr

namespace Tracker

/-- The tracker once a stage is entered; `elapsed` is the time spent in the one before. -/
def entered (t : Tracker) (target : Stage) (elapsed : UInt64) : Tracker :=
  { current := target, timings := t.timings ++ [(t.current, elapsed)] }

/-- Ask for a stage, `elapsed` being the time spent in the current one: the answer, and the
    tracker after it. -/
def advance (t : Tracker) (target : Stage) (elapsed : UInt64) : Except ReviewError Unit × Tracker :=
  if t.current.next? = some target then (.ok (), t.entered target elapsed)
  else (.error (.invalidTransition t.current.tag target.tag), t)

/-- Is the run over? -/
def isDone (t : Tracker) : Bool := t.current == .done

/-- The times by the names of the stages. -/
def timingFields (t : Tracker) : Metadata :=
  .ofFields (t.timings.map fun e => (e.1.tag, .ofUInt64 e.2))

/-- What is logged when a stage is left. -/
def leaving (t : Tracker) (target : Stage) (elapsed : UInt64) : String :=
  s!"Stage {t.current.tag} finished in {elapsed}ms, entering {target.tag}"

variable {t : Tracker} {target : Stage}

/-- The stage that is entered is the current one. -/
@[simp] theorem current_entered (t : Tracker) (target : Stage) (elapsed : UInt64) :
    (t.entered target elapsed).current = target := rfl

/-- The next stage is entered. -/
theorem advance_of_next (h : t.current.next? = some target) (elapsed : UInt64) :
    t.advance target elapsed = (.ok (), t.entered target elapsed) :=
  if_pos h

/-- Any other stage is refused, and the tracker stays as it is. -/
theorem advance_of_not_next (h : t.current.next? ≠ some target) (elapsed : UInt64) :
    t.advance target elapsed = (.error (.invalidTransition t.current.tag target.tag), t) :=
  if_neg h

end Tracker

end TaintReview
