namespace TaintReview

/-!
# Stages of a review

A review runs through seven stages, each entered from the one before it.
-/

/-- A stage of a review. -/
inductive Stage where
  | setup
  | queryCandidates
  | confirmCandidates
  | synthesizeFlows
  | persist
  | report
  | done
deriving DecidableEq, Repr

namespace Stage

/-- All stages, in the order of a run. -/
def all : List Stage :=
  [.setup, .queryCandidates, .confirmCandidates, .synthesizeFlows, .persist, .report, .done]

/-- The stage's name. -/
def tag : Stage → String
  | .setup => "setup"
  | .queryCandidates => "query_candidates"
  | .confirmCandidates => "confirm_candidates"
  | .synthesizeFlows => "synthesize_flows"
  | .persist => "persist"
  | .report => "report"
  | .done => "done"

/-- The stage of a name. -/
def ofTag? (s : String) : Option Stage := all.find? (·.tag == s)

/-- The only stage that may follow. -/
def next? : Stage → Option Stage
  | .setup => some .queryCandidates
  | .queryCandidates => some .confirmCandidates
  | .confirmCandidates => some .synthesizeFlows
  | .synthesizeFlows => some .persist
  | .persist => some .report
  | .report => some .done
  | .done => none

/-- The place of a stage in the order of a run. -/
def index : Stage → Nat
  | .setup => 0
  | .queryCandidates => 1
  | .confirmCandidates => 2
  | .synthesizeFlows => 3
  | .persist => 4
  | .report => 5
  | .done => 6

/-- A stage is named by its tag and by no other text. -/
theorem ofTag?_eq_some_iff {s : String} {stage : Stage} :
    ofTag? s = some stage ↔ s = stage.tag := by
  constructor
  · intro h
    have := List.find?_some h
    simpa using (beq_iff_eq.mp this).symm
  · rintro rfl
    cases stage <;> rfl

/-- The stage after another one is the next in the order of a run. -/
theorem index_of_next? {a b : Stage} (h : a.next? = some b) : b.index = a.index + 1 := by
  cases a <;> simp only [next?, Option.some.injEq, reduceCtorEq] at h <;> subst h <;> rfl

end Stage

end TaintReview
