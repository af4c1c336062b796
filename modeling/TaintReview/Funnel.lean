import TaintReview.Graph.Statements
import TaintReview.Session
import TaintReview.Settings
import TaintReview.Endpoint
import TaintReview.Text.Lower

namespace TaintReview

open Text

/-!
# Funnels

A funnel narrows the graph to entities that might be sources or sinks, by cheap means.  It
never judges and never fails: a query that fails offers no candidates.
-/

/-- A way to find candidates in an investigation. -/
structure Funnel where
  name : String
  candidates : Role → String → SessionM (List Candidate)

namespace Funnel

/-! ### Keywords -/

/-- Lower-case and trim keywords; blank ones and repetitions are dropped. -/
def normalizeFrom (seen : List String) : List String → List String
  | [] => []
  | keyword :: rest =>
    let keyword := lowered (trimmed keyword)
    if keyword.isEmpty || seen.contains keyword then normalizeFrom seen rest
    else keyword :: normalizeFrom (keyword :: seen) rest

/-- The keywords as they are looked for, in the order in which they first occur. -/
def normalize (keywords : List String) : List String := normalizeFrom [] keywords

/-- The statement that finds candidates of a role. -/
def statement : Role → String
  | .source => Statement.keywordSourceCandidates
  | .sink => Statement.keywordSinkCandidates

/-- The keywords of a role. -/
def keywords (settings : FunnelSettings) : Role → List String
  | .source => normalize settings.sourceKeywords
  | .sink => normalize settings.sinkKeywords

/-! ### Rows -/

/-- The candidates of rows; a row without an identity is passed over. -/
def usable : List Record → SessionM (List Candidate)
  | [] => pure []
  | row :: rest => do
    match Candidate.ofRecord row with
    | .ok candidate => return candidate :: (← usable rest)
    | .error e =>
      Session.note .warn s!"KeywordFunnel: skipping malformed row: {e.message}"
      usable rest

/-- Look for candidates by keyword. -/
def byKeyword (settings : FunnelSettings) (role : Role) (investigation : String) :
    SessionM (List Candidate) := do
  let rows ← Session.runQuery (statement role)
    [("investigation_id", .string investigation),
     ("keywords", .ofList .string (keywords settings role)),
     ("limit", .ofOption .ofUInt64 settings.limit)]
  match rows with
  | .ok rows =>
    let found ← usable rows
    Session.note .debug
      s!"KeywordFunnel: {found.length} {role.noun} candidates for investigation {investigation}"
    pure found
  | .error e =>
    let cause := (ReviewError.graph e).message
    Session.note .error
      s!"KeywordFunnel: {role.noun} query failed for investigation {investigation}: {cause}"
    pure []

/-- The funnel that looks for keywords in summaries and names. -/
def keyword (settings : FunnelSettings) : Funnel where
  name := "keyword"
  candidates := byKeyword settings

end Funnel

end TaintReview
