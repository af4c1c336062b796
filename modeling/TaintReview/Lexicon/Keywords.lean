import TaintReview.Endpoint
import TaintReview.Lexicon.Tables
import TaintReview.Text.Lower
import TaintReview.Text.Pattern

namespace TaintReview.Lexicon

open Text

/-!
# Keywords and claims in texts

Which keywords a text mentions, and the category that they speak for.  A keyword counts as a
whole word, possibly inflected; the words of a longer keyword may stand any blanks apart.

Also whether a text claims that the code in question is a source or a sink, and how sure it
sounds.  A claim is a verb, an optional hedge, an article, an optional qualifier and the
role, so that "is not a source" is none.
-/

/-! ### Keywords -/

/-- The endings with which a keyword still counts. -/
def inflections : List String := ["s", "es", "ed", "ing"]

/-- A keyword, its words apart, with an optional ending. -/
def keywordPattern (keyword : String) : Pattern :=
  .seq (.spaced ((words keyword.toList).map .literal))
    (.optional (.oneOf (inflections.map fun s => .literal s.toList)))

/-- Does the text mention the keyword as whole words? -/
def mentions (text : List Char) (keyword : String) : Bool := (keywordPattern keyword).occursIn text

/-- The keywords that a text mentions, in their order. -/
def matchedKeywords (text : List Char) (keywords : List String) : List String :=
  keywords.filter (mentions text)

/-- The keywords of a role, by category. -/
def keywordTable : Role → CategoryTable
  | .source => sourceKeywords
  | .sink => sinkKeywords

/-- The first category of which the text mentions a keyword, in any case. -/
def firstMatchingCategory (text : String) (table : CategoryTable) : Option Category :=
  let text := lower text.toList
  (table.find? fun entry => entry.2.any (mentions text)).map (·.1)

/-- The better of the category found so far and the next: more keywords win, and of equally
    many the earlier category. -/
def better (text : List Char) (best : Option (Category × Nat)) (entry : Category × List String) :
    Option (Category × Nat) :=
  let hits := (matchedKeywords text entry.2).length
  match best with
  | none => if 0 < hits then some (entry.1, hits) else none
  | some (category, top) => if top < hits then some (entry.1, hits) else some (category, top)

/-- The category of which the text mentions the most keywords, in any case, and their
    number. -/
def bestMatchingCategory (text : String) (table : CategoryTable) : Option (Category × Nat) :=
  table.foldl (better (lower text.toList)) none

/-! ### Claims and hedges -/

/-- Phrases in any case, their words apart. -/
def phrases (texts : List String) : Pattern :=
  .oneOf (texts.map fun text => .spaced ((words text.toList).map .folded))

/-- A pattern and the gap after it, or nothing. -/
def optionalWord (p : Pattern) : Pattern := .optional (.seq p .gap)

/-- A role in the singular or the plural. -/
def roleNoun (role : Role) : Pattern :=
  .seq (.folded role.noun.toList) (.optional (.folded ['s']))

/-- The claim of a role: verb, optional hedge, article, optional qualifier, role. -/
def claimPattern (role : Role) : Pattern :=
  .seq (phrases claimVerbs) <| .seq .gap <|
  .seq (optionalWord (phrases (hedges.map (·.1)))) <|
  .seq (.seq (.folded ['a']) (.optional (.folded ['n']))) <| .seq .gap <|
  .seq (optionalWord (phrases claimQualifiers)) (roleNoun role)

/-- Does the text claim the role? -/
def claims (role : Role) (text : String) : Bool := (claimPattern role).occursIn text.toList

/-- The confidence of the strongest hedge in the text. -/
def hedgeConfidence (text : String) : Float :=
  let text := lower text.toList
  match hedges.find? fun hedge => (Pattern.literal hedge.1.toList).occursIn text with
  | some hedge => hedge.2
  | none => defaultHedge

end TaintReview.Lexicon
