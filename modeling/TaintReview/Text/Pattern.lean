import TaintReview.Text.Basic
import TaintReview.Text.Word

namespace TaintReview.Text

/-!
# Patterns of whole words

Patterns over characters, and the search for a match that starts and ends at word
boundaries.  The search follows all ways of matching at once, so it misses none of them;
`Pattern.Matches` says what a pattern means without a search.
-/

/-- A pattern over characters. -/
inductive Pattern where
  /-- Nothing at all. -/
  | nothing
  /-- One character of a class. -/
  | one (accepts : Char → Bool)
  /-- A run of one or more blanks. -/
  | gap
  /-- One pattern after the other. -/
  | seq (first second : Pattern)
  /-- One of two patterns. -/
  | either (left right : Pattern)

namespace Pattern

/-! ### What a pattern means -/

/-- The texts that a pattern stands for. -/
inductive Matches : Pattern → List Char → Prop where
  | nothing : Matches nothing []
  | one {accepts : Char → Bool} {c : Char} (h : accepts c = true) : Matches (one accepts) [c]
  | gap {cs : List Char} (ne : cs ≠ []) (blank : ∀ c ∈ cs, isBlank c = true) : Matches gap cs
  | seq {p q : Pattern} {cs ds : List Char} (hp : Matches p cs) (hq : Matches q ds) :
      Matches (seq p q) (cs ++ ds)
  | left {p q : Pattern} {cs : List Char} (h : Matches p cs) : Matches (either p q) cs
  | right {p q : Pattern} {cs : List Char} (h : Matches q cs) : Matches (either p q) cs

/-! ### Building patterns -/

/-- The same characters. -/
def literal (cs : List Char) : Pattern := cs.foldr (fun c p => seq (one (· == c)) p) nothing

/-- Do two letters differ at most in case?  Beyond ASCII, a long s folds to `s` and the Kelvin
    sign to `k`. -/
def sameLetter (letter c : Char) : Bool :=
  c.toLower == letter || (letter == 's' && c == '\u017f') || (letter == 'k' && c == '\u212a')

/-- The same letters in any case. -/
def folded (cs : List Char) : Pattern := cs.foldr (fun c p => seq (one (sameLetter c)) p) nothing

/-- A pattern or nothing. -/
def optional (p : Pattern) : Pattern := either p nothing

/-- One of several patterns; no pattern at all of an empty list. -/
def oneOf : List Pattern → Pattern
  | [] => one fun _ => false
  | [p] => p
  | p :: ps => either p (oneOf ps)

/-- Patterns with gaps between them. -/
def spaced : List Pattern → Pattern
  | [] => nothing
  | [p] => p
  | p :: ps => seq p (seq gap (spaced ps))

/-! ### Searching -/

/-- A place in a text: the character before it, if any, and the text after it. -/
structure Place where
  before : Option Char
  rest : List Char

/-- The places after one or more blanks. -/
def afterBlanks : List Char → List Place
  | [] => []
  | c :: cs => if isBlank c then ⟨some c, cs⟩ :: afterBlanks cs else []

/-- The places at which a match that starts here may end. -/
def ends : Pattern → Place → List Place
  | nothing, place => [place]
  | one accepts, place =>
    match place.rest with
    | [] => []
    | c :: cs => if accepts c then [⟨some c, cs⟩] else []
  | gap, place => afterBlanks place.rest
  | seq p q, place => (p.ends place).flatMap q.ends
  | either p q, place => p.ends place ++ q.ends place

/-- Is the place a word boundary? -/
def Place.isBoundary (p : Place) : Bool := Text.isBoundary p.before p.rest.head?

/-- Does a match between word boundaries start here? -/
def startsAt (p : Pattern) (place : Place) : Bool :=
  place.isBoundary && (p.ends place).any Place.isBoundary

/-- Does a match between word boundaries start here or later? -/
def occursFrom (p : Pattern) (before : Option Char) : List Char → Bool
  | [] => p.startsAt ⟨before, []⟩
  | c :: cs => p.startsAt ⟨before, c :: cs⟩ || p.occursFrom (some c) cs

/-- Does the text hold a match between word boundaries? -/
def occursIn (p : Pattern) (text : List Char) : Bool := p.occursFrom none text

end Pattern

end TaintReview.Text
