import Mathlib.Data.List.Forall2
import Mathlib.Data.List.TakeWhile
import TaintReview.Proofs.Marks
import TaintReview.Proofs.Members

namespace TaintReview

/-!
# Flows in the requested layout

The completion service is asked to report each flow by lines for its vulnerability, its impact, its
description, its recommendations, its source and its sink.  A service may dress these lines up, with
bullets, bold type and other letter cases, and it may write anything in between.  However it does
so, the flows are read back as they were reported.

* `Extraction.Opening` — all that may stand before the value of a marker line, and
  `markerLine?_opening` — it is recognised;
* `Extraction.LaidOut` — lines that carry given marks, among other lines;
* `Extraction.Passage`, `Extraction.FlowBlock` — what is reported about one flow, and a flow
  between two of the given endpoints;
* `Extraction.flows_of_layout` — the flows of a text in the layout are the reported ones.
-/

namespace Extraction

open Text

/-! ### The words of markers -/

/-- The text spells a word, in any case that lower-cases to it. -/
def Spells (word cs : List Char) : Prop :=
  List.Forall₂ (fun w c => Pattern.sameLetter w c = true ∧ lowerChar c = [w]) word cs

/-- A spelled word is taken off the text. -/
theorem afterWord_of_spells {word cs : List Char} (h : Spells word cs) (rest : List Char) :
    afterWord word (cs ++ rest) = some rest := by
  induction h with
  | nil => rw [List.nil_append, afterWord]
  | @cons w c word cs hc hcs ih =>
    rw [List.cons_append, afterWord, if_pos (by simp [hc.1, hc.2]), ih]

/-- A spelled word is no other word, unless one of the two begins with the other. -/
theorem afterWord_eq_none {word word' cs : List Char} (h : Spells word cs) (rest : List Char)
    (hlong : ¬ word <+: word') (hshort : ¬ word' <+: word) :
    afterWord word' (cs ++ rest) = none := by
  induction h generalizing word' with
  | nil => exact absurd List.nil_prefix hlong
  | @cons w c word cs hc hcs ih =>
    cases word' with
    | nil => exact absurd List.nil_prefix hshort
    | cons w' word' =>
      rw [List.cons_append, afterWord]
      -- The words part at some letter, and up to there they are spelled alike.
      by_cases hw : w' = w
      · subst hw
        rw [List.prefix_cons_inj] at hlong hshort
        rw [if_pos (by simp [hc.1, hc.2])]
        exact ih hlong hshort
      · have hother : lowerChar c ≠ [w'] := by
          rw [hc.2]
          exact fun heq => hw (List.cons.inj heq).1.symm
        rw [if_neg (by simp [hother])]

theorem mem_all (marker : Marker) : marker ∈ Marker.all := by
  cases marker <;> decide

/-- No marker's word begins another's. -/
theorem words_apart {marker marker' : Marker} (h : marker ≠ marker') :
    ¬ marker.word <+: marker'.word := by
  revert h
  cases marker <;> cases marker' <;> decide

/-- The marker of a spelled word is found. -/
theorem takeMarker_of_spells {marker : Marker} {cs : List Char} (h : Spells marker.word cs)
    (rest : List Char) : takeMarker (cs ++ rest) = some (marker, rest) := by
  have hfound : (afterWord marker.word (cs ++ rest)).map (marker, ·) = some (marker, rest) := by
    rw [afterWord_of_spells h, Option.map_some]
  have hothers : ∀ other, other ≠ marker →
      (afterWord other.word (cs ++ rest)).map (other, ·) = none := by
    intro other hne
    rw [afterWord_eq_none h rest (words_apart hne.symm) (words_apart hne),
      Option.map_none]
  rw [takeMarker]
  -- The markers are tried in turn; all but the one that is spelled give nothing.
  have hmem := mem_all marker
  generalize Marker.all = markers at hmem ⊢
  induction markers with
  | nil => cases hmem
  | cons other markers ih =>
    rw [List.findSome?_cons]
    by_cases hother : other = marker
    · rw [hother, hfound]
    · rw [hothers other hother]
      exact ih ((List.mem_cons.mp hmem).resolve_left (Ne.symm hother))

theorem isStar_of_isLetter {c : Char} (h : IsLetter c) : isStar c = false :=
  beq_false_of_ne h.not_star

/-- A spelled marker's word begins with a letter. -/
theorem head_of_spells {marker : Marker} {cs : List Char} (h : Spells marker.word cs)
    (rest : List Char) : ∃ c, (cs ++ rest).head? = some c ∧ IsLetter c := by
  -- Markers are written in small letters.
  have hword : ∃ w word, marker.word = w :: word ∧ 97 ≤ w.toNat ∧ w.toNat ≤ 122 := by
    cases marker <;> exact ⟨_, _, rfl, by decide, by decide⟩
  obtain ⟨w, word, hw, hbounds⟩ := hword
  rw [Spells, hw] at h
  cases h with
  | @cons _ c _ cs hc _ => exact ⟨c, rfl, isLetter_of_sameLetter hbounds hc.1⟩

/-- A marker's word is spelled in any letter case. -/
theorem spells_of_toLower {marker : Marker} {cs : List Char}
    (h : cs.map Char.toLower = marker.word) : Spells marker.word cs := by
  have hall : (marker.word.all fun w => decide (w.toNat < 0x80)) = true := by
    cases marker <;> decide
  have hascii : ∀ w ∈ marker.word, w.toNat < 0x80 := fun w hw =>
    of_decide_eq_true (List.all_eq_true.mp hall w hw)
  rw [Spells, ← h, List.forall₂_map_left_iff, List.forall₂_same]
  intro c hc
  have hlower : c.toLower.toNat < 0x80 := hascii _ (h ▸ List.mem_map_of_mem hc)
  have hsmall : c.toNat < 0x80 := by
    rcases toLower_cases c with ⟨-, hhi⟩ | hself
    · omega
    · rwa [hself] at hlower
  exact ⟨by simp [Pattern.sameLetter], by rw [lowerChar, if_pos hsmall]⟩

/-! ### What opens a marker line -/

/-- What may open a line of a list: a dash, an asterisk, a dot, or a number with a point or a
    parenthesis. -/
inductive IsBullet : List Char → Prop where
  | dash : IsBullet ['-']
  | star : IsBullet ['*']
  | dot : IsBullet ['•']
  | numbered {digits : List Char} {close : Char} (ne : digits ≠ [])
      (decimal : ∀ c ∈ digits, isDecimal c = true) (closes : close = '.' ∨ close = ')') :
      IsBullet (digits ++ [close])

namespace IsBullet

variable {bullet : List Char}

/-- A bullet does not begin with a blank. -/
theorem head_not_blank (h : IsBullet bullet) (rest : List Char) :
    ∀ c ∈ (bullet ++ rest).head?, isBlank c = false := by
  intro c hc
  cases h with
  | dash | star | dot =>
    cases hc
    decide
  | @numbered digits close ne decimal _ =>
    obtain ⟨d, digits, rfl⟩ := List.exists_cons_of_ne_nil ne
    cases hc
    exact isBlank_of_isDecimal (decimal _ List.mem_cons_self)

/-- A bullet is taken off the text. -/
theorem afterBullet (h : IsBullet bullet) (rest : List Char) :
    Extraction.afterBullet (bullet ++ rest) = rest := by
  cases h with
  | dash | star | dot => rfl
  | @numbered digits close ne decimal closes =>
    obtain ⟨d, digits, rfl⟩ := List.exists_cons_of_ne_nil ne
    obtain ⟨hd, hdigits⟩ := List.forall_mem_cons.mp decimal
    -- A digit is none of the signs that open a list by themselves.
    have hne : ∀ c, isDecimal c = false → d ≠ c := by
      rintro c hc rfl
      rw [hd] at hc
      cases hc
    have hclose : ∀ c ∈ (close :: rest).head?, isDecimal c = false := by
      rintro c hc
      cases hc
      rcases closes with rfl | rfl <;> decide
    have hnumber : (digits ++ [close] ++ rest).dropWhile isDecimal = close :: rest := by
      rw [List.append_assoc, List.singleton_append, dropWhile_append_of_head hdigits hclose]
    rw [List.cons_append, List.cons_append, Extraction.afterBullet, if_neg, if_pos hd, hnumber]
    · rcases closes with rfl | rfl <;> rfl
    · simp [hne '-' (by decide), hne '*' (by decide), hne '•' (by decide)]

end IsBullet

/-- A text that begins with a letter has no bullet. -/
theorem afterBullet_of_isLetter {c : Char} (h : IsLetter c) (cs : List Char) :
    afterBullet (c :: cs) = c :: cs := by
  have hstar : c ≠ '*' := h.not_star
  rw [afterBullet, if_neg (by simp [h.not_dash, hstar, h.not_dot]),
    if_neg (by rw [h.not_decimal]; exact Bool.false_ne_true)]

theorem isStar_of_isBlank {c : Char} (h : isBlank c = true) : isStar c = false := by
  by_contra hstar
  obtain rfl : c = '*' := by simpa [isStar] using hstar
  revert h
  decide

/-- Asterisks before a letter are followed by no blank. -/
theorem head_stars_not_blank {stars : List Char} (hstars : ∀ d ∈ stars, isStar d = true)
    {c : Char} (hc : IsLetter c) (cs : List Char) :
    ∀ d ∈ (stars ++ c :: cs).head?, isBlank d = false := by
  intro d hd
  cases stars with
  | nil =>
    cases hd
    exact hc.not_blank
  | cons x stars =>
    cases hd
    obtain rfl : d = '*' := by simpa [isStar] using hstars d List.mem_cons_self
    decide

/-- Only a letter is taken for a plural ending. -/
theorem afterPlural_of_head {cs : List Char} (h : ∀ d ∈ cs.head?, ¬ IsLetter d) :
    afterPlural cs = cs := by
  cases cs with
  | nil => rfl
  | cons c cs =>
    have hc : Pattern.sameLetter 's' c ≠ true := fun hsame =>
      h c rfl (isLetter_of_sameLetter (by decide) hsame)
    rw [afterPlural, if_neg hc]

/-- All that stands before the value of a marker line: an indent, perhaps a bullet, the marker's
    word, perhaps in bold and in the plural, and a colon. -/
structure Opening (marker : Marker) where
  indent : List Char := []
  bullet : List Char := []
  gap : List Char := []
  stars : List Char := []
  word : List Char
  plural : List Char := []
  closing : List Char := []
  space : List Char := []
  indent_blank : ∀ c ∈ indent, isBlank c = true := by
    exact List.all_eq_true.mp (by decide)
  isBullet : bullet = [] ∨ IsBullet bullet := by exact .inl rfl
  gap_blank : ∀ c ∈ gap, isBlank c = true := by
    exact List.all_eq_true.mp (by decide)
  stars_star : ∀ c ∈ stars, isStar c = true := by
    exact List.all_eq_true.mp (by decide)
  spells : Spells marker.word word
  isPlural : plural = [] ∨ ∃ c, plural = [c] ∧ Pattern.sameLetter 's' c = true := by exact .inl rfl
  closing_star : ∀ c ∈ closing, isStar c = true := by
    exact List.all_eq_true.mp (by decide)
  space_blank : ∀ c ∈ space, isBlank c = true := by
    exact List.all_eq_true.mp (by decide)

namespace Opening

variable {marker : Marker} (o : Opening marker)

/-- What stands between the word and the value. -/
def tail : List Char := o.plural ++ (o.closing ++ (o.space ++ [':']))

/-- The whole opening. -/
def text : List Char := o.indent ++ (o.bullet ++ (o.gap ++ (o.stars ++ (o.word ++ o.tail))))

/-- Everything before the word is passed over. -/
theorem start_eq (rest : List Char) :
    ((afterBullet ((o.text ++ rest).dropWhile isBlank)).dropWhile isBlank).dropWhile isStar =
      o.word ++ (o.tail ++ rest) := by
  obtain ⟨c, hhead, hc⟩ := head_of_spells o.spells (o.tail ++ rest)
  have htext : o.text ++ rest =
      o.indent ++ (o.bullet ++ (o.gap ++ (o.stars ++ (o.word ++ (o.tail ++ rest))))) := by
    simp only [text, List.append_assoc]
  rw [htext]
  generalize o.word ++ (o.tail ++ rest) = body at hhead ⊢
  obtain ⟨body, rfl⟩ : ∃ cs, body = c :: cs := List.head?_eq_some_iff.mp hhead
  have hword : ∀ d ∈ (c :: body).head?, isStar d = false := by
    intro d hd
    cases hd
    exact isStar_of_isLetter hc
  -- After the bullet there are blanks, asterisks and the word.
  have hafter : ∀ stars : List Char, (∀ d ∈ stars, isStar d = true) →
      ((stars ++ c :: body).dropWhile isBlank).dropWhile isStar = c :: body := by
    intro stars hstars
    have hblank := head_stars_not_blank hstars hc body
    rw [← List.nil_append (stars ++ c :: body),
      dropWhile_append_of_head (List.forall_mem_nil _) hblank,
      dropWhile_append_of_head hstars hword]
  have hstars := head_stars_not_blank o.stars_star hc body
  rcases o.isBullet with hnone | hbullet
  · have hblank : ∀ d ∈ o.indent ++ o.gap, isBlank d = true :=
      List.forall_mem_append.mpr ⟨o.indent_blank, o.gap_blank⟩
    rw [hnone, List.nil_append, ← List.append_assoc, dropWhile_append_of_head hblank hstars]
    cases hcases : o.stars with
    | nil =>
      rw [List.nil_append, afterBullet_of_isLetter hc]
      exact hafter [] (List.forall_mem_nil _)
    | cons x stars =>
      -- Without a bullet, the first asterisk is taken for one.
      have hall := o.stars_star
      rw [hcases] at hall
      obtain ⟨hx, hrest⟩ := List.forall_mem_cons.mp hall
      obtain rfl : x = '*' := by simpa [isStar] using hx
      exact hafter stars hrest
  · rw [dropWhile_append_of_head o.indent_blank (hbullet.head_not_blank _),
      hbullet.afterBullet, dropWhile_append_of_head o.gap_blank hstars,
      dropWhile_append_of_head o.stars_star hword]

/-- What stands between the word and the value is passed over. -/
theorem colon_eq (rest : List Char) :
    ((afterPlural (o.tail ++ rest)).dropWhile isStar).dropWhile isBlank = ':' :: rest := by
  have htail : o.tail ++ rest = o.plural ++ (o.closing ++ (o.space ++ ':' :: rest)) := by
    simp only [tail, List.append_assoc, List.singleton_append]
  have hcolon : ∀ d ∈ (':' :: rest).head?, isBlank d = false := by
    intro d hd
    cases hd
    decide
  -- None of the parts begins with what the part before it could go on with.
  have hspace : ∀ d ∈ (o.space ++ ':' :: rest).head?, isStar d = false ∧ ¬ IsLetter d := by
    intro d hd
    cases hcases : o.space with
    | nil =>
      rw [hcases] at hd
      cases hd
      exact ⟨by decide, fun hletter => hletter.not_colon rfl⟩
    | cons x space =>
      rw [hcases] at hd
      cases hd
      have hblank := o.space_blank d (by rw [hcases]; exact List.mem_cons_self)
      refine ⟨isStar_of_isBlank hblank, fun hletter => ?_⟩
      rw [hletter.not_blank] at hblank
      cases hblank
  have hclosing : ∀ d ∈ (o.closing ++ (o.space ++ ':' :: rest)).head?, ¬ IsLetter d := by
    intro d hd hletter
    cases hcases : o.closing with
    | nil =>
      rw [hcases] at hd
      exact (hspace d hd).2 hletter
    | cons x closing =>
      rw [hcases] at hd
      cases hd
      have hstar := o.closing_star d (by rw [hcases]; exact List.mem_cons_self)
      rw [isStar_of_isLetter hletter] at hstar
      cases hstar
  have hrest : ((o.closing ++ (o.space ++ ':' :: rest)).dropWhile isStar).dropWhile isBlank =
      ':' :: rest := by
    rw [dropWhile_append_of_head o.closing_star fun d hd => (hspace d hd).1,
      dropWhile_append_of_head o.space_blank hcolon]
  rw [htail]
  rcases o.isPlural with hnone | ⟨c, hplural, hc⟩
  · rw [hnone, List.nil_append, afterPlural_of_head hclosing, hrest]
  · rw [hplural, List.singleton_append, afterPlural, if_pos hc, hrest]

end Opening

/-- **A marker line is recognised** however its marker is dressed up. -/
theorem markerLine?_opening {marker : Marker} (o : Opening marker) (rest : List Char) :
    markerLine? (o.text ++ rest) = some (marker, markerValue rest) := by
  rw [markerLine?, o.start_eq, takeMarker_of_spells o.spells]
  simp only [o.colon_eq]

/-! ### Values -/

/-- The rest of a marker line holds a value: blanks may stand around it, and before it the
    asterisks that end the bold type of the marker. -/
structure Holds (value rest : List Char) where
  lead : List Char := []
  stars : List Char := []
  gap : List Char := []
  trail : List Char := []
  text : rest = lead ++ (stars ++ (gap ++ value)) ++ trail := by decide
  lead_blank : ∀ c ∈ lead, isBlank c = true := by
    exact List.all_eq_true.mp (by decide)
  stars_star : ∀ c ∈ stars, isStar c = true := by
    exact List.all_eq_true.mp (by decide)
  gap_blank : ∀ c ∈ gap, isBlank c = true := by
    exact List.all_eq_true.mp (by decide)
  trail_blank : ∀ c ∈ trail, isBlank c = true := by
    exact List.all_eq_true.mp (by decide)

/-- Asterisks have no blanks around them. -/
theorem bare_of_stars {stars : List Char} (h : ∀ c ∈ stars, isStar c = true) :
    Bare isBlank stars := by
  apply bare_of_forall
  intro c hc
  obtain rfl : c = '*' := by simpa [isStar] using h c hc
  decide

/-- **A value that neither blanks nor asterisks touch is read back.** -/
theorem markerValue_of_holds {value rest : List Char} (h : Holds value rest)
    (hblank : Bare isBlank value) (hstar : Bare isStar value) : markerValue rest = value := by
  obtain ⟨lead, stars, gap, trail, rfl, hlead, hstars, hgap, htrail⟩ := h
  rw [markerValue, trim]
  by_cases hplain : stars = []
  · -- Nothing but blanks stands before the value.
    subst hplain
    have hbefore : ∀ c ∈ lead ++ gap, isBlank c = true :=
      List.forall_mem_append.mpr ⟨hlead, hgap⟩
    rw [List.nil_append, ← List.append_assoc, trim, strip_surrounded hbefore htrail hblank,
      strip_of_bare hstar, strip_of_bare hblank]
  · obtain ⟨x, stars, rfl⟩ := List.exists_cons_of_ne_nil hplain
    have hbare := bare_of_stars hstars
    by_cases hempty : value = []
    · -- The asterisks are all there is.
      subst hempty
      have hgone := strip_surrounded hstars (List.forall_mem_nil _) (bare_nil isStar)
      have hafter : ∀ c ∈ gap ++ trail, isBlank c = true :=
        List.forall_mem_append.mpr ⟨hgap, htrail⟩
      have htext : lead ++ (x :: stars ++ (gap ++ [])) ++ trail =
          lead ++ (x :: stars) ++ (gap ++ trail) := by
        simp only [List.append_nil, List.append_assoc]
      rw [List.append_nil, List.append_nil] at hgone
      rw [htext, trim, strip_surrounded hlead hafter hbare, hgone, strip_of_bare (bare_nil isBlank)]
    · -- The value ends the text; so what holds of its end holds of the end of the text.
      have hlast : ∀ front : List Char, (front ++ value).getLast? = value.getLast? :=
        fun front => List.getLast?_append_of_ne_nil front hempty
      have hbold : Bare isBlank (x :: stars ++ (gap ++ value)) := by
        refine ⟨fun c hc => ?_, fun c hc => ?_⟩
        · exact hbare.1 c hc
        · rw [← List.append_assoc, hlast] at hc
          exact hblank.2 c hc
      have hrest : Bare isStar (gap ++ value) := by
        refine ⟨fun c hc => ?_, fun c hc => ?_⟩
        · cases gap with
          | nil => exact hstar.1 c hc
          | cons d gap =>
            cases hc
            exact isStar_of_isBlank (hgap c List.mem_cons_self)
        · rw [hlast] at hc
          exact hstar.2 c hc
      have hstrip := strip_surrounded hstars (List.forall_mem_nil _) hrest
      have hgapped := strip_surrounded hgap (List.forall_mem_nil _) hblank
      rw [List.append_nil] at hstrip hgapped
      rw [trim, strip_surrounded hlead htrail hbold, hstrip, hgapped]

/-! ### Lines with marks -/

/-- The lines carry the marks, in order, in marker lines of any dress, and other lines stand
    anywhere between them. -/
inductive LaidOut : List Mark → List (List Char) → Prop where
  | nil : LaidOut [] []
  | other {ms : List Mark} {line : List Char} {ls : List (List Char)} (single : '\n' ∉ line)
      (unmarked : markerLine? line = none) (laid : LaidOut ms ls) : LaidOut ms (line :: ls)
  | marker {ms : List Mark} {marker : Marker} {value line : List Char} {ls : List (List Char)}
      (o : Opening marker) (rest : List Char) (text : line = o.text ++ rest)
      (holds : Holds value rest) (single : '\n' ∉ line) (laid : LaidOut ms ls) :
      LaidOut ((marker, value) :: ms) (line :: ls)

/-- A text in the layout has the marks that it was laid out for. -/
theorem LaidOut.marks_eq {ms : List Mark} {ls : List (List Char)} (h : LaidOut ms ls)
    (hbare : ∀ m ∈ ms, Bare isBlank m.2 ∧ Bare isStar m.2) :
    marks (['\n'].intercalate ls) = ms := by
  have hlines : (∀ line ∈ ls, '\n' ∉ line) ∧ ls.filterMap markerLine? = ms := by
    induction h with
    | nil => exact ⟨List.forall_mem_nil _, rfl⟩
    | other single unmarked _ ih =>
      obtain ⟨hsingle, hmarks⟩ := ih hbare
      refine ⟨List.forall_mem_cons.mpr ⟨single, hsingle⟩, ?_⟩
      rw [List.filterMap_cons_none unmarked, hmarks]
    | marker o rest text holds single _ ih =>
      obtain ⟨hvalue, hrest⟩ := List.forall_mem_cons.mp hbare
      obtain ⟨hsingle, hmarks⟩ := ih hrest
      refine ⟨List.forall_mem_cons.mpr ⟨single, hsingle⟩, ?_⟩
      subst text
      rw [List.filterMap_cons_some (markerLine?_opening o _), hmarks,
        markerValue_of_holds holds hvalue.1 hvalue.2]
  rw [marks_joined hlines.1, hlines.2]

/-! ### Names -/

/-- A name as it can be told: not empty, without blanks around it, backticks or call
    parentheses. -/
structure Nameable (name : List Char) : Prop where
  ne_nil : name ≠ []
  bare : Bare isBlank name
  no_backtick : '`' ∉ name
  no_call : ¬ ['(', ')'] <:+: name

/-- A name without call parentheses keeps all of its characters. -/
theorem dropCalls_of_no_call {cs : List Char} (h : ¬ ['(', ')'] <:+: cs) : dropCalls cs = cs := by
  fun_induction dropCalls cs with
  | case1 => rfl
  | case2 cs ih => exact absurd ⟨[], cs, rfl⟩ h
  | case3 c cs hc ih =>
    rw [ih fun hinside => h (hinside.trans (List.suffix_cons c cs).isInfix)]

/-- Such a name is compared as it stands, but for letter case. -/
theorem Nameable.comparable_eq {name : List Char} (h : Nameable name) :
    comparable name = lower name := by
  have hfilter : name.filter (· != '`') = name := by
    refine List.filter_eq_self.mpr fun c hc => ?_
    have hne : c ≠ '`' := fun heq => h.no_backtick (heq ▸ hc)
    simpa using hne
  rw [comparable, hfilter, dropCalls_of_no_call h.no_call, trim, strip_of_bare h.bare]

/-- Do two endpoints have the same name, letter case apart? -/
def sameName (e e' : Endpoint) : Bool := lower e'.name.toList == lower e.name.toList

/-- The first of the endpoints with the name of an endpoint, letter case apart. -/
def namesake (es : List Endpoint) (e : Endpoint) : Endpoint := (es.find? (sameName e)).getD e

/-- An endpoint of the list has a namesake there, be it the endpoint itself. -/
theorem find?_sameName {es : List Endpoint} {e : Endpoint} (he : e ∈ es) :
    es.find? (sameName e) = some (namesake es e) := by
  have hsome : (es.find? (sameName e)).isSome = true :=
    List.find?_isSome.mpr ⟨e, he, by simp [sameName]⟩
  rw [namesake]
  obtain ⟨found, hfound⟩ := Option.isSome_iff_exists.mp hsome
  rw [hfound, Option.getD_some]

/-- **An endpoint is found by its name.** -/
theorem resolve_name {es : List Endpoint} {e : Endpoint} (he : e ∈ es)
    (hname : Nameable e.name.toList) : resolve e.name.toList es = some (namesake es e) := by
  have hne : (lower e.name.toList).isEmpty = false := by
    simpa using lower_ne_nil hname.ne_nil
  rw [resolve, hname.comparable_eq]
  simp only [hne, Bool.false_eq_true, if_false]
  rw [show (fun x : Endpoint => lower x.name.toList == lower e.name.toList) = sameName e from rfl,
    find?_sameName he]

/-- The endpoint is the first of a list that has the name of another one, letter case apart. -/
structure FirstNamed (es : List Endpoint) (e found : Endpoint) : Prop where
  same : lower found.name.toList = lower e.name.toList
  first : ∃ before after, es = before ++ found :: after ∧
    ∀ x ∈ before, lower x.name.toList ≠ lower e.name.toList

/-- The first endpoint of a name is one of the list. -/
theorem FirstNamed.mem {es : List Endpoint} {e found : Endpoint} (h : FirstNamed es e found) :
    found ∈ es := by
  obtain ⟨before, after, rfl, -⟩ := h.first
  exact List.mem_append_right _ List.mem_cons_self

/-- The namesake is the first endpoint of the name. -/
theorem namesake_firstNamed {es : List Endpoint} {e : Endpoint} (he : e ∈ es) :
    FirstNamed es e (namesake es e) := by
  obtain ⟨hsame, before, after, hes, hbefore⟩ :=
    List.find?_eq_some_iff_append.mp (find?_sameName he)
  refine ⟨by simpa [sameName] using hsame, before, after, hes, fun x hx => ?_⟩
  simpa [sameName] using hbefore x hx

/-! ### Passages -/

/-- What is told about one flow, in the order of the layout. -/
structure Passage where
  vulnerability : String
  impact : String
  description : String
  recommendations : List String
  source : String
  sink : String
deriving DecidableEq

/-- The marks before those of the two ends. -/
def Passage.details (p : Passage) : List Mark :=
  (.vulnerability, p.vulnerability.toList) :: (.impact, p.impact.toList) ::
    (.description, p.description.toList) ::
      p.recommendations.map fun r => (.recommendation, r.toList)

/-- The marks of a passage. -/
def Passage.marks (p : Passage) : List Mark :=
  p.details ++ [(.source, p.source.toList), (.sink, p.sink.toList)]

/-- The draft with the details of a passage. -/
def Draft.told (d : Draft) (p : Passage) : Draft :=
  { d with
    vulnerability := some p.vulnerability
    impact := Impact.ofLabel? p.impact
    description := some p.description
    recommendations := d.recommendations ++ p.recommendations.filter (· ≠ "") }

variable {sources sinks : List Endpoint} {d : Draft} {m : Mark}

/-- A draft that does not know both of its ends is no path yet. -/
theorem path?_eq_none_iff : d.path? = none ↔ d.source = none ∨ d.sink = none := by
  rw [Draft.path?]
  cases d.source with
  | none => simp
  | some source => cases d.sink <;> simp

/-- A mark that completes no path only adds to the draft. -/
theorem reading_cons_of_none (h : (d.mark sources sinks m.1 m.2).path? = none) (ms : List Mark) :
    reading sources sinks d (m :: ms) =
      reading sources sinks (d.mark sources sinks m.1 m.2) ms := by
  rw [reading, step, h]
  rfl

/-- A mark that completes a path ends the draft, and the next one is fresh. -/
theorem reading_cons_of_some {path : FlowPath}
    (h : (d.mark sources sinks m.1 m.2).path? = some path) (ms : List Mark) :
    reading sources sinks d (m :: ms) = path :: reading sources sinks {} ms := by
  rw [reading, step, h]
  rfl

/-- A detail completes no path. -/
theorem path?_mark_of_detail (hopen : d.path? = none)
    (hdetail : m.1 ≠ .source ∧ m.1 ≠ .sink) :
    (d.mark sources sinks m.1 m.2).path? = none := by
  have hsource : (d.mark sources sinks m.1 m.2).source = d.source :=
    Draft.end?_mark .source hdetail.1
  have hsink : (d.mark sources sinks m.1 m.2).sink = d.sink :=
    Draft.end?_mark .sink hdetail.2
  rw [path?_eq_none_iff, hsource, hsink, ← path?_eq_none_iff, hopen]

/-- Details that stand one after the other all go into the draft. -/
theorem reading_append_of_details (hopen : d.path? = none) {details : List Mark}
    (hdetails : ∀ m ∈ details, m.1 ≠ .source ∧ m.1 ≠ .sink) (ms : List Mark) :
    reading sources sinks d (details ++ ms) =
      reading sources sinks (details.foldl (fun d m => d.mark sources sinks m.1 m.2) d) ms := by
  induction details generalizing d with
  | nil => rfl
  | cons m details ih =>
    obtain ⟨hm, hrest⟩ := List.forall_mem_cons.mp hdetails
    have hnone : (d.mark sources sinks m.1 m.2).path? = none := path?_mark_of_detail hopen hm
    rw [List.cons_append, reading_cons_of_none hnone, ih hnone hrest, List.foldl_cons]

/-- Recommendations that stand one after the other are all kept, but for the empty ones. -/
theorem foldl_mark_recommendations (d : Draft) (rs : List String) :
    (rs.map fun r => ((.recommendation, r.toList) : Mark)).foldl
        (fun d m => d.mark sources sinks m.1 m.2) d =
      { d with recommendations := d.recommendations ++ rs.filter (· ≠ "") } := by
  induction rs generalizing d with
  | nil => rw [List.map_nil, List.foldl_nil, List.filter_nil, List.append_nil]
  | cons r rs ih =>
    rw [List.map_cons, List.foldl_cons, ih]
    by_cases hr : r = ""
    · simp [Draft.mark, hr]
    · simp [Draft.mark, hr]

/-- The details of a passage go into the draft. -/
theorem reading_details (hopen : d.path? = none) (p : Passage) (ms : List Mark) :
    reading sources sinks d (p.details ++ ms) = reading sources sinks (d.told p) ms := by
  have hdetails : ∀ m ∈ p.details, m.1 ≠ .source ∧ m.1 ≠ .sink := by
    intro m hm
    rw [Passage.details, List.mem_cons, List.mem_cons, List.mem_cons, List.mem_map] at hm
    rcases hm with rfl | rfl | rfl | ⟨r, -, rfl⟩ <;> simp
  rw [reading_append_of_details hopen hdetails, Passage.details, List.foldl_cons, List.foldl_cons,
    List.foldl_cons, foldl_mark_recommendations]
  simp only [Draft.mark, Draft.told, String.ofList_toList]

/-! ### Flows as they are reported -/

/-- A flow between two of the given endpoints. -/
structure FlowBlock where
  vulnerability : String
  impact : Impact
  description : String
  recommendations : List String
  source : Endpoint
  sink : Endpoint

namespace FlowBlock

/-- The flow as it is told. -/
def passage (b : FlowBlock) : Passage where
  vulnerability := b.vulnerability
  impact := b.impact.tag
  description := b.description
  recommendations := b.recommendations
  source := b.source.name
  sink := b.sink.name

/-- The path that stands for the flow.  Endpoints that share a name are told apart by nothing else,
    so that the first of them counts. -/
def path (sources sinks : List Endpoint) (b : FlowBlock) : FlowPath where
  source := namesake sources b.source
  sink := namesake sinks b.sink
  vulnerabilityType := b.vulnerability
  impact := b.impact
  description := b.description
  recommendations := b.recommendations
  confidence := Lexicon.hedgeConfidence b.description
  metadata := .ofFields [("extraction", .string "marker_lines")]

/-- The flow can be told in the layout. -/
structure Reportable (sources sinks : List Endpoint) (b : FlowBlock) : Prop where
  vulnerability_ne : b.vulnerability ≠ ""
  recommendations_ne : ∀ r ∈ b.recommendations, r ≠ ""
  texts_bare : ∀ text ∈ b.vulnerability :: b.description :: b.source.name :: b.sink.name ::
    b.recommendations, Bare isBlank text.toList ∧ Bare isStar text.toList
  source_mem : b.source ∈ sources
  sink_mem : b.sink ∈ sinks
  source_nameable : Nameable b.source.name.toList
  sink_nameable : Nameable b.sink.name.toList

end FlowBlock

/-- The confidence of a hedge is in range as it stands. -/
theorem clampConfidence_hedgeConfidence (text : String) :
    clampConfidence (Lexicon.hedgeConfidence text) = Lexicon.hedgeConfidence text := by
  have hclamp : ∀ x : Float, x.isNaN = false ∧ ¬ x < 0 ∧ ¬ 1 < x → clampConfidence x = x := by
    rintro x ⟨hnan, hlo, hhi⟩
    rw [clampConfidence, hnan, if_neg Bool.false_ne_true, if_neg hlo, if_neg hhi]
  have hhedges : ∀ h ∈ Lexicon.hedges, h.2.isNaN = false ∧ ¬ h.2 < 0 ∧ ¬ 1 < h.2 := by
    decide +kernel
  have hdefault : Lexicon.defaultHedge.isNaN = false ∧ ¬ Lexicon.defaultHedge < 0 ∧
      ¬ 1 < Lexicon.defaultHedge := by
    decide +kernel
  rw [Lexicon.hedgeConfidence]
  split
  · next hedge hfound => exact hclamp _ (hhedges hedge (List.mem_of_find?_eq_some hfound))
  · exact hclamp _ hdefault

/-- An impact is known by its own tag. -/
theorem ofLabel?_tag (i : Impact) : Impact.ofLabel? i.tag = some i := by
  cases i <;> decide

/-- **A passage about two known endpoints is read as one path**, and nothing of it is left for the
    next passage. -/
theorem reading_block {b : FlowBlock} (h : b.Reportable sources sinks) (ms : List Mark) :
    reading sources sinks {} (b.passage.marks ++ ms) =
      b.path sources sinks :: reading sources sinks {} ms := by
  have hsource := resolve_name h.source_mem h.source_nameable
  have hsink := resolve_name h.sink_mem h.sink_nameable
  have hrecommended : b.recommendations.filter (· ≠ "") = b.recommendations :=
    List.filter_eq_self.mpr fun r hr => by simpa using h.recommendations_ne r hr
  -- The details and the source leave the draft open, and the sink completes it.
  rw [Passage.marks, List.append_assoc, reading_details rfl, List.cons_append,
    reading_cons_of_none, List.cons_append, reading_cons_of_some, List.nil_append]
  · simp only [Draft.mark, Draft.told, FlowBlock.passage, hsource, hsink, hrecommended,
      Option.some_or, Draft.path?, Option.getD_some, ofLabel?_tag, List.nil_append,
      clampConfidence_hedgeConfidence]
    simp [FlowBlock.path, h.vulnerability_ne, Metadata.insert_empty]
  · rw [path?_eq_none_iff]
    exact .inr rfl

/-- Reported flows are read one after the other. -/
theorem reading_blocks {blocks : List FlowBlock}
    (h : ∀ b ∈ blocks, b.Reportable sources sinks) :
    reading sources sinks {} (blocks.flatMap fun b => b.passage.marks) =
      blocks.map (·.path sources sinks) := by
  induction blocks with
  | nil => rfl
  | cons b blocks ih =>
    obtain ⟨hb, hrest⟩ := List.forall_mem_cons.mp h
    rw [List.flatMap_cons, reading_block hb, ih hrest, List.map_cons]

/-- The tag of an impact has neither blanks nor asterisks around it. -/
theorem bare_tag (i : Impact) : Bare isBlank i.tag.toList ∧ Bare isStar i.tag.toList := by
  cases i <;> decide

/-- The values of a reported flow are bare. -/
theorem bare_of_reportable {b : FlowBlock} (h : b.Reportable sources sinks) :
    ∀ m ∈ b.passage.marks, Bare isBlank m.2 ∧ Bare isStar m.2 := by
  intro m hm
  have hbare := h.texts_bare
  rw [Passage.marks, Passage.details, List.mem_append, List.mem_cons, List.mem_cons,
    List.mem_cons, List.mem_map] at hm
  rcases hm with (rfl | rfl | rfl | ⟨r, hr, rfl⟩) | hends
  · exact hbare b.vulnerability (by simp)
  · exact bare_tag b.impact
  · exact hbare b.description (by simp)
  · exact hbare r (by simp [show r ∈ b.recommendations from hr])
  · rw [List.mem_cons, List.mem_singleton] at hends
    rcases hends with rfl | rfl
    · exact hbare b.source.name (by simp)
    · exact hbare b.sink.name (by simp)

/-- **The flows of a text in the layout are the reported ones.**  Whatever endpoints are given and
    whatever flows between them are reported, in marker lines of any dress and among any other
    lines, each flow is read as one path, in order and with all that was told about it.  Its
    source is the first of the sources with the name that was told, letter case apart, and so is
    its sink; where no other endpoint has the name, they are the endpoints of the flow
    themselves. -/
theorem flows_of_layout (sources sinks : List Endpoint) (blocks : List FlowBlock)
    (ls : List (List Char)) (hblocks : ∀ b ∈ blocks, b.Reportable sources sinks)
    (hlaid : LaidOut (blocks.flatMap fun b => b.passage.marks) ls) :
    flows (String.ofList (['\n'].intercalate ls)) sources sinks =
        blocks.map (·.path sources sinks) ∧
      ∀ b ∈ blocks,
        (FirstNamed sources b.source (b.path sources sinks).source ∧
          FirstNamed sinks b.sink (b.path sources sinks).sink) ∧
        ((∀ e ∈ sources, lower e.name.toList = lower b.source.name.toList → e = b.source) →
          (∀ e ∈ sinks, lower e.name.toList = lower b.sink.name.toList → e = b.sink) →
          (b.path sources sinks).source = b.source ∧ (b.path sources sinks).sink = b.sink) := by
  constructor
  · have hbare : ∀ m ∈ blocks.flatMap fun b => b.passage.marks,
        Bare isBlank m.2 ∧ Bare isStar m.2 := by
      intro m hm
      obtain ⟨b, hb, hmem⟩ := List.mem_flatMap.mp hm
      exact bare_of_reportable (hblocks b hb) m hmem
    rw [flows_eq_reading, String.toList_ofList, hlaid.marks_eq hbare]
    exact reading_blocks hblocks
  · intro b hb
    have hsource := namesake_firstNamed (hblocks b hb).source_mem
    have hsink := namesake_firstNamed (hblocks b hb).sink_mem
    refine ⟨⟨hsource, hsink⟩, fun hsources hsinks => ⟨?_, ?_⟩⟩
    · exact hsources _ hsource.mem hsource.same
    · exact hsinks _ hsink.mem hsink.same

/-- Two flows from one source, the first of them in dressed lines and the second in plain ones. -/
def loadFlows (load store page : Endpoint) : List FlowBlock :=
  [{ vulnerability := "SQL Injection", impact := .high
     description := "`load` is likely part of the query: see store()"
     recommendations := ["Use parameters", "Validate: always"], source := load, sink := store },
   { vulnerability := "XSS", impact := .low, description := "", recommendations := []
     source := load, sink := page }]

/-- Bullets, bold type, letter cases, a plural, a carriage return and other lines are all passed
    over. -/
theorem flows_of_layout_loadFlows :
    let load : Endpoint := { nodeId := 1, name := "load", category := .userInput }
    let store : Endpoint := { nodeId := 2, name := "store", category := .databaseWrite }
    let page : Endpoint := { nodeId := 3, name := "page", category := .markupRendering }
    let blocks := loadFlows load store page
    let ls := ["Flows found:", "Vulnerability: SQL Injection", "1) impact : high",
      " • Description: `load` is likely part of the query: see store()",
      "- **RECOMMENDATIONS:** Use parameters", "recommendation: Validate: always",
      "The source is clear", "**Source**: load", "sink:store\r", "", "vulnerability: XSS",
      "impact: low", "description:", "source: load", "sink: page"].map (·.toList)
    ((∀ b ∈ blocks, b.Reportable [load] [store, page]) ∧
      LaidOut (blocks.flatMap fun b => b.passage.marks) ls) ∧
    flows (String.ofList (['\n'].intercalate ls)) [load] [store, page] =
      blocks.map (·.path [load] [store, page]) := by
  intro load store page blocks ls
  have hreportable : ∀ b ∈ blocks, b.Reportable [load] [store, page] := by
    refine List.forall_mem_cons.mpr ⟨?_, List.forall_mem_singleton.mpr ?_⟩ <;>
      refine ⟨by decide, by decide, by decide, by simp, by simp, ?_, ?_⟩ <;>
      constructor <;> decide
  have hlaid : LaidOut (blocks.flatMap fun b => b.passage.marks) ls := by
    -- The lines of the first flow.
    refine .other (by decide) (by decide) ?_
    refine .marker { word := "Vulnerability".toList, spells := spells_of_toLower (by decide) }
      " SQL Injection".toList (by decide) { lead := [' '] } (by decide) ?_
    refine .marker
      { bullet := ['1', ')'], gap := [' '], word := "impact".toList, space := [' ']
        isBullet := .inr (@IsBullet.numbered ['1'] ')' (by decide)
          (List.all_eq_true.mp (by decide)) (by decide))
        spells := spells_of_toLower (by decide) }
      " high".toList (by decide) { lead := [' '] } (by decide) ?_
    refine .marker
      { indent := [' '], bullet := ['•'], gap := [' '], word := "Description".toList
        isBullet := .inr .dot, spells := spells_of_toLower (by decide) }
      " `load` is likely part of the query: see store()".toList (by decide) { lead := [' '] }
      (by decide) ?_
    refine .marker
      { bullet := ['-'], gap := [' '], stars := ['*', '*'], word := "RECOMMENDATION".toList
        plural := ['S'], isBullet := .inr .dash, spells := spells_of_toLower (by decide)
        isPlural := .inr ⟨'S', rfl, by decide⟩ }
      "** Use parameters".toList (by decide) { stars := ['*', '*'], gap := [' '] } (by decide) ?_
    refine .marker { word := "recommendation".toList, spells := spells_of_toLower (by decide) }
      " Validate: always".toList (by decide) { lead := [' '] } (by decide) ?_
    refine .other (by decide) (by decide) ?_
    refine .marker
      { stars := ['*', '*'], word := "Source".toList, closing := ['*', '*']
        spells := spells_of_toLower (by decide) }
      " load".toList (by decide) { lead := [' '] } (by decide) ?_
    refine .marker { word := "sink".toList, spells := spells_of_toLower (by decide) }
      "store\r".toList (by decide) { trail := ['\r'] } (by decide) ?_
    -- The lines of the second flow.
    refine .other (by decide) (by decide) ?_
    refine .marker { word := "vulnerability".toList, spells := spells_of_toLower (by decide) }
      " XSS".toList (by decide) { lead := [' '] } (by decide) ?_
    refine .marker { word := "impact".toList, spells := spells_of_toLower (by decide) }
      " low".toList (by decide) { lead := [' '] } (by decide) ?_
    refine .marker { word := "description".toList, spells := spells_of_toLower (by decide) }
      "".toList (by decide) {} (by decide) ?_
    refine .marker { word := "source".toList, spells := spells_of_toLower (by decide) }
      " load".toList (by decide) { lead := [' '] } (by decide) ?_
    refine .marker { word := "sink".toList, spells := spells_of_toLower (by decide) }
      " page".toList (by decide) { lead := [' '] } (by decide) ?_
    exact .nil
  exact ⟨⟨hreportable, hlaid⟩, (flows_of_layout [load] [store, page] blocks ls hreportable hlaid).1⟩

end Extraction

end TaintReview
