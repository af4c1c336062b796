import TaintReview.Proofs.FlowLayout
import TaintReview.Proofs.PatternSearch

namespace TaintReview.Extraction

open Text

/-!
# Which endpoint a value names

A value is compared with the names of endpoints without regard to case, backticks and call
parentheses.  There are two rules, with opposite choices among equals: of the endpoints whose name
the value is the first one is taken, and of those whose name only stands in the value the last one
of the longest.

* `Leaves value body` — what is left of a value without backticks, calls and blanks at its ends, and
  `comparable_eq_iff` — that is compared, in lower case;
* `Names v e`, `Mentions v e` — the value `v` is the endpoint's name, or the name stands in it;
* `IsFirst v es e`, `IsLastLongest v es e` — the endpoint that each of the rules picks;
* `Found v seen best` — the outcome of looking for the last of the longest.  A step keeps this
  (`Found.step`), and so it holds after all of them (`Found.foldl`);
* `spellings name` — the ways to write a name in a text;
* **`resolve_picks`** — which endpoint a value is resolved to, and when there is none.
-/

variable {value v name : List Char} {es seen : List Endpoint} {e : Endpoint}
  {best : Option Endpoint}

/-! ### What is compared -/

/-- The parentheses of a call are dropped, and what stands before them is kept. -/
theorem dropCalls_append_call (h : ¬ ['(', ')'] <:+: name) (rest : List Char) :
    dropCalls (name ++ '(' :: ')' :: rest) = name ++ dropCalls rest := by
  induction name with
  | nil => rw [List.nil_append, dropCalls, List.nil_append]
  | cons c cs ih =>
    have hcs : ¬ ['(', ')'] <:+: cs := fun hinside =>
      h (hinside.trans (List.suffix_cons c cs).isInfix)
    -- The character is no parenthesis that the next one closes.
    have hstart : ∀ rest', c = '(' → cs ++ '(' :: ')' :: rest ≠ ')' :: rest' := by
      rintro rest' rfl heq
      cases cs with
      | nil => cases heq
      | cons d ds =>
        obtain ⟨rfl, -⟩ := List.cons.inj heq
        exact h ⟨[], ds, rfl⟩
    rw [List.cons_append, dropCalls, ih hcs, List.cons_append]
    exact fun rest' hc hrest => hstart rest' hc hrest

/-- Of pieces without calls that calls join, the pieces are left. -/
theorem dropCalls_intercalate {pieces : List (List Char)}
    (h : ∀ piece ∈ pieces, ¬ ['(', ')'] <:+: piece) :
    dropCalls (['(', ')'].intercalate pieces) = pieces.flatten := by
  induction pieces with
  | nil => rfl
  | cons piece rest ih =>
    obtain ⟨hpiece, hrest⟩ := List.forall_mem_cons.mp h
    cases rest with
    | nil =>
      rw [List.intercalate_singleton, dropCalls_of_no_call hpiece, List.flatten_cons,
        List.flatten_nil, List.append_nil]
    | cons next rest =>
      rw [List.intercalate_cons_cons, List.append_assoc, List.flatten_cons, ← ih hrest]
      exact dropCalls_append_call hpiece _

/-- Every text is made of pieces without calls that calls join. -/
theorem exists_pieces (cs : List Char) : ∃ piece pieces,
    cs = ['(', ')'].intercalate (piece :: pieces) ∧
      ∀ p ∈ piece :: pieces, ¬ ['(', ')'] <:+: p := by
  fun_induction dropCalls cs with
  | case1 =>
    refine ⟨[], [], rfl, List.forall_mem_singleton.mpr fun h => ?_⟩
    exact absurd (List.infix_nil.mp h) (List.cons_ne_nil _ _)
  | case2 cs ih =>
    obtain ⟨piece, pieces, heq, hpieces⟩ := ih
    refine ⟨[], piece :: pieces, ?_, List.forall_mem_cons.mpr ⟨fun h => ?_, hpieces⟩⟩
    · rw [List.intercalate_cons_cons, ← heq]
      rfl
    · exact absurd (List.infix_nil.mp h) (List.cons_ne_nil _ _)
  | case3 c cs hno ih =>
    obtain ⟨piece, pieces, heq, hpieces⟩ := ih
    obtain ⟨hpiece, hothers⟩ := List.forall_mem_cons.mp hpieces
    -- The character goes to the first piece.
    refine ⟨c :: piece, pieces, ?_, List.forall_mem_cons.mpr ⟨fun h => ?_, hothers⟩⟩
    · rw [heq]
      cases pieces with
      | nil => rw [List.intercalate_singleton, List.intercalate_singleton]
      | cons next rest =>
        rw [List.intercalate_cons_cons, List.intercalate_cons_cons, List.cons_append,
          List.cons_append]
    · rcases List.infix_cons_iff.mp h with ⟨rest, hprefix⟩ | hinside
      · -- A call that begins with the character would have been cut there.
        obtain ⟨rfl, hrest⟩ := List.cons.inj hprefix
        obtain rfl : ')' :: rest = piece := hrest
        cases pieces with
        | nil => exact hno rest rfl (by rw [heq, List.intercalate_singleton])
        | cons next others =>
          refine hno (rest ++ (['(', ')'] ++ ['(', ')'].intercalate (next :: others))) rfl ?_
          rw [heq, List.intercalate_cons_cons, List.append_assoc, List.cons_append]
      · exact hpiece hinside

/-- What is left of a value to be compared with names.  Backticks are taken out, the value is cut at
    the parentheses of calls, its pieces are joined, and blanks at the ends go. -/
structure Leaves (value body : List Char) : Prop where
  pieces : ∃ pieces front back,
    value.filter (· != '`') = ['(', ')'].intercalate pieces ∧
      (∀ piece ∈ pieces, ¬ ['(', ')'] <:+: piece) ∧ pieces.flatten = front ++ body ++ back ∧
      (∀ c ∈ front, isBlank c = true) ∧ ∀ c ∈ back, isBlank c = true
  bare : Bare isBlank body

/-- **A value is compared by what is left of it, in lower case.** -/
theorem comparable_eq_iff : comparable value = v ↔ ∃ body, Leaves value body ∧ v = lower body := by
  constructor
  · rintro rfl
    obtain ⟨piece, pieces, hvalue, hpieces⟩ := exists_pieces (value.filter (· != '`'))
    obtain ⟨-, front, back, htrim, hfront, hback⟩ := trim_inWords (piece :: pieces).flatten
    refine ⟨trim (piece :: pieces).flatten, ⟨⟨piece :: pieces, front, back, hvalue, hpieces, htrim,
      hfront, hback⟩, bare_trim _⟩, ?_⟩
    rw [comparable, hvalue, dropCalls_intercalate hpieces]
  · rintro ⟨body, ⟨⟨pieces, front, back, hvalue, hpieces, hjoined, hfront, hback⟩, hbare⟩, rfl⟩
    rw [comparable, hvalue, dropCalls_intercalate hpieces, hjoined, trim,
      strip_surrounded hfront hback hbare]

/-! ### The two rules -/

/-- The value is the endpoint's name, letter case apart. -/
def Names (v : List Char) (e : Endpoint) : Prop := lower e.name.toList = v

/-- The endpoint has a name, and this name stands in the value, letter case apart. -/
def Mentions (v : List Char) (e : Endpoint) : Prop :=
  e.name ≠ "" ∧ lower e.name.toList <:+: v

/-- The endpoint is the first one that the value names. -/
structure IsFirst (v : List Char) (es : List Endpoint) (e : Endpoint) : Prop where
  names : Names v e
  first : ∃ earlier later, es = earlier ++ e :: later ∧ ∀ x ∈ earlier, ¬ Names v x

/-- The endpoint is the last one with the longest name, in bytes, that the value mentions. -/
structure IsLastLongest (v : List Char) (es : List Endpoint) (e : Endpoint) : Prop where
  mentions : Mentions v e
  last : ∃ earlier later, es = earlier ++ e :: later ∧
    (∀ x ∈ earlier, Mentions v x → x.name.utf8ByteSize ≤ e.name.utf8ByteSize) ∧
    ∀ x ∈ later, Mentions v x → x.name.utf8ByteSize < e.name.utf8ByteSize

/-- A value mentions what it names. -/
theorem Names.mentions (h : Names v e) (hv : v ≠ []) : Mentions v e := by
  refine ⟨fun hname => ?_, h ▸ List.infix_refl _⟩
  rw [Names, hname] at h
  exact hv h.symm

/-- An empty value mentions nothing. -/
theorem Mentions.ne_nil (h : Mentions v e) : v ≠ [] := by
  rintro rfl
  have hname : e.name.toList ≠ [] := fun hnil => h.1 (String.toList_eq_nil_iff.mp hnil)
  exact lower_ne_nil hname (List.infix_nil.mp h.2)

theorem mentions_iff :
    (!e.name.isEmpty && contains (lower e.name.toList) v) = true ↔ Mentions v e := by
  rw [Bool.and_eq_true, Bool.not_eq_true', ← Bool.not_eq_true, String.isEmpty_iff, contains_iff]
  refine and_congr_right fun _ => ?_
  exact exists_congr fun before => exists_congr fun after => eq_comm

theorem IsFirst.mem (h : IsFirst v es e) : e ∈ es := by
  obtain ⟨earlier, later, rfl, -⟩ := h.first
  exact List.mem_append_right _ List.mem_cons_self

namespace IsLastLongest

theorem mem (h : IsLastLongest v es e) : e ∈ es := by
  obtain ⟨earlier, later, rfl, -, -⟩ := h.last
  exact List.mem_append_right _ List.mem_cons_self

theorem le (h : IsLastLongest v es e) {x : Endpoint} (hx : x ∈ es) (hmentions : Mentions v x) :
    x.name.utf8ByteSize ≤ e.name.utf8ByteSize := by
  obtain ⟨earlier, later, rfl, hearlier, hlater⟩ := h.last
  rcases List.mem_append.mp hx with hx | hx
  · exact hearlier x hx hmentions
  · rcases List.mem_cons.mp hx with rfl | hx
    · exact Nat.le_refl _
    · exact Nat.le_of_lt (hlater x hx hmentions)

/-- A further endpoint that is not mentioned, or has a shorter name, is passed over. -/
theorem append_of_lt (h : IsLastLongest v es e) {x : Endpoint}
    (hx : Mentions v x → x.name.utf8ByteSize < e.name.utf8ByteSize) :
    IsLastLongest v (es ++ [x]) e := by
  obtain ⟨earlier, later, rfl, hearlier, hlater⟩ := h.last
  refine ⟨h.mentions, earlier, later ++ [x], ?_, hearlier, ?_⟩
  · rw [List.append_assoc, List.cons_append]
  · exact List.forall_mem_append.mpr ⟨hlater, List.forall_mem_singleton.mpr hx⟩

/-- A further endpoint that is mentioned is picked if no name before it is longer. -/
theorem append_self (hmentions : Mentions v e)
    (h : ∀ x ∈ es, Mentions v x → x.name.utf8ByteSize ≤ e.name.utf8ByteSize) :
    IsLastLongest v (es ++ [e]) e :=
  ⟨hmentions, es, [], rfl, h, List.forall_mem_nil _⟩

end IsLastLongest

/-! ### Going through the list -/

/-- The endpoint found so far: the last of the longest, if one of those seen is mentioned. -/
def Found (v : List Char) (seen : List Endpoint) : Option Endpoint → Prop
  | none => ∀ x ∈ seen, ¬ Mentions v x
  | some e => IsLastLongest v seen e

/-- An endpoint that is not mentioned is passed over. -/
theorem Found.pass (h : Found v seen best) (he : ¬ Mentions v e) :
    Found v (seen ++ [e]) best := by
  cases best with
  | none => exact List.forall_mem_append.mpr ⟨h, List.forall_mem_singleton.mpr he⟩
  | some b => exact IsLastLongest.append_of_lt h fun hmentions => absurd hmentions he

/-- An endpoint that is mentioned is compared with the one found so far. -/
theorem Found.longer (h : Found v seen best) (he : Mentions v e) :
    Found v (seen ++ [e]) (longer best e) := by
  cases best with
  | none => exact IsLastLongest.append_self he fun x hx hmentions => absurd hmentions (h x hx)
  | some b =>
    rw [Extraction.longer]
    split
    · next hshorter => exact IsLastLongest.append_of_lt h fun _ => hshorter
    · next hlonger =>
      -- What is at least as long as the longest so far is at least as long as all of them.
      refine IsLastLongest.append_self he fun x hx hmentions => ?_
      exact Nat.le_trans (IsLastLongest.le h hx hmentions) (Nat.le_of_not_lt hlonger)

/-- One endpoint more, whether the value mentions it or not. -/
theorem Found.step (h : Found v seen best) (e : Endpoint) :
    Found v (seen ++ [e])
      (if (!e.name.isEmpty && contains (lower e.name.toList) v) = true
        then Extraction.longer best e else best) := by
  split
  · next he => exact h.longer (mentions_iff.mp he)
  · next he => exact h.pass fun hmentions => he (mentions_iff.mpr hmentions)

/-- Going through further endpoints finds the last of the longest of all. -/
theorem Found.foldl (h : Found v seen best) (rest : List Endpoint) :
    Found v (seen ++ rest)
      ((rest.filter fun e => !e.name.isEmpty && contains (lower e.name.toList) v).foldl
        Extraction.longer best) := by
  rw [List.foldl_filter]
  induction rest generalizing seen best with
  | nil =>
    rw [List.append_nil]
    exact h
  | cons e rest ih =>
    -- The endpoint joins those that were seen, so that one step keeps the invariant.
    have hrest := ih (h.step e)
    rw [List.append_assoc, List.singleton_append] at hrest
    exact hrest

/-! ### Resolving a value -/

/-- A value of which nothing is left has no endpoint. -/
theorem resolve_of_nil (h : comparable value = []) : resolve value es = none := by
  rw [resolve, h]
  rfl

/-- Searching for a name finds the first endpoint that has it. -/
theorem find?_names_iff :
    es.find? (fun e => lower e.name.toList == v) = some e ↔ IsFirst v es e := by
  simp only [List.find?_eq_some_iff_append, beq_iff_eq, Bool.not_eq_true', beq_eq_false_iff_ne]
  exact ⟨fun h => ⟨h.1, h.2⟩, fun h => ⟨h.names, h.first⟩⟩

/-- What the value names is taken, the first one of the list. -/
theorem resolve_of_names (hv : comparable value ≠ []) (h : ∃ e ∈ es, Names (comparable value) e) :
    ∃ e, resolve value es = some e ∧ IsFirst (comparable value) es e := by
  have hsome : (es.find? fun e => lower e.name.toList == comparable value).isSome = true := by
    rw [List.find?_isSome]
    obtain ⟨e, he, hnames⟩ := h
    exact ⟨e, he, beq_iff_eq.mpr hnames⟩
  obtain ⟨e, hfind⟩ := Option.isSome_iff_exists.mp hsome
  refine ⟨e, ?_, find?_names_iff.mp hfind⟩
  simp only [resolve, List.isEmpty_eq_false_iff.mpr hv, hfind]
  rfl

/-- When the value names nothing, the last of the longest names that it mentions is taken. -/
theorem resolve_of_not_names (hv : comparable value ≠ [])
    (h : ∀ e ∈ es, ¬ Names (comparable value) e) :
    Found (comparable value) es (resolve value es) := by
  have hfind : es.find? (fun e => lower e.name.toList == comparable value) = none := by
    refine List.find?_eq_none.mpr fun e he => ?_
    rw [beq_iff_eq]
    exact h e he
  have hfound : Found (comparable value) [] none := List.forall_mem_nil _
  simp only [resolve, List.isEmpty_eq_false_iff.mpr hv, hfind]
  exact hfound.foldl es

/-- When the value names nothing and mentions something, there is an endpoint for it. -/
theorem resolve_of_mentions (hnames : ∀ e ∈ es, ¬ Names (comparable value) e)
    (hmentions : ∃ e ∈ es, Mentions (comparable value) e) :
    ∃ e, resolve value es = some e ∧ IsLastLongest (comparable value) es e := by
  obtain ⟨x, hx, hmentions⟩ := hmentions
  have hfound := resolve_of_not_names hmentions.ne_nil hnames
  cases hresolve : resolve value es with
  | none =>
    rw [hresolve] at hfound
    exact absurd hmentions (hfound x hx)
  | some e =>
    rw [hresolve] at hfound
    exact ⟨e, rfl, hfound⟩

/-- A value that mentions nothing has no endpoint. -/
theorem resolve_eq_none_of_not_mentions (h : ∀ e ∈ es, ¬ Mentions (comparable value) e) :
    resolve value es = none := by
  by_cases hv : comparable value = []
  · exact resolve_of_nil hv
  have hfound := resolve_of_not_names hv fun e he hnames => h e he (hnames.mentions hv)
  cases hresolve : resolve value es with
  | none => rfl
  | some e =>
    rw [hresolve] at hfound
    exact absurd hfound.mentions (h e hfound.mem)

/-- A value has no endpoint exactly when it mentions none. -/
theorem resolve_eq_none_iff :
    resolve value es = none ↔
      comparable value = [] ∨ ∀ e ∈ es, ¬ Mentions (comparable value) e := by
  refine ⟨fun h => ?_, fun h => h.elim resolve_of_nil resolve_eq_none_of_not_mentions⟩
  refine .inr fun e he hmentions => ?_
  -- By either rule a mention leads to an endpoint.
  by_cases hnames : ∃ x ∈ es, Names (comparable value) x
  · obtain ⟨x, hresolve, -⟩ := resolve_of_names hmentions.ne_nil hnames
    cases h.symm.trans hresolve
  · obtain ⟨x, hresolve, -⟩ :=
      resolve_of_mentions (fun x hx hname => hnames ⟨x, hx, hname⟩) ⟨e, he, hmentions⟩
    cases h.symm.trans hresolve

/-! ### Ways to write a name -/

/-- A text in backticks. -/
def inBackticks (cs : List Char) : List Char := '`' :: cs ++ ['`']

/-- A name by itself, as a call, and both of them in backticks. -/
def spellings (name : List Char) : List (List Char) :=
  [name, inBackticks name, name ++ ['(', ')'], inBackticks (name ++ ['(', ')'])]

/-- Backticks around a value make no difference. -/
theorem comparable_inBackticks (cs : List Char) : comparable (inBackticks cs) = comparable cs := by
  have hfilter : (inBackticks cs).filter (· != '`') = cs.filter (· != '`') := by
    simp [inBackticks]
  rw [comparable, hfilter, comparable]

/-- A call is compared as its name is. -/
theorem Nameable.comparable_call (h : Nameable name) :
    comparable (name ++ ['(', ')']) = lower name := by
  have hfilter : (name ++ ['(', ')']).filter (· != '`') = name ++ ['(', ')'] := by
    refine List.filter_eq_self.mpr fun c hc => bne_iff_ne.mpr ?_
    rintro rfl
    rcases List.mem_append.mp hc with hc | hc
    · exact h.no_backtick hc
    · exact absurd hc (by decide)
  rw [comparable, hfilter, dropCalls_append_call h.no_call [], dropCalls, List.append_nil, trim,
    strip_of_bare h.bare]

/-- However a name is spelled, it is compared as it stands. -/
theorem Nameable.comparable_of_mem_spellings (h : Nameable name) :
    ∀ spelled ∈ spellings name, comparable spelled = lower name := by
  simp only [spellings, List.forall_mem_cons, comparable_inBackticks, h.comparable_eq,
    h.comparable_call, List.not_mem_nil, false_imp_iff, implies_true, and_self]

/-- **A value is resolved by the first name that it is, else by the last of the longest names in
    it.**  There is no endpoint for it exactly when nothing is left of it or no name stands in it;
    what nothing is left of names nothing, be there an endpoint without a name or not.  However the
    name of an endpoint is spelled, it is resolved to an endpoint of that name. -/
theorem resolve_picks (value : List Char) (es : List Endpoint) :
    (resolve value es = none ↔
        comparable value = [] ∨ ∀ e ∈ es, ¬ Mentions (comparable value) e) ∧
      (comparable value ≠ [] → (∃ e ∈ es, Names (comparable value) e) →
        ∃ e, resolve value es = some e ∧ IsFirst (comparable value) es e) ∧
      ((∀ e ∈ es, ¬ Names (comparable value) e) → (∃ e ∈ es, Mentions (comparable value) e) →
        ∃ e, resolve value es = some e ∧ IsLastLongest (comparable value) es e) ∧
      ∀ e ∈ es, Nameable e.name.toList → ∀ spelled ∈ spellings e.name.toList,
        ∃ found ∈ es, resolve spelled es = some found ∧
          lower found.name.toList = lower e.name.toList := by
  refine ⟨resolve_eq_none_iff, resolve_of_names, resolve_of_mentions,
    fun e he hname spelled hmem => ?_⟩
  have hspelled := hname.comparable_of_mem_spellings spelled hmem
  have hv : comparable spelled ≠ [] := hspelled ▸ lower_ne_nil hname.ne_nil
  obtain ⟨found, hresolve, hfirst⟩ := resolve_of_names hv ⟨e, he, hspelled.symm⟩
  exact ⟨found, hfirst.mem, hresolve, hfirst.names.trans hspelled⟩

/-- Two endpoints of one name, letter case apart, two with names of five bytes and one without a
    name. -/
def namesakes : List Endpoint :=
  [{ nodeId := 1, name := "", category := .unknown },
   { nodeId := 2, name := "Load", category := .fileRead },
   { nodeId := 3, name := "LOAD", category := .fileRead },
   { nodeId := 4, name := "réad", category := .fileRead },
   { nodeId := 5, name := "loads", category := .fileRead }]

/-- Of the namesakes the first is taken, and of the names of five bytes the last.  Nothing is left
    of parentheses alone. -/
theorem resolve_picks_namesakes :
    resolve "`()`".toList namesakes = none ∧
      (∃ e, resolve "`load()`".toList namesakes = some e ∧ e.nodeId = 2 ∧
        IsFirst "load".toList namesakes e) ∧
      (∃ e, resolve "RÉADs and Loads".toList namesakes = some e ∧ e.nodeId = 5 ∧
        IsLastLongest "réads and loads".toList namesakes e) ∧
      ∃ found ∈ namesakes, resolve (inBackticks "LOAD()".toList) namesakes = some found ∧
        lower found.name.toList = lower "LOAD".toList := by
  have hcall : comparable "`load()`".toList = "load".toList := by decide +kernel
  have hboth : comparable "RÉADs and Loads".toList = "réads and loads".toList := by decide +kernel
  have hfirst := (resolve_picks "`load()`".toList namesakes).2.1
  have hlongest := (resolve_picks "RÉADs and Loads".toList namesakes).2.2.1
  rw [hcall] at hfirst
  rw [hboth] at hlongest
  refine ⟨(resolve_picks _ _).1.mpr (.inl (by decide +kernel)), ?first, ?longest, ?spelled⟩
  case first =>
    have hnames : ∃ e ∈ namesakes, Names "load".toList e :=
      ⟨_, .tail _ (.head _), by unfold Names; decide +kernel⟩
    obtain ⟨e, hresolve, he⟩ := hfirst (by decide) hnames
    have hid : (resolve "`load()`".toList namesakes).map (·.nodeId) = some 2 := by decide +kernel
    rw [hresolve] at hid
    exact ⟨e, hresolve, Option.some.inj hid, he⟩
  case longest =>
    have hnames : ∀ e ∈ namesakes, ¬ Names "réads and loads".toList e := by
      unfold Names
      decide +kernel
    have hmentions : ∃ e ∈ namesakes, Mentions "réads and loads".toList e :=
      ⟨_, .tail _ (.tail _ (.tail _ (.head _))), mentions_iff.mp (by decide +kernel)⟩
    obtain ⟨e, hresolve, he⟩ := hlongest hnames hmentions
    have hid : (resolve "RÉADs and Loads".toList namesakes).map (·.nodeId) = some 5 := by
      decide +kernel
    rw [hresolve] at hid
    exact ⟨e, hresolve, Option.some.inj hid, he⟩
  case spelled =>
    have hname : Nameable "LOAD".toList := ⟨by decide, by decide, by decide, by decide⟩
    exact (resolve_picks [] namesakes).2.2.2 _ (.tail _ (.tail _ (.head _))) hname _
      (.tail _ (.tail _ (.tail _ (.head _))))

end TaintReview.Extraction
