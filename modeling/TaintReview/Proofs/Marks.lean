import TaintReview.Proofs.FlowEnds
import TaintReview.Proofs.Texts

namespace TaintReview

/-!
# What is read from a text

Flows are read from a text line by line, and lines without a marker are passed over.  What is read
is therefore decided by the marks of the text: the markers of its lines with their values.

* `Extraction.markerLine?_of_trails` — a carriage return at the end of a line changes no mark;
* `Extraction.marks` — the marks of a text.  A line feed between two texts joins their marks
  (`marks_append`), so that a text has the marks of the lines it was joined from (`marks_joined`);
* `Extraction.reading` — the paths that a sequence of marks leads to, one `step` at a time
  (`flows_eq_reading`);
* `Extraction.flows_invent_nothing` — whatever a text says, its flows are between the given
  endpoints and each of them is backed by marker lines of its own.
-/

namespace Extraction

open Text

/-! ### A carriage return at the end of a line -/

/-- The second text is the first one with a carriage return at its end, or both are used up. -/
def Trails (cs ds : List Char) : Prop := ds = cs ++ ['\r'] ∨ cs = [] ∧ ds = []

namespace Trails

variable {cs ds : List Char}

/-- Dropping characters keeps the carriage return at the end, or uses up both texts. -/
theorem dropWhile (h : Trails cs ds) (p : Char → Bool) :
    Trails (cs.dropWhile p) (ds.dropWhile p) := by
  rcases h with rfl | ⟨rfl, rfl⟩
  · rw [Trails, List.dropWhile_append]
    by_cases hempty : cs.dropWhile p = []
    · rw [hempty, List.isEmpty_nil, if_pos rfl]
      by_cases hp : p '\r' = true
      · exact .inr ⟨rfl, List.dropWhile_cons_of_pos hp⟩
      · exact .inl (List.dropWhile_cons_of_neg hp)
    · rw [if_neg (by simpa using hempty)]
      exact .inl rfl
  · exact .inr ⟨rfl, rfl⟩

/-- Where the first text goes on, so does the second, and in the same way. -/
theorem eq_of_cons {c : Char} (h : Trails (c :: cs) ds) : ds = c :: (cs ++ ['\r']) := by
  rcases h with rfl | ⟨hnil, -⟩
  · rfl
  · cases hnil

/-- Where the first text ends, at most the carriage return is left of the second. -/
theorem eq_of_nil (h : Trails [] ds) : ds = ['\r'] ∨ ds = [] := by
  rcases h with rfl | ⟨-, rfl⟩
  · exact .inl rfl
  · exact .inr rfl

/-- A bullet is passed over in both texts. -/
theorem afterBullet (h : Trails cs ds) :
    Trails (Extraction.afterBullet cs) (Extraction.afterBullet ds) := by
  cases cs with
  | nil =>
    rcases h.eq_of_nil with rfl | rfl
    · exact .inl (by decide)
    · exact .inr ⟨rfl, rfl⟩
  | cons c cs =>
    obtain rfl := h.eq_of_cons
    rw [Extraction.afterBullet, Extraction.afterBullet]
    split
    · exact .inl rfl
    · split
      · -- The digits may be followed by a mark of the list or by something else.
        have hrest : Trails (cs.dropWhile isDecimal) ((cs ++ ['\r']).dropWhile isDecimal) :=
          dropWhile (.inl rfl) isDecimal
        generalize (cs ++ ['\r']).dropWhile isDecimal = rest' at hrest
        generalize cs.dropWhile isDecimal = rest at hrest
        cases rest with
        | nil => rcases hrest.eq_of_nil with rfl | rfl <;> exact .inl rfl
        | cons d rest =>
          obtain rfl := hrest.eq_of_cons
          by_cases hdot : d = '.'
          · subst hdot
            exact .inl rfl
          · by_cases hparen : d = ')'
            · subst hparen
              exact .inl rfl
            · simp only [List.cons.injEq, hdot, hparen, false_and, imp_self, implies_true]
              exact .inl rfl
      · exact .inl rfl

theorem afterPlural (h : Trails cs ds) :
    Trails (Extraction.afterPlural cs) (Extraction.afterPlural ds) := by
  cases cs with
  | nil =>
    rcases h.eq_of_nil with rfl | rfl
    · exact .inl (by decide)
    · exact .inr ⟨rfl, rfl⟩
  | cons c cs =>
    obtain rfl := h.eq_of_cons
    rw [Extraction.afterPlural, Extraction.afterPlural]
    split <;> exact .inl rfl

/-- A word that holds no carriage return is found in both texts or in none. -/
theorem afterWord (h : Trails cs ds) {word : List Char} (hword : '\r' ∉ word) :
    Option.Rel Trails (Extraction.afterWord word cs) (Extraction.afterWord word ds) := by
  induction word generalizing cs ds with
  | nil =>
    rw [Extraction.afterWord, Extraction.afterWord]
    exact .some h
  | cons w word ih =>
    obtain ⟨hw, hrest⟩ : '\r' ≠ w ∧ '\r' ∉ word := by simpa using hword
    cases cs with
    | nil =>
      rcases h.eq_of_nil with rfl | rfl
      · have hlower : lowerChar '\r' ≠ [w] := by
          rw [show lowerChar '\r' = ['\r'] by decide]
          exact fun heq => hw (List.cons.inj heq).1
        rw [Extraction.afterWord, Extraction.afterWord, if_neg (by simp [hlower])]
        exact .none
      · rw [Extraction.afterWord]
        exact .none
    | cons c cs =>
      obtain rfl := h.eq_of_cons
      rw [Extraction.afterWord, Extraction.afterWord]
      split
      · exact ih (.inl rfl) hrest
      · exact .none

/-- A carriage return at the end is a blank, and blanks there are dropped. -/
theorem stripEnd (h : Trails cs ds) : Text.stripEnd isBlank ds = Text.stripEnd isBlank cs := by
  rcases h with rfl | ⟨rfl, rfl⟩
  · have hblank : isBlank '\r' = true := by decide
    rw [Text.stripEnd, Text.stripEnd, List.reverse_append, List.reverse_singleton,
      List.singleton_append, List.dropWhile_cons_of_pos hblank]
  · rfl

/-- Both texts have the same value. -/
theorem markerValue (h : Trails cs ds) :
    Extraction.markerValue ds = Extraction.markerValue cs := by
  have htrim : trim ds = trim cs := (h.dropWhile isBlank).stripEnd
  rw [Extraction.markerValue, Extraction.markerValue, htrim]

/-- Both texts begin with the same marker, or neither does with any. -/
theorem takeMarker (h : Trails cs ds) :
    Option.Rel (fun m m' => m.1 = m'.1 ∧ Trails m.2 m'.2) (Extraction.takeMarker cs)
      (Extraction.takeMarker ds) := by
  rw [Extraction.takeMarker, Extraction.takeMarker]
  -- The search is followed marker by marker; of the list only its words matter.
  generalize hall : Marker.all = markers
  have hword : ∀ m ∈ markers, '\r' ∉ m.word := by
    rw [← hall]
    decide
  clear hall
  induction markers with
  | nil => exact .none
  | cons m markers ih =>
    obtain ⟨hm, hrest⟩ := List.forall_mem_cons.mp hword
    have hafter := h.afterWord hm
    rw [List.findSome?_cons, List.findSome?_cons]
    generalize Extraction.afterWord m.word cs = x at hafter
    generalize Extraction.afterWord m.word ds = y at hafter
    cases hafter with
    | none => exact ih hrest
    | some hxy => exact .some ⟨rfl, hxy⟩

end Trails

/-- **A carriage return at the end of a line changes no mark.** -/
theorem markerLine?_of_trails {line line' : List Char} (h : Trails line line') :
    markerLine? line' = markerLine? line := by
  have htaken :=
    ((((h.dropWhile isBlank).afterBullet).dropWhile isBlank).dropWhile isStar).takeMarker
  rw [markerLine?, markerLine?]
  generalize takeMarker _ = x at htaken ⊢
  generalize takeMarker _ = y at htaken ⊢
  cases htaken with
  | none => rfl
  | @some found found' hfound =>
    obtain ⟨marker, rest⟩ := found
    obtain ⟨marker', rest'⟩ := found'
    obtain ⟨rfl, hrest⟩ := hfound
    -- What follows the word is cut in the same way, up to the colon.
    have hcolon := ((hrest.afterPlural).dropWhile isStar).dropWhile isBlank
    dsimp only
    generalize ((afterPlural rest).dropWhile isStar).dropWhile isBlank = v at hcolon ⊢
    generalize ((afterPlural rest').dropWhile isStar).dropWhile isBlank = v' at hcolon ⊢
    cases v with
    | nil => rcases hcolon.eq_of_nil with rfl | rfl <;> rfl
    | cons c v =>
      obtain rfl := hcolon.eq_of_cons
      by_cases hc : c = ':'
      · subst hc
        have hvalue : markerValue (v ++ ['\r']) = markerValue v :=
          Trails.markerValue (.inl rfl)
        simp only [hvalue]
      · simp only [List.cons.injEq, hc, false_and, imp_self, implies_true]

/-- Taking a carriage return off a line changes no mark. -/
theorem markerLine?_chomped (line : List Char) :
    markerLine? (chomped line) = markerLine? line := by
  rcases chomped_cases line with h | h
  · rw [h]
  · exact (markerLine?_of_trails (.inl h)).symm

/-! ### The marks of a text -/

/-- A marker and its value. -/
abbrev Mark := Marker × List Char

/-- The marks of a text, in order. -/
def marks (text : List Char) : List Mark := (lines text).filterMap markerLine?

/-- A text of one line has at most one mark. -/
theorem marks_of_single {line : List Char} (h : '\n' ∉ line) :
    marks line = (markerLine? line).toList := by
  by_cases hne : line = []
  · subst hne
    decide
  · rw [marks, lines_of_single h hne, List.filterMap_cons]
    cases markerLine? line <;> rfl

/-- The mark of the first line comes first. -/
theorem marks_line_append {line : List Char} (h : '\n' ∉ line) (rest : List Char) :
    marks (line ++ '\n' :: rest) = (markerLine? line).toList ++ marks rest := by
  rw [marks, lines_append_newline h, List.filterMap_cons, markerLine?_chomped]
  cases markerLine? line <;> rfl

/-- **A line feed between two texts joins their marks**, whatever stands at the end of the first
    text. -/
theorem marks_append (first second : List Char) :
    marks (first ++ '\n' :: second) = marks first ++ marks second := by
  by_cases hmem : '\n' ∈ first
  · -- The first line of both sides is the same one; the rest of the text is shorter.
    obtain ⟨line, rest, rfl, hline⟩ := List.eq_append_cons_of_mem hmem
    rw [List.append_assoc, List.cons_append, marks_line_append hline, marks_line_append hline,
      marks_append rest second, List.append_assoc]
  · rw [marks_line_append hmem, marks_of_single hmem]
termination_by first.length
decreasing_by
  subst_vars
  rw [List.length_append, List.length_cons]
  omega

/-- A text has the marks of the lines from which it was joined. -/
theorem marks_joined {ls : List (List Char)} (h : ∀ line ∈ ls, '\n' ∉ line) :
    marks (['\n'].intercalate ls) = ls.filterMap markerLine? := by
  induction ls with
  | nil => rfl
  | cons line ls ih =>
    obtain ⟨hline, hrest⟩ := List.forall_mem_cons.mp h
    have hcons : (line :: ls).filterMap markerLine? =
        (markerLine? line).toList ++ ls.filterMap markerLine? := by
      rw [List.filterMap_cons]
      cases markerLine? line <;> rfl
    rw [hcons]
    cases ls with
    | nil => rw [List.intercalate_singleton, marks_of_single hline, List.filterMap_nil,
        List.append_nil]
    | cons next ls =>
      rw [List.intercalate_cons_cons, List.append_assoc, List.singleton_append,
        marks_line_append hline, ih hrest]

/-- Only lines with a marker have marks. -/
theorem filterMap_marked (ls : List (List Char)) :
    (ls.filter fun line => (markerLine? line).isSome).filterMap markerLine? =
      ls.filterMap markerLine? := by
  rw [List.filterMap_filter]
  congr 1
  funext line
  cases markerLine? line <;> rfl

/-! ### Reading marks -/

section Reading

variable (sources sinks : List Endpoint)

/-- One more mark: the draft that it leaves, and the path that it completes. -/
def step (d : Draft) (m : Mark) : Draft × Option FlowPath :=
  match (d.mark sources sinks m.1 m.2).path? with
  | some path => ({}, some path)
  | none => (d.mark sources sinks m.1 m.2, none)

/-- The paths to which marks lead, given the draft so far. -/
def reading (d : Draft) : List Mark → List FlowPath
  | [] => []
  | m :: ms => (step sources sinks d m).2.toList ++ reading (step sources sinks d m).1 ms

/-- The draft that marks leave. -/
def draftAfter (d : Draft) (ms : List Mark) : Draft :=
  ms.foldl (fun d m => (step sources sinks d m).1) d

end Reading

variable {sources sinks : List Endpoint} {d : Draft} {m : Mark}

/-- A mark completes a path and leaves an empty draft, or it only adds to the draft. -/
theorem step_cases (sources sinks : List Endpoint) (d : Draft) (m : Mark) :
    (∃ path, (d.mark sources sinks m.1 m.2).path? = some path ∧
      step sources sinks d m = ({}, some path)) ∨
    ((d.mark sources sinks m.1 m.2).path? = none ∧
      step sources sinks d m = (d.mark sources sinks m.1 m.2, none)) := by
  rw [step]
  cases hpath : (d.mark sources sinks m.1 m.2).path? with
  | none => exact .inr ⟨rfl, rfl⟩
  | some path => exact .inl ⟨path, rfl, rfl⟩

/-- Marks that come later are read with the draft that the earlier ones leave. -/
theorem reading_append (d : Draft) (ms ms' : List Mark) :
    reading sources sinks d (ms ++ ms') =
      reading sources sinks d ms ++ reading sources sinks (draftAfter sources sinks d ms) ms' := by
  induction ms generalizing d with
  | nil => rfl
  | cons m ms ih =>
    rw [List.cons_append, reading, reading, ih, List.append_assoc]
    rfl

/-- Lines are read by their marks. -/
theorem flowsFrom_eq_reading (d : Draft) (ls : List (List Char)) :
    flowsFrom sources sinks d ls = reading sources sinks d (ls.filterMap markerLine?) := by
  induction ls generalizing d with
  | nil => rfl
  | cons line ls ih =>
    rw [flowsFrom, List.filterMap_cons]
    cases markerLine? line with
    | none => exact ih d
    | some m =>
      rw [reading]
      obtain ⟨path, hpath, hstep⟩ | ⟨hpath, hstep⟩ := step_cases sources sinks d m
      · simp only [hpath, hstep, ih, Option.toList_some, List.singleton_append]
      · simp only [hpath, hstep, ih, Option.toList_none, List.nil_append]

/-- **The flows of a text are read from its marks.** -/
theorem flows_eq_reading (text : String) (sources sinks : List Endpoint) :
    flows text sources sinks = reading sources sinks {} (marks text.toList) :=
  flowsFrom_eq_reading {} (lines text.toList)

/-! ### What backs a path -/

/-- The end of a role that the draft knows. -/
def Draft.end? (role : Role) (d : Draft) : Option Endpoint :=
  match role with
  | .source => d.source
  | .sink => d.sink

/-- The marker that announces an end. -/
def Marker.ofRole : Role → Marker
  | .source => .source
  | .sink => .sink

/-- The recommendations among marks. -/
def recommended (ms : List Mark) : List String :=
  ms.filterMap fun m =>
    if m.1 = .recommendation ∧ m.2 ≠ [] then some (String.ofList m.2) else none

namespace Draft

/-- A path carries the recommendations of its draft, and its draft knows both ends. -/
theorem of_path? {path : FlowPath} (h : d.path? = some path) :
    path.recommendations = d.recommendations ∧ ∀ role, (d.end? role).isSome = true := by
  rw [path?] at h
  split at h
  · next source sink hsource hsink =>
    cases h
    refine ⟨rfl, fun role => ?_⟩
    cases role with
    | source => rw [end?, hsource, Option.isSome_some]
    | sink => rw [end?, hsink, Option.isSome_some]
  · cases h

/-- Only its own marker changes an end. -/
theorem end?_mark (role : Role) (h : m.1 ≠ Marker.ofRole role) :
    (d.mark sources sinks m.1 m.2).end? role = d.end? role := by
  obtain ⟨marker, value⟩ := m
  -- The markers of both ends are the only ones that touch an end.
  cases marker with
  | source =>
    cases role with
    | source => exact absurd rfl h
    | sink => rfl
  | sink =>
    cases role with
    | source => rfl
    | sink => exact absurd rfl h
  | vulnerability | description | impact => cases role <;> rfl
  | recommendation =>
    rw [mark]
    split
    · rfl
    · cases role <;> rfl

/-- A mark adds its recommendation to those of the draft. -/
theorem recommendations_mark :
    (d.mark sources sinks m.1 m.2).recommendations = d.recommendations ++ recommended [m] := by
  obtain ⟨marker, value⟩ := m
  cases marker with
  | source | sink | vulnerability | description | impact =>
    simp [mark, recommended]
  | recommendation =>
    by_cases hvalue : value = []
    · simp [mark, recommended, hvalue]
    · simp [mark, recommended, hvalue]

end Draft

theorem recommended_cons (m : Mark) (ms : List Mark) :
    recommended (m :: ms) = recommended [m] ++ recommended ms := by
  rw [recommended, recommended, recommended, ← List.filterMap_append, List.singleton_append]

/-- How many ends of a role the draft knows: one or none. -/
def pending (role : Role) (d : Draft) : Nat := (d.end? role).toList.length

theorem pending_le_one (role : Role) (d : Draft) : pending role d ≤ 1 := by
  rw [pending]
  cases d.end? role <;> simp

/-- **No end is used twice.**  A path takes an end that the draft knew or that this mark gives. -/
theorem pending_step (role : Role) (sources sinks : List Endpoint) (d : Draft) (m : Mark) :
    (step sources sinks d m).2.toList.length + pending role (step sources sinks d m).1 ≤
      pending role d + if m.1 = Marker.ofRole role then 1 else 0 := by
  -- A mark of another kind leaves the end as it was, and one of this kind counts for one.
  have hmark : pending role (d.mark sources sinks m.1 m.2) ≤
      pending role d + if m.1 = Marker.ofRole role then 1 else 0 := by
    by_cases hm : m.1 = Marker.ofRole role
    · have hone := pending_le_one role (d.mark sources sinks m.1 m.2)
      rw [if_pos hm]
      omega
    · have hsame : pending role (d.mark sources sinks m.1 m.2) = pending role d := by
        rw [pending, pending, Draft.end?_mark role hm]
      rw [if_neg hm]
      omega
  obtain ⟨path, hpath, hstep⟩ | ⟨-, hstep⟩ := step_cases sources sinks d m
  · have hone : pending role (d.mark sources sinks m.1 m.2) = 1 := by
      obtain ⟨e, he⟩ := Option.isSome_iff_exists.mp ((Draft.of_path? hpath).2 role)
      rw [pending, he, Option.toList_some, List.length_singleton]
    have hempty : pending role ({} : Draft) = 0 := by cases role <;> rfl
    rw [hstep, Option.toList_some, List.length_singleton, hempty]
    omega
  · rw [hstep, Option.toList_none, List.length_nil, Nat.zero_add]
    exact hmark

/-- There are no more paths than marks that announce an end, but for the end that the draft may
    know already. -/
theorem length_reading_le (role : Role) (sources sinks : List Endpoint) (d : Draft)
    (ms : List Mark) :
    (reading sources sinks d ms).length ≤
      pending role d + ms.countP (·.1 = Marker.ofRole role) := by
  induction ms generalizing d with
  | nil => exact Nat.zero_le _
  | cons m ms ih =>
    have hstep := pending_step role sources sinks d m
    have hrest := ih (step sources sinks d m).1
    rw [reading, List.length_append, List.countP_cons]
    simp only [decide_eq_true_eq]
    omega

/-- **No recommendation is lost or told twice.**  Those of the draft and of the marks are those of
    the paths and of the draft that is left. -/
theorem recommendations_reading (d : Draft) (ms : List Mark) :
    (reading sources sinks d ms).flatMap (·.recommendations) ++
        (draftAfter sources sinks d ms).recommendations =
      d.recommendations ++ recommended ms := by
  induction ms generalizing d with
  | nil => exact (List.append_nil _).symm
  | cons m ms ih =>
    have hrest := ih (step sources sinks d m).1
    have hmark : (d.mark sources sinks m.1 m.2).recommendations =
        d.recommendations ++ recommended [m] := Draft.recommendations_mark
    have hafter : draftAfter sources sinks d (m :: ms) =
        draftAfter sources sinks (step sources sinks d m).1 ms := rfl
    rw [reading, List.flatMap_append, List.append_assoc, hafter, hrest, recommended_cons,
      ← List.append_assoc, ← List.append_assoc, ← hmark]
    -- A path takes the recommendations of the draft with it, and the next draft has none.
    obtain ⟨path, hpath, hstep⟩ | ⟨-, hstep⟩ := step_cases sources sinks d m
    · rw [hstep, Option.toList_some, List.flatMap_singleton, (Draft.of_path? hpath).1,
        List.append_nil]
    · rw [hstep, Option.toList_none, List.flatMap_nil, List.nil_append]

/-- **Whatever a text says, its flows invent and repeat nothing.**  Every path is between two of
    the given endpoints.  There are at most as many paths as lines that announce a source, and as
    lines that announce a sink, and their recommendations are the first ones of the text, each
    told once.  Lines without a marker make no difference, wherever they stand, and a text that
    goes on after a line feed adds paths at the end only. -/
theorem flows_invent_nothing (sources sinks : List Endpoint) :
    (∀ text : String,
      (∀ p ∈ flows text sources sinks, p.source ∈ sources ∧ p.sink ∈ sinks) ∧
      (flows text sources sinks).length ≤ (marks text.toList).countP (·.1 = .source) ∧
      (flows text sources sinks).length ≤ (marks text.toList).countP (·.1 = .sink) ∧
      (flows text sources sinks).flatMap (·.recommendations) <+:
        recommended (marks text.toList)) ∧
    (∀ ls ls' : List (List Char), (∀ line ∈ ls, '\n' ∉ line) → (∀ line ∈ ls', '\n' ∉ line) →
      ls.filter (fun line => (markerLine? line).isSome) =
        ls'.filter (fun line => (markerLine? line).isSome) →
      flows (String.ofList (['\n'].intercalate ls)) sources sinks =
        flows (String.ofList (['\n'].intercalate ls')) sources sinks) ∧
    ∀ first second : String,
      flows first sources sinks <+: flows (first ++ "\n" ++ second) sources sinks := by
  refine ⟨fun text => ⟨flows_joins text sources sinks, ?_, ?_, ?_⟩, ?_, ?_⟩
  · rw [flows_eq_reading]
    have hsource := length_reading_le .source sources sinks {} (marks text.toList)
    rwa [show pending .source ({} : Draft) = 0 from rfl, Nat.zero_add] at hsource
  · rw [flows_eq_reading]
    have hsink := length_reading_le .sink sources sinks {} (marks text.toList)
    rwa [show pending .sink ({} : Draft) = 0 from rfl, Nat.zero_add] at hsink
  · rw [flows_eq_reading]
    exact ⟨_, recommendations_reading {} (marks text.toList)⟩
  · intro ls ls' hls hls' hmarked
    rw [flows_eq_reading, flows_eq_reading, String.toList_ofList, String.toList_ofList,
      marks_joined hls, marks_joined hls', ← filterMap_marked ls, hmarked, filterMap_marked ls']
  · intro first second
    have hmarks : marks (first ++ "\n" ++ second).toList =
        marks first.toList ++ marks second.toList := by
      rw [String.toList_append, String.toList_append, List.append_assoc]
      exact marks_append first.toList second.toList
    rw [flows_eq_reading, flows_eq_reading, hmarks, reading_append]
    exact List.prefix_append _ _

/-- Chatter around two marker lines, a text without it, and a text that goes on. -/
theorem flows_invent_nothing_chatter :
    let load : Endpoint := { nodeId := 1, name := "load", category := .userInput }
    let store : Endpoint := { nodeId := 2, name := "store", category := .databaseWrite }
    let chatty := ["Sure:", "Source: load", "", "The sink is clear", "Sink: store"].map (·.toList)
    let plain := ["Source: load", "Sink: store"].map (·.toList)
    ((∀ line ∈ chatty, '\n' ∉ line) ∧ (∀ line ∈ plain, '\n' ∉ line) ∧
      chatty.filter (fun line => (markerLine? line).isSome) =
        plain.filter (fun line => (markerLine? line).isSome)) ∧
    flows (String.ofList (['\n'].intercalate chatty)) [load] [store] =
      flows (String.ofList (['\n'].intercalate plain)) [load] [store] ∧
    (flows (String.ofList (['\n'].intercalate plain)) [load] [store]).map (·.source.nodeId) =
      [1] ∧
    flows "Source: load\nSink: store\r" [load] [store] <+:
      flows ("Source: load\nSink: store\r" ++ "\n" ++ "Source: load") [load] [store] := by
  intro load store chatty plain
  have hlines : (∀ line ∈ chatty, '\n' ∉ line) ∧ (∀ line ∈ plain, '\n' ∉ line) ∧
      chatty.filter (fun line => (markerLine? line).isSome) =
        plain.filter (fun line => (markerLine? line).isSome) := by
    decide +kernel
  obtain ⟨-, hsame, hgrows⟩ := flows_invent_nothing [load] [store]
  refine ⟨hlines, hsame chatty plain hlines.1 hlines.2.1 hlines.2.2, ?_, hgrows _ _⟩
  decide +kernel

end Extraction

end TaintReview
