import Mathlib.Data.Nat.Digits.Defs
import TaintReview.Proofs.Confirmation
import TaintReview.Proofs.Entities

namespace TaintReview

open Text

/-!
# Which rows a funnel keeps

A funnel reads candidates from the rows of a query.  Stores are loose about the types of columns, so
a row may hold anything.  This file says what is read from each column and which rows are kept,
without reference to how columns are read.

* `IsNumeral`, `IsSignedNumeral` — decimal texts and the numbers that they stand for;
* `Json.ReadsAs v n` — the value stands for the integer `n`, and `Json.Shows v t` — it is shown as
  the text `t`; `asInt64?_eq_some_iff` and `asText?_eq_some_iff` say that columns are read so;
* `Record.HasInts row column ws` — the integers of the list in a column (`hasInts_iff`);
* `Candidate.Describes row c` — what the candidate of a row has from each column;
* `Funnel.Selects rows cs` — the candidates are those of the rows that have an identity, in order;
* **`Funnel.rows_kept_when_usable`** — that is what a funnel offers.
-/

/-! ### Decimal texts -/

/-- The text is made of decimal digits, at least one, and the number is what they stand for. -/
def IsNumeral (text : List Char) (n : Nat) : Prop :=
  ∃ ds : List Nat, ds ≠ [] ∧ (∀ d ∈ ds, d < 10) ∧ text = ds.map Nat.digitChar ∧
    n = Nat.ofDigits 10 ds.reverse

/-- The text is a decimal number, with a sign or without. -/
inductive IsSignedNumeral : List Char → Int → Prop where
  | plain {ds : List Char} {n : Nat} (digits : IsNumeral ds n) : IsSignedNumeral ds n
  | plus {ds : List Char} {n : Nat} (digits : IsNumeral ds n) : IsSignedNumeral ('+' :: ds) n
  | minus {ds : List Char} {n : Nat} (digits : IsNumeral ds n) : IsSignedNumeral ('-' :: ds) (-n)

theorem toNat_digitChar {d : Nat} (h : d < 10) : (Nat.digitChar d).toNat - '0'.toNat = d := by
  have hall : ∀ d < 10, (Nat.digitChar d).toNat - '0'.toNat = d := by decide
  exact hall d h

theorem digitChar_ne_sign {d : Nat} (h : d < 10) :
    Nat.digitChar d ≠ '+' ∧ Nat.digitChar d ≠ '-' := by
  have hall : ∀ d < 10, Nat.digitChar d ≠ '+' ∧ Nat.digitChar d ≠ '-' := by decide
  exact hall d h

/-- Every decimal digit is the character of its value. -/
theorem exists_digitChar {c : Char} (h : c.isDigit = true) : ∃ d < 10, Nat.digitChar d = c := by
  obtain ⟨hlo, hhi⟩ : 48 ≤ c.toNat ∧ c.toNat ≤ 57 := Char.isDigit_iff_toNat.mp h
  have hall : ∀ n < 10, Nat.digitChar n = Char.ofNat (n + 48) := by decide
  refine ⟨c.toNat - 48, by omega, ?_⟩
  rw [hall _ (by omega), Nat.sub_add_cancel hlo, Char.ofNat_toNat]

/-- A text of decimal digits is written from their values. -/
theorem exists_digits {cs : List Char} (h : ∀ c ∈ cs, c.isDigit = true) :
    ∃ ds : List Nat, (∀ d ∈ ds, d < 10) ∧ cs = ds.map Nat.digitChar := by
  induction cs with
  | nil => exact ⟨[], List.forall_mem_nil _, rfl⟩
  | cons c cs ih =>
    obtain ⟨hc, hcs⟩ := List.forall_mem_cons.mp h
    obtain ⟨d, hd, rfl⟩ := exists_digitChar hc
    obtain ⟨ds, hds, rfl⟩ := ih hcs
    exact ⟨d :: ds, List.forall_mem_cons.mpr ⟨hd, hds⟩, rfl⟩

/-- Reading digits from the left gives what they stand for. -/
theorem foldl_digitChar {ds : List Nat} (h : ∀ d ∈ ds, d < 10) :
    (ds.map Nat.digitChar).foldl (fun n c => n * 10 + (c.toNat - '0'.toNat)) 0 =
      Nat.ofDigits 10 ds.reverse := by
  rw [Nat.ofDigits_eq_foldr, List.foldr_reverse, List.foldl_map]
  apply List.foldl_ext
  intro n d hd
  rw [toNat_digitChar (h d hd), Nat.mul_comm, Nat.add_comm]
  rfl

/-- What is read from digits is the number that they stand for. -/
theorem digitsValue?_eq_some_iff {cs : List Char} {n : Nat} :
    digitsValue? cs = some n ↔ IsNumeral cs n := by
  constructor
  · intro h
    cases cs with
    | nil => cases h
    | cons c cs =>
      rw [digitsValue?] at h
      split at h
      · next hall =>
        obtain ⟨ds, hds, heq⟩ := exists_digits (List.all_eq_true.mp hall)
        refine ⟨ds, ?_, hds, heq, ?_⟩
        · rintro rfl
          cases heq
        · rw [heq, foldl_digitChar hds, Option.some.injEq] at h
          exact h.symm
      · cases h
      · simp
  · -- The characters of digits pass the test for digits.
    rintro ⟨ds, hne, hds, rfl, rfl⟩
    have hall : (ds.map Nat.digitChar).all Char.isDigit = true := by
      rw [List.all_eq_true]
      intro c hc
      obtain ⟨d, hd, rfl⟩ := List.mem_map.mp hc
      rw [Nat.isDigit_digitChar]
      exact decide_eq_true (hds d hd)
    rw [digitsValue?, if_pos hall, foldl_digitChar hds]
    simpa using hne

/-- A sign is not read as a digit. -/
theorem readInt64?_of_isSignedNumeral {cs : List Char} {n : Int} (h : IsSignedNumeral cs n) :
    readInt64? cs = int64OfInt? n := by
  cases h with
  | @plain _ n digits =>
    -- Without a sign the first character is a digit, so that none of the signed cases applies.
    have hvalue := digitsValue?_eq_some_iff.mpr digits
    obtain ⟨ds, hne, hds, rfl, -⟩ := digits
    obtain ⟨d, ds, rfl⟩ := List.exists_cons_of_ne_nil hne
    obtain ⟨hplus, hminus⟩ := digitChar_ne_sign (hds d List.mem_cons_self)
    rw [List.map_cons] at hvalue ⊢
    rw [readInt64?, hvalue, Option.bind_eq_bind, Option.bind_some]
    · exact fun rest heq => hplus (List.cons.inj heq).1
    · exact fun rest heq => hminus (List.cons.inj heq).1
  | plus digits =>
    rw [readInt64?, digitsValue?_eq_some_iff.mpr digits, Option.bind_eq_bind, Option.bind_some]
  | minus digits =>
    rw [readInt64?, digitsValue?_eq_some_iff.mpr digits, Option.bind_eq_bind, Option.bind_some]

/-! ### Integers in values -/

/-- The integer fits a signed word. -/
def FitsInt64 (n : Int) : Prop := -0x8000000000000000 ≤ n ∧ n < 0x8000000000000000

/-- The value of a signed word fits one. -/
theorem fitsInt64_toInt (w : Int64) : FitsInt64 w.toInt := by
  have hlow := w.le_toInt
  have hhigh := w.toInt_lt
  constructor <;> omega

/-- An integer becomes the word that has its value. -/
theorem int64OfInt?_eq_some_iff {n : Int} {w : Int64} : int64OfInt? n = some w ↔ n = w.toInt := by
  constructor
  · intro h
    rw [int64OfInt?] at h
    split at h
    · next hfits =>
      rw [← Option.some.inj h, Int64.toInt_ofInt_of_le (by omega) (by omega)]
    · cases h
  · rintro rfl
    exact Persistence.int64OfInt?_toInt w

/-- What is read as a word is a decimal number of its value. -/
theorem isSignedNumeral_of_readInt64? {cs : List Char} {w : Int64} (h : readInt64? cs = some w) :
    IsSignedNumeral cs w.toInt := by
  unfold readInt64? at h
  split at h
  · obtain ⟨n, hn, hw⟩ := Option.bind_eq_some_iff.mp h
    rw [← int64OfInt?_eq_some_iff.mp hw]
    exact .plus (digitsValue?_eq_some_iff.mp hn)
  · obtain ⟨n, hn, hw⟩ := Option.bind_eq_some_iff.mp h
    rw [← int64OfInt?_eq_some_iff.mp hw]
    exact .minus (digitsValue?_eq_some_iff.mp hn)
  · obtain ⟨n, hn, hw⟩ := Option.bind_eq_some_iff.mp h
    rw [← int64OfInt?_eq_some_iff.mp hw]
    exact .plain (digitsValue?_eq_some_iff.mp hn)

namespace Json

/-- The value stands for an integer: it is an integer number, or text that trims to one, in the
    range of a signed word. -/
inductive ReadsAs : Json → Int → Prop where
  | number {n : Int} {inRange} (fits : FitsInt64 n) : ReadsAs (.number (.int n inRange)) n
  | text {s : String} {n : Int} (numeral : IsSignedNumeral (trim s.toList) n)
      (fits : FitsInt64 n) : ReadsAs (.string s) n

/-- The value is shown as a text: a string as it is, a number and a truth value as they are
    written. -/
inductive Shows : Json → String → Prop where
  | string (s : String) : Shows (.string s) s
  | number (n : Number) : Shows (.number n) (String.ofList n.text)
  | yes : Shows (.bool true) "true"
  | no : Shows (.bool false) "false"

/-- **A value is read as the integer that it stands for.** -/
theorem asInt64?_eq_some_iff {v : Json} {w : Int64} : v.asInt64? = some w ↔ v.ReadsAs w.toInt := by
  constructor
  · intro h
    have hfits := fitsInt64_toInt w
    cases v with
    | number x =>
      cases x with
      | int n inRange =>
        obtain rfl := int64OfInt?_eq_some_iff.mp h
        exact .number hfits
      | float x isFinite => cases h
    | string s => exact .text (isSignedNumeral_of_readInt64? h) hfits
    | null | bool _ | array _ | object _ => cases h
  · intro h
    -- The integer is a variable here, since a relation is not split at a function of the word.
    generalize hn : w.toInt = n at h
    have hw := int64OfInt?_eq_some_iff.mpr hn.symm
    cases h with
    | number fits => exact hw
    | text numeral fits => exact (readInt64?_of_isSignedNumeral numeral).trans hw

/-- A value gives the text that it is shown as. -/
theorem asText?_eq_some_iff {v : Json} {t : String} : v.asText? = some t ↔ v.Shows t := by
  constructor
  · intro h
    cases v with
    | string s =>
      cases h
      exact .string _
    | number n =>
      cases h
      exact .number n
    | bool b =>
      cases h
      cases b
      · exact .no
      · exact .yes
    | null | array _ | object _ => cases h
  · intro h
    cases h <;> rfl

/-- The integers are what the items of a list stand for, in their order.  Items that stand for none
    are passed over. -/
inductive ItemsRead : List Json → List Int64 → Prop where
  | none : ItemsRead [] []
  | keep {v : Json} {w : Int64} {vs : List Json} {ws : List Int64} (reads : v.ReadsAs w.toInt)
      (others : ItemsRead vs ws) : ItemsRead (v :: vs) (w :: ws)
  | pass {v : Json} {vs : List Json} {ws : List Int64} (unread : ∀ w : Int64, ¬ v.ReadsAs w.toInt)
      (others : ItemsRead vs ws) : ItemsRead (v :: vs) ws

/-- **A list is read item by item.** -/
theorem itemsRead_iff {vs : List Json} {ws : List Int64} :
    ItemsRead vs ws ↔ ws = vs.filterMap asInt64? := by
  constructor
  · intro h
    induction h with
    | none => rfl
    | keep reads _ ih => rw [List.filterMap_cons_some (asInt64?_eq_some_iff.mpr reads), ih]
    | @pass v _ _ unread _ ih =>
      have hnone : v.asInt64? = Option.none :=
        Option.eq_none_iff_forall_ne_some.mpr fun w hw => unread w (asInt64?_eq_some_iff.mp hw)
      rw [List.filterMap_cons_none hnone, ih]
  · rintro rfl
    induction vs with
    | nil => exact .none
    | cons v vs ih =>
      cases hv : v.asInt64? with
      | none =>
        rw [List.filterMap_cons_none hv]
        refine .pass (fun w hw => ?_) ih
        rw [asInt64?_eq_some_iff.mpr hw] at hv
        cases hv
      | some w =>
        rw [List.filterMap_cons_some hv]
        exact .keep (asInt64?_eq_some_iff.mp hv) ih

end Json

/-! ### Columns of a row -/

namespace Record

variable {row : Record} {column : String}

/-- A column stands for an integer. -/
def HasInt (row : Record) (column : String) (n : Int) : Prop :=
  ∃ v, Fields.get? row column = some v ∧ v.ReadsAs n

/-- A column is shown as a text. -/
def HasText (row : Record) (column : String) (t : String) : Prop :=
  ∃ v, Fields.get? row column = some v ∧ v.Shows t

/-- A column is shown as a text with something else than blanks in it. -/
def HasNonBlank (row : Record) (column : String) (t : String) : Prop :=
  HasText row column t ∧ ∃ c ∈ t.toList, isBlank c = false

/-- The integers of the list in a column.  A column that holds no list has none. -/
def HasInts (row : Record) (column : String) (ws : List Int64) : Prop :=
  (∃ items, Fields.get? row column = some (.array items) ∧ Json.ItemsRead items ws) ∨
    (∀ items, Fields.get? row column ≠ some (.array items)) ∧ ws = []

/-- A column has the integers that are read from it, and no others. -/
theorem hasInts_iff {ws : List Int64} : HasInts row column ws ↔ ws = ints row column := by
  rw [HasInts, ints]
  split
  · next items hitems =>
    rw [← Json.itemsRead_iff]
    constructor
    · rintro (⟨items', hitems', hread⟩ | ⟨hnone, -⟩)
      · cases hitems.symm.trans hitems'
        exact hread
      · exact absurd hitems (hnone items)
    · exact fun hread => .inl ⟨items, hitems, hread⟩
  · next hother =>
    constructor
    · rintro (⟨items, hitems, -⟩ | ⟨-, hnil⟩)
      · exact absurd hitems (hother items)
      · exact hnil
    · exact fun hnil => .inr ⟨hother, hnil⟩

/-- The integer of a column is the one that the column stands for. -/
theorem int?_eq_some_iff {w : Int64} : int? row column = some w ↔ HasInt row column w.toInt := by
  rw [int?, Option.bind_eq_some_iff]
  simp only [Json.asInt64?_eq_some_iff, HasInt]

/-- What a column stands for fits a word. -/
theorem HasInt.exists_word {n : Int} (h : HasInt row column n) :
    ∃ w : Int64, w.toInt = n ∧ int? row column = some w := by
  have hfits : FitsInt64 n := by
    obtain ⟨v, -, hreads⟩ := h
    cases hreads with
    | number fits => exact fits
    | text _ fits => exact fits
  obtain ⟨hlow, hhigh⟩ := hfits
  have hn : (Int64.ofInt n).toInt = n := Int64.toInt_ofInt_of_le (by omega) (by omega)
  exact ⟨Int64.ofInt n, hn, int?_eq_some_iff.mpr (hn.symm ▸ h)⟩

/-- The text of a column is the one that the column is shown as. -/
theorem text?_eq_some_iff {t : String} : text? row column = some t ↔ HasText row column t := by
  rw [text?, Option.bind_eq_some_iff]
  simp only [Json.asText?_eq_some_iff, HasText]

/-- A column is shown in one way. -/
theorem HasText.unique {t t' : String} (h : HasText row column t) (h' : HasText row column t') :
    t = t' :=
  Option.some.inj ((text?_eq_some_iff.mpr h).symm.trans (text?_eq_some_iff.mpr h'))

/-- A column gives its text when there is something in it. -/
theorem nonBlank?_eq_some_iff {t : String} :
    nonBlank? row column = some t ↔ HasNonBlank row column t := by
  rw [nonBlank?, Option.filter_eq_some_iff, text?_eq_some_iff, HasNonBlank]
  simp [isBlankText]

end Record

/-! ### The candidate of a row -/

/-- The text is one that `p` allows or, when `p` allows none, one that `q` does. -/
def OrElse (p q : String → Prop) (t : String) : Prop := p t ∨ (∀ t, ¬ p t) ∧ q t

/-- A text with a default is the text, else the default. -/
theorem orElse_getD {o : Option String} {p q : String → Prop} {other : String}
    (hp : ∀ t, o = some t ↔ p t) (hq : q other) : OrElse p q (o.getD other) := by
  cases ho : o with
  | none =>
    refine .inr ⟨fun t ht => ?_, hq⟩
    rw [(hp t).mpr ht] at ho
    cases ho
  | some t => exact .inl ((hp t).mp ho)

/-- There is no choice where neither of the two leaves one. -/
theorem OrElse.unique {p q : String → Prop} {t t' : String}
    (hp : ∀ {t t'}, p t → p t' → t = t') (hq : ∀ {t t'}, q t → q t' → t = t')
    (h : OrElse p q t) (h' : OrElse p q t') : t = t' := by
  rcases h with h | ⟨hnone, h⟩
  · rcases h' with h' | ⟨hnone, -⟩
    · exact hp h h'
    · exact absurd h (hnone t)
  · rcases h' with h' | ⟨-, h'⟩
    · exact absurd h' (hnone t')
    · exact hq h h'

namespace Candidate

/-- What a candidate has from the columns of a row. -/
structure Describes (row : Record) (c : Candidate) : Prop where
  identity : Record.HasInt row "node_id" c.nodeId.toInt
  name : OrElse (Record.HasText row "name") (· = "") c.name
  kind : ∀ t, c.kind = some t ↔ Record.HasNonBlank row "kind" t
  file : ∀ n, c.fileNodeId = some n ↔ Record.HasInt row "file_node_id" n.toInt
  path : ∀ t, c.filePath = some t ↔ Record.HasNonBlank row "file_path" t
  line : ∀ n : UInt32, c.lineNumber = some n ↔ Record.HasInt row "line_number" n.toNat
  /-- The description, else the summary, else nothing. -/
  description : OrElse (Record.HasNonBlank row "description")
    (OrElse (Record.HasNonBlank row "summary") (· = "")) c.description
  /-- The row without the eight known columns. -/
  extra : c.extra = row.filter (·.1 ∉ ["node_id", "name", "kind", "file_node_id", "file_path",
    "line_number", "description", "summary"])

/-- The columns leave no choice. -/
theorem Describes.unique {row : Record} {c c' : Candidate} (h : Describes row c)
    (h' : Describes row c') : c = c' := by
  have hempty : ∀ {t t' : String}, t = "" → t' = "" → t = t' := fun ht ht' => ht.trans ht'.symm
  have hidentity : c.nodeId = c'.nodeId :=
    Option.some.inj ((Record.int?_eq_some_iff.mpr h.identity).symm.trans
      (Record.int?_eq_some_iff.mpr h'.identity))
  have hname : c.name = c'.name := h.name.unique Record.HasText.unique hempty h'.name
  have hkind : c.kind = c'.kind := Option.ext fun t => (h.kind t).trans (h'.kind t).symm
  have hfile : c.fileNodeId = c'.fileNodeId :=
    Option.ext fun n => (h.file n).trans (h'.file n).symm
  have hpath : c.filePath = c'.filePath := Option.ext fun t => (h.path t).trans (h'.path t).symm
  have hline : c.lineNumber = c'.lineNumber :=
    Option.ext fun n => (h.line n).trans (h'.line n).symm
  have hdescription : c.description = c'.description :=
    h.description.unique (fun ht ht' => ht.1.unique ht'.1)
      (OrElse.unique (fun ht ht' => ht.1.unique ht'.1) hempty) h'.description
  have hextra : c.extra = c'.extra := h.extra.trans h'.extra.symm
  cases c
  cases c'
  simp only at hidentity hname hkind hfile hpath hline hdescription hextra
  simp only [hidentity, hname, hkind, hfile, hpath, hline, hdescription, hextra]

/-- A word gives the line number that has its value. -/
theorem lineOf?_eq_some_iff {w : Int64} {n : UInt32} :
    lineOf? w = some n ↔ w.toInt = n.toNat := by
  have hbound := n.toNat_lt
  rw [lineOf?]
  constructor
  · intro h
    split at h
    · next hrange =>
      obtain ⟨hlow, hhigh⟩ := hrange
      have hn : w.toInt.toNat % 2 ^ 32 = n.toNat := by
        rw [← Option.some.inj h]
        rfl
      omega
    · cases h
  · intro h
    rw [if_pos (by omega), h]
    simp

/-- **A row with an identity has a candidate**, whatever its other columns hold. -/
theorem exists_describes {row : Record} {w : Int64} (h : Record.int? row "node_id" = some w) :
    ∃ c, ofRecord row = .ok c ∧ c.nodeId = w ∧ Describes row c := by
  rw [ofRecord, Record.requireInt, h]
  refine ⟨_, rfl, rfl, ?_⟩
  constructor
  case identity => exact Record.int?_eq_some_iff.mp h
  case name => exact orElse_getD (fun t => Record.text?_eq_some_iff) rfl
  case kind => exact fun t => Record.nonBlank?_eq_some_iff
  case file => exact fun n => Record.int?_eq_some_iff
  case path => exact fun t => Record.nonBlank?_eq_some_iff
  -- A line number is a narrower word, so that an integer can be there and give none.
  case line =>
    intro n
    show (Record.int? row "line_number").bind lineOf? = some n ↔ _
    rw [Option.bind_eq_some_iff]
    constructor
    · rintro ⟨line, hline, hn⟩
      rw [← lineOf?_eq_some_iff.mp hn]
      exact Record.int?_eq_some_iff.mp hline
    · intro hn
      obtain ⟨line, heq, hline⟩ := hn.exists_word
      exact ⟨line, hline, lineOf?_eq_some_iff.mpr heq⟩
  case description =>
    show OrElse _ _ (((Record.nonBlank? row "description").or
      (Record.nonBlank? row "summary")).getD "")
    rw [Option.getD_or]
    apply orElse_getD fun t => Record.nonBlank?_eq_some_iff
    exact orElse_getD (fun t => Record.nonBlank?_eq_some_iff) rfl
  case extra =>
    apply List.filter_congr
    intro m _
    rw [← columns]
    simp

/-- A row without an identity has no candidate. -/
theorem ofRecord_error {row : Record} (h : Record.int? row "node_id" = none) :
    ∃ e, ofRecord row = .error e := by
  rw [ofRecord, Record.requireInt, h]
  exact ⟨_, rfl⟩

end Candidate

namespace Funnel

/-- The candidates are those of the rows that have an identity, one for each and in their order. -/
inductive Selects : List Record → List Candidate → Prop where
  | none : Selects [] []
  | keep {row : Record} {c : Candidate} {rows : List Record} {cs : List Candidate}
      (describes : Candidate.Describes row c) (others : Selects rows cs) :
      Selects (row :: rows) (c :: cs)
  | pass {row : Record} {rows : List Record} {cs : List Candidate}
      (unusable : ∀ n, ¬ Record.HasInt row "node_id" n) (others : Selects rows cs) :
      Selects (row :: rows) cs

/-- The rows leave no choice. -/
theorem Selects.unique {rows : List Record} {cs cs' : List Candidate} (h : Selects rows cs)
    (h' : Selects rows cs') : cs = cs' := by
  induction h generalizing cs' with
  | none =>
    cases h'
    rfl
  | keep describes others ih =>
    cases h' with
    | keep describes' others' => rw [describes.unique describes', ih others']
    | pass unusable _ => exact absurd describes.identity (unusable _)
  | pass unusable others ih =>
    cases h' with
    | keep describes' _ => exact absurd describes'.identity (unusable _)
    | pass _ others' => exact ih others'

theorem value_usable_cons (row : Record) (rows : List Record) (s : Session) :
    (usable (row :: rows)).value s =
      match Candidate.ofRecord row with
      | .ok c => c :: (usable rows).value s
      | .error _ => (usable rows).value s := by
  rw [value_usable, value_usable, List.filterMap_cons]
  cases Candidate.ofRecord row <;> rfl

/-- The candidates that are kept are those of the usable rows. -/
theorem selects_usable (rows : List Record) (s : Session) :
    Selects rows ((usable rows).value s) := by
  induction rows with
  | nil => exact .none
  | cons row rows ih =>
    rw [value_usable_cons]
    cases hid : Record.int? row "node_id" with
    | none =>
      obtain ⟨e, he⟩ := Candidate.ofRecord_error hid
      rw [he]
      refine .pass ?_ ih
      intro n hn
      obtain ⟨w, -, hw⟩ := hn.exists_word
      rw [hid] at hw
      cases hw
    | some w =>
      obtain ⟨c, hc, -, hdescribes⟩ := Candidate.exists_describes hid
      rw [hc]
      exact .keep hdescribes ih

/-- The identity of a candidate is that of its row. -/
theorem nodeId_ofRecord (row : Record) :
    (Candidate.ofRecord row).toOption.map Candidate.nodeId = Record.int? row "node_id" := by
  cases hid : Record.int? row "node_id" with
  | none =>
    obtain ⟨e, he⟩ := Candidate.ofRecord_error hid
    rw [he]
    rfl
  | some w =>
    obtain ⟨c, hc, hw, -⟩ := Candidate.exists_describes hid
    rw [hc, ← hw]
    rfl

/-- The identities that are kept depend on one column only. -/
theorem nodeIds_usable (rows : List Record) (s : Session) :
    ((usable rows).value s).map Candidate.nodeId =
      (rows.map fun row => Fields.get? row "node_id").filterMap (·.bind Json.asInt64?) := by
  rw [value_usable, List.map_filterMap, List.filterMap_map]
  apply List.filterMap_congr
  intro row _
  exact nodeId_ofRecord row

/-- **Rows are kept exactly when they are usable.**  Of the rows that answer its query, a funnel
    offers one candidate for each whose identity is an integer or text that trims to one, in their
    order, with what the row's other columns say and with nothing else; a query that fails offers
    none.  Which rows are kept does not depend on the types of the other columns. -/
theorem rows_kept_when_usable (settings : FunnelSettings) (role : Role) (investigation : String)
    (s : Session) :
    let found := ((Funnel.keyword settings).candidates role investigation).value s
    (∀ rows, s.graph.rows (statement role) (parameters settings role investigation) = .ok rows →
      ∀ cs, Selects rows cs ↔ cs = found) ∧
    (∀ e, s.graph.rows (statement role) (parameters settings role investigation) = .error e →
      found = []) ∧
    ∀ rows rows' : List Record,
      (rows.map fun row => Fields.get? row "node_id") =
        (rows'.map fun row => Fields.get? row "node_id") →
      ((usable rows).value s).map Candidate.nodeId =
        ((usable rows').value s).map Candidate.nodeId := by
  intro found
  have hfound : found = offered settings role investigation s.graph :=
    value_byKeyword settings role investigation s
  refine ⟨?_, ?_, ?_⟩
  · intro rows hrows
    have hselects : Selects rows found := by
      have husable := selects_usable rows s
      rw [value_usable] at husable
      rw [hfound, offered, hrows]
      exact husable
    intro cs
    constructor
    · exact fun hcs => hcs.unique hselects
    · rintro rfl
      exact hselects
  · intro e he
    rw [hfound, offered, he]
  · intro rows rows' hsame
    rw [nodeIds_usable, nodeIds_usable, hsame]

/-- Rows whose identities are a number, a padded text, a fraction and a text that is no number, and
    a row without one. -/
def mixedRows : List Record :=
  [[("name", .string "load"), ("node_id", .ofInt64 7)],
   [("name", .bool true), ("node_id", .string " -12 ")],
   [("name", .string "half"), ("node_id", .ofFloat 1.5)],
   [("name", .string "twelve"), ("node_id", .string "12 a")],
   [("name", .string "lost")]]

/-- A graph that answers the query for sources with these rows. -/
def mixedSession : Session where
  graph := { handlers := [(statement .source, .ofRows mixedRows)] }

/-- The first two rows are kept, and the name that is no text is shown as one. -/
theorem rows_kept_when_usable_mixedRows :
    let found := ((Funnel.keyword {}).candidates .source "i").value mixedSession
    Selects mixedRows found ∧
      found.map (fun c => (c.nodeId, c.name)) = [(7, "load"), (-12, "true")] := by
  intro found
  have hlookup : mixedSession.graph.handlers.lookup (statement .source) =
      some (.ofRows mixedRows) := List.lookup_cons_self
  have hrows : mixedSession.graph.rows (statement .source) (parameters {} .source "i") =
      .ok mixedRows := Persistence.rows_of_lookup rfl hlookup _
  have hselects : ∀ cs, Selects mixedRows cs ↔ cs = found :=
    (rows_kept_when_usable {} .source "i" mixedSession).1 mixedRows hrows
  refine ⟨(hselects found).mpr rfl, ?_⟩
  rw [← (hselects _).mp (selects_usable mixedRows mixedSession)]
  decide +kernel

end Funnel

end TaintReview
