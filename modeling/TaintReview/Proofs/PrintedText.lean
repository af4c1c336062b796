import TaintReview.Proofs.Spelling

namespace TaintReview.Json

/-!
# Reading what was printed

A printer decides where blanks stand and nothing else, so one argument serves every printer.

* `Spacing` — the blanks of a printer, and `Spacing.text` the text that it writes;
* `written v` — the tree that the text of a value spells;
* `takeValue_array`, `takeItems_more`, `takeMembers_last` and the like — a step of the reader each;
* `Spacing.parse?_text` — the reader finds that tree in the text of every printer;
* `prettyText_eq` — the printer of one item a line is the one that `Spacing.lines` describes.
-/

/-! ### Steps of the reader -/

variable {fuel : Nat} {cs rest after : List Char}

/-- Blanks in front of a value are nothing to the reader. -/
theorem takeValue_skip (fuel : Nat) (cs : List Char) :
    takeValue fuel (skip cs) = takeValue fuel cs := by
  cases fuel with
  | zero => rw [takeValue, takeValue]
  | succ fuel => rw [takeValue, takeValue, skip_skip]

/-- Blanks in front of the first item are nothing to the reader. -/
theorem takeItems_skip (fuel : Nat) (cs : List Char) :
    takeItems fuel (skip cs) = takeItems fuel cs := by
  cases fuel with
  | zero => rw [takeItems, takeItems]
  | succ fuel => rw [takeItems, takeItems, takeValue_skip]

/-- Blanks in front of the first key are nothing to the reader. -/
theorem takeMembers_skip (fuel : Nat) (cs : List Char) :
    takeMembers fuel (skip cs) = takeMembers fuel cs := by
  cases fuel with
  | zero => rw [takeMembers, takeMembers]
  | succ fuel => rw [takeMembers, takeMembers, skip_skip]

/-- A value is read behind any blanks, such as those that a printer sets. -/
theorem takeValue_of_blank {gap : List Char} (h : ∀ c ∈ gap, isSpace c = true) :
    takeValue fuel (gap ++ cs) = takeValue fuel cs := by
  rw [← takeValue_skip, skip_append_of_blank h, takeValue_skip]

/-- A closing bracket begins no items, which tells an empty array. -/
theorem takeItems_bracket : takeItems fuel (']' :: cs) = none := by
  have hnumber : takeNumber false (']' :: cs) = none :=
    takeNumber_of_digit?_eq_none (by decide) false
  cases fuel with
  | zero => rw [takeItems]
  | succ fuel =>
    cases fuel with
    | zero => rw [takeItems, takeValue]; rfl
    | succ fuel => simp [takeItems, takeValue, skip, isSpace, hnumber]

/-- A closing brace begins no members, which tells an empty object. -/
theorem takeMembers_brace : takeMembers fuel ('\x7d' :: cs) = none := by
  cases fuel with
  | zero => rw [takeMembers]
  | succ fuel => simp [takeMembers, skip, isSpace]

/-- An opening bracket and items are read as an array. -/
theorem takeValue_array {items : List Written} (h : takeItems fuel cs = some (items, after)) :
    takeValue (fuel + 1) ('[' :: cs) = some (.array items, after) := by
  rw [← takeItems_skip] at h
  have hopen : skip ('[' :: cs) = '[' :: cs := rfl
  rw [takeValue, hopen]
  simp only
  split
  · next heq =>
    -- An array that closes at once has no items, but there are some.
    rw [heq, takeItems_bracket] at h
    cases h
  · rw [h]
    rfl

/-- An opening brace and members are read as an object. -/
theorem takeValue_object {members : List (List Piece × Written)}
    (h : takeMembers fuel cs = some (members, after)) :
    takeValue (fuel + 1) ('\x7b' :: cs) = some (.object members, after) := by
  rw [← takeMembers_skip] at h
  have hopen : skip ('\x7b' :: cs) = '\x7b' :: cs := rfl
  rw [takeValue, hopen]
  simp only
  split
  · next heq =>
    -- An object that closes at once has no members, but there are some.
    rw [heq, takeMembers_brace] at h
    cases h
  · rw [h]
    rfl

/-- An item in front of a closing bracket is the last one. -/
theorem takeItems_last {v : Written} (hv : takeValue fuel cs = some (v, rest))
    (hend : skip rest = ']' :: after) : takeItems (fuel + 1) cs = some ([v], after) := by
  rw [takeItems, hv]
  simp [hend]

/-- An item in front of a comma is followed by the items behind the comma. -/
theorem takeItems_more {v : Written} {vs : List Written} {more : List Char}
    (hv : takeValue fuel cs = some (v, rest)) (hcomma : skip rest = ',' :: more)
    (hvs : takeItems fuel more = some (vs, after)) :
    takeItems (fuel + 1) cs = some (v :: vs, after) := by
  rw [takeItems, hv]
  simp [hcomma, hvs]

/-- A key, a colon and a value in front of a closing brace are the last member. -/
theorem takeMembers_last {key : List Piece} {v : Written} {colon value : List Char}
    (hquote : skip cs = '"' :: rest) (hkey : takeString rest = some (key, colon))
    (hcolon : skip colon = ':' :: value) {left : List Char}
    (hv : takeValue fuel value = some (v, left)) (hend : skip left = '\x7d' :: after) :
    takeMembers (fuel + 1) cs = some ([(key, v)], after) := by
  rw [takeMembers, hquote]
  simp [hkey, hcolon, hv, hend]

/-- A key, a colon and a value in front of a comma are followed by the members behind the comma. -/
theorem takeMembers_more {key : List Piece} {v : Written} {colon value : List Char}
    (hquote : skip cs = '"' :: rest) (hkey : takeString rest = some (key, colon))
    (hcolon : skip colon = ':' :: value) {left more : List Char}
    (hv : takeValue fuel value = some (v, left)) (hcomma : skip left = ',' :: more)
    {ms : List (List Piece × Written)} (hms : takeMembers fuel more = some (ms, after)) :
    takeMembers (fuel + 1) cs = some ((key, v) :: ms, after) := by
  rw [takeMembers, hquote]
  simp [hkey, hcolon, hv, hcomma, hms]

/-- The text of a string is read as the pieces of that string, up to its closing quote. -/
theorem takeValue_string (s : String) (rest : List Char) :
    takeValue (fuel + 1) (stringText s ++ rest) = some (.string (pieces s), rest) := by
  have hquote : skip (stringText s ++ rest) =
      '"' :: (s.toList.flatMap escapedChar ++ '"' :: rest) := by
    simp [stringText, skip, isSpace]
  rw [takeValue, hquote]
  simp [takeString_escaped, pieces]

/-! ### Printers -/

/-- The blanks of a printer: those in front of an item or a closing bracket, by their level, and
    those after a colon. -/
structure Spacing where
  before : Nat → List Char
  afterColon : List Char
  before_blank : ∀ level, ∀ c ∈ before level, isSpace c = true
  afterColon_blank : ∀ c ∈ afterColon, isSpace c = true

namespace Spacing

mutual

/-- The text of a value, `level` levels deep. -/
def text (sp : Spacing) (level : Nat) : Json → List Char
  | .null => "null".toList
  | .bool b => boolText b
  | .number n => n.text
  | .string s => stringText s
  | .array [] => ['[', ']']
  | .array (v :: rest) =>
    '[' :: sp.items (level + 1) (v :: rest) ++ sp.before level ++ [']']
  | .object [] => ['\x7b', '\x7d']
  | .object (m :: rest) =>
    '\x7b' :: sp.members (level + 1) (m :: rest) ++ sp.before level ++ ['\x7d']

/-- Items divided by commas. -/
def items (sp : Spacing) (level : Nat) : List Json → List Char
  | [] => []
  | [v] => sp.before level ++ sp.text level v
  | v :: w :: rest => sp.before level ++ sp.text level v ++ ',' :: sp.items level (w :: rest)

/-- Members divided by commas. -/
def members (sp : Spacing) (level : Nat) : List (String × Json) → List Char
  | [] => []
  | [(k, v)] => sp.before level ++ stringText k ++ ':' :: sp.afterColon ++ sp.text level v
  | (k, v) :: m :: rest =>
    sp.before level ++ stringText k ++ ':' :: sp.afterColon ++ sp.text level v ++
      ',' :: sp.members level (m :: rest)

end

/-- One item a line, with two blanks a level. -/
def lines : Spacing where
  before := newline
  afterColon := [' ']
  before_blank level c hc := by
    rcases List.mem_cons.mp hc with rfl | hc
    · rfl
    · rw [List.eq_of_mem_replicate hc]
      rfl
  afterColon_blank c hc := by
    rw [List.eq_of_mem_singleton hc]
    rfl

end Spacing

mutual

/-- The printer of documents is the one that sets one item a line. -/
theorem prettyText_eq (level : Nat) : ∀ v, prettyText level v = Spacing.lines.text level v
  | .null | .bool _ | .number _ | .string _ | .array [] | .object [] => rfl
  | .array (v :: rest) => by
    rw [prettyText, Spacing.text, prettyItems_eq (level + 1) (v :: rest)]
    rfl
  | .object (m :: rest) => by
    rw [prettyText, Spacing.text, prettyFields_eq (level + 1) (m :: rest)]
    rfl

/-- The same for the items of an array. -/
theorem prettyItems_eq (level : Nat) : ∀ vs, prettyItems level vs = Spacing.lines.items level vs
  | [] => rfl
  | [v] => by
    rw [prettyItems, Spacing.items, prettyText_eq level v]
    rfl
  | v :: w :: rest => by
    rw [prettyItems, Spacing.items, prettyText_eq level v, prettyItems_eq level (w :: rest)]
    rfl

/-- The same for the members of an object. -/
theorem prettyFields_eq (level : Nat) :
    ∀ ms, prettyFields level ms = Spacing.lines.members level ms
  | [] => rfl
  | [(k, v)] => by
    rw [prettyFields, Spacing.members, prettyText_eq level v]
    simp [Spacing.lines]
  | (k, v) :: m :: rest => by
    rw [prettyFields, Spacing.members, prettyText_eq level v, prettyFields_eq level (m :: rest)]
    simp [Spacing.lines]

end

/-! ### The tree of a value -/

mutual

/-- The tree that the text of a value spells. -/
def written : Json → Written
  | .null => .null
  | .bool b => .bool b
  | .number n => .number n.spelled
  | .string s => .string (pieces s)
  | .array items => .array (writtenItems items)
  | .object fields => .object (writtenMembers fields)

/-- The trees of the items of an array. -/
def writtenItems : List Json → List Written
  | [] => []
  | v :: rest => written v :: writtenItems rest

/-- The trees of the members of an object. -/
def writtenMembers : List (String × Json) → List (List Piece × Written)
  | [] => []
  | (k, v) :: rest => (pieces k, written v) :: writtenMembers rest

end

mutual

/-- The floating-point numbers in a value. -/
def floats : Json → List Float
  | .null | .bool _ | .string _ | .number (.int ..) => []
  | .number (.float x _) => [x]
  | .array items => itemFloats items
  | .object fields => memberFloats fields

/-- The floating-point numbers in the items of an array. -/
def itemFloats : List Json → List Float
  | [] => []
  | v :: rest => floats v ++ itemFloats rest

/-- The floating-point numbers in the members of an object. -/
def memberFloats : List (String × Json) → List Float
  | [] => []
  | (_, v) :: rest => floats v ++ memberFloats rest

end

/-- The text of the floating-point number is read back as it. -/
def ReadsBack (x : Float) : Prop :=
  parse? (String.ofList (Number.floatText x)) = some (.ofFloat x)

/-- Integers are legible as they stand, so only floating-point numbers need to read back. -/
theorem legible_of_readsBack {n : Number} (h : ∀ x ∈ floats (.number n), ReadsBack x) :
    n.Legible := by
  cases n with
  | int n hn => exact Number.int_legible n hn
  | float x hx =>
    have hread := h x (by simp [floats])
    rw [ReadsBack, ofFloat, Number.ofFloat?, dif_pos hx] at hread
    exact hread

namespace Spacing

variable {sp : Spacing} {level : Nat}

/-- The blanks of a printer are skipped up to what stands behind them. -/
theorem skip_before {c : Char} (hc : ¬isSpace c = true) :
    skip (sp.before level ++ c :: rest) = c :: rest := by
  rw [skip_append_of_blank (sp.before_blank level), skip, List.dropWhile_cons_of_neg hc]

/-- The blanks in front of a member are skipped up to the quote of its key. -/
theorem skip_key (k : String) :
    skip (sp.before level ++ (stringText k ++ rest)) =
      '"' :: (k.toList.flatMap escapedChar ++ '"' :: rest) := by
  rw [skip_append_of_blank (sp.before_blank level)]
  simp [stringText, skip, isSpace]

/-- A comma carries no value on. -/
theorem ends_comma : Ends (',' :: rest) := ends_cons (by decide)

mutual

/-- The reader finds the tree of a value in front of any text that does not carry it on. -/
theorem takeValue_text (sp : Spacing) (level : Nat) : ∀ (v : Json) {fuel : Nat} {rest : List Char},
    (∀ x ∈ floats v, ReadsBack x) → (sp.text level v).length ≤ fuel → Ends rest →
    ∃ left, takeValue (fuel + 1) (sp.text level v ++ rest) = some (written v, left) ∧
      skip left = skip rest
  | .null, fuel, rest, _, _, _ => ⟨rest, rfl, rfl⟩
  | .bool true, fuel, rest, _, _, _ => ⟨rest, rfl, rfl⟩
  | .bool false, fuel, rest, _, _, _ => ⟨rest, rfl, rfl⟩
  | .number n, fuel, rest, hfloats, hfuel, hrest => by
    rw [text, written]
    exact Number.takeValue_text (legible_of_readsBack hfloats) hrest fuel
  | .string s, fuel, rest, _, hfuel, _ => by
    rw [text, written]
    exact ⟨rest, takeValue_string s rest, rfl⟩
  | .array [], fuel, rest, _, hfuel, _ => ⟨rest, rfl, rfl⟩
  | .array (v :: vs), fuel, rest, hfloats, hfuel, hrest => by
    have htext : sp.text level (.array (v :: vs)) ++ rest =
        '[' :: (sp.items (level + 1) (v :: vs) ++ (sp.before level ++ ']' :: rest)) := by
      simp [text]
    -- The two brackets make up for the fuel that items need beyond their length.
    have hitems : (sp.items (level + 1) (v :: vs)).length + 2 ≤ fuel := by
      simp [text] at hfuel
      omega
    refine ⟨rest, ?_, rfl⟩
    rw [htext, written]
    exact takeValue_array (takeItems_items sp (level + 1) (v :: vs) nofun hfloats hitems
      (skip_before (by decide)))
  | .object [], fuel, rest, _, hfuel, _ => ⟨rest, rfl, rfl⟩
  | .object (m :: ms), fuel, rest, hfloats, hfuel, hrest => by
    have htext : sp.text level (.object (m :: ms)) ++ rest =
        '\x7b' :: (sp.members (level + 1) (m :: ms) ++ (sp.before level ++ '\x7d' :: rest)) := by
      simp [text]
    have hmembers : (sp.members (level + 1) (m :: ms)).length + 2 ≤ fuel := by
      simp [text] at hfuel
      omega
    refine ⟨rest, ?_, rfl⟩
    rw [htext, written]
    exact takeValue_object (takeMembers_members sp (level + 1) (m :: ms) nofun hfloats hmembers
      (skip_before (by decide)))

/-- The reader finds the trees of items in front of a closing bracket. -/
theorem takeItems_items (sp : Spacing) (level : Nat) : ∀ (vs : List Json) {fuel : Nat}
    {rest after : List Char}, vs ≠ [] → (∀ x ∈ itemFloats vs, ReadsBack x) →
    (sp.items level vs).length + 2 ≤ fuel → skip rest = ']' :: after →
    takeItems fuel (sp.items level vs ++ rest) = some (writtenItems vs, after)
  | [], _, _, _, hne, _, _, _ => absurd rfl hne
  | _ :: _, 0, _, _, _, _, hfuel, _ | _ :: _, 1, _, _, _, _, hfuel, _ => by omega
  | [v], fuel + 2, rest, after, _, hfloats, hfuel, hend => by
    have htext : sp.items level [v] ++ rest = sp.before level ++ (sp.text level v ++ rest) := by
      simp [items]
    have hshort : (sp.text level v).length ≤ fuel := by
      simp [items] at hfuel
      omega
    -- What follows the last item is the bracket, behind blanks at most, so the item ends there.
    obtain ⟨hfloat, -⟩ := List.forall_mem_append.mp hfloats
    obtain ⟨left, hread, hleft⟩ :=
      takeValue_text sp level v hfloat hshort (ends_of_skip hend (ends_cons (by decide)))
    rw [← takeValue_of_blank (sp.before_blank level), ← htext] at hread
    exact takeItems_last hread (hleft.trans hend)
  | v :: w :: vs, fuel + 2, rest, after, _, hfloats, hfuel, hend => by
    have htext : sp.items level (v :: w :: vs) ++ rest =
        sp.before level ++ (sp.text level v ++ ',' :: (sp.items level (w :: vs) ++ rest)) := by
      simp [items]
    have hshort : (sp.text level v).length ≤ fuel ∧
        (sp.items level (w :: vs)).length + 2 ≤ fuel + 1 := by
      simp [items] at hfuel
      omega
    obtain ⟨hfloat, hfloats⟩ := List.forall_mem_append.mp hfloats
    -- Here the item ends at the comma, and the rest is read from there with less fuel.
    have hvs := takeItems_items sp level (w :: vs) nofun hfloats hshort.2 hend
    obtain ⟨left, hread, hleft⟩ := takeValue_text sp level v hfloat hshort.1 ends_comma
    rw [← takeValue_of_blank (sp.before_blank level), ← htext] at hread
    exact takeItems_more hread hleft hvs

/-- The reader finds the trees of members in front of a closing brace. -/
theorem takeMembers_members (sp : Spacing) (level : Nat) : ∀ (ms : List (String × Json))
    {fuel : Nat} {rest after : List Char}, ms ≠ [] → (∀ x ∈ memberFloats ms, ReadsBack x) →
    (sp.members level ms).length + 2 ≤ fuel → skip rest = '\x7d' :: after →
    takeMembers fuel (sp.members level ms ++ rest) = some (writtenMembers ms, after)
  | [], _, _, _, hne, _, _, _ => absurd rfl hne
  | _ :: _, 0, _, _, _, _, hfuel, _ | _ :: _, 1, _, _, _, _, hfuel, _ => by omega
  | [(k, v)], fuel + 2, rest, after, _, hfloats, hfuel, hend => by
    have htext : sp.members level [(k, v)] ++ rest = sp.before level ++
        (stringText k ++ ':' :: (sp.afterColon ++ (sp.text level v ++ rest))) := by
      simp [members]
    have hshort : (sp.text level v).length ≤ fuel := by
      simp [members] at hfuel
      omega
    -- As for items, with a key and a colon in front of the value.
    obtain ⟨hfloat, -⟩ := List.forall_mem_append.mp hfloats
    obtain ⟨left, hread, hleft⟩ :=
      takeValue_text sp level v hfloat hshort (ends_of_skip hend (ends_cons (by decide)))
    rw [← takeValue_of_blank sp.afterColon_blank] at hread
    rw [htext]
    exact takeMembers_last (skip_key k) (takeString_escaped _ _) rfl hread (hleft.trans hend)
  | (k, v) :: m :: ms, fuel + 2, rest, after, _, hfloats, hfuel, hend => by
    have htext : sp.members level ((k, v) :: m :: ms) ++ rest =
        sp.before level ++ (stringText k ++ ':' :: (sp.afterColon ++
          (sp.text level v ++ ',' :: (sp.members level (m :: ms) ++ rest)))) := by
      simp [members]
    have hshort : (sp.text level v).length ≤ fuel ∧
        (sp.members level (m :: ms)).length + 2 ≤ fuel + 1 := by
      simp [members] at hfuel
      omega
    obtain ⟨hfloat, hfloats⟩ := List.forall_mem_append.mp hfloats
    have hms := takeMembers_members sp level (m :: ms) nofun hfloats hshort.2 hend
    obtain ⟨left, hread, hleft⟩ := takeValue_text sp level v hfloat hshort.1 ends_comma
    rw [← takeValue_of_blank sp.afterColon_blank] at hread
    rw [htext]
    exact takeMembers_more (skip_key k) (takeString_escaped _ _) rfl hread hleft hms

end

/-- **Printing loses nothing.**  Whatever the blanks of a printer, the text of a value spells the
    tree of that value. -/
theorem parse?_text (sp : Spacing) {v : Json} (h : ∀ x ∈ floats v, ReadsBack x) (level : Nat) :
    Written.parse? (String.ofList (sp.text level v)) = some (written v) := by
  have hfuel : (sp.text level v).length ≤ 2 * (sp.text level v).length := by omega
  obtain ⟨left, hread, hleft⟩ := takeValue_text sp level v h hfuel ends_nil
  rw [List.append_nil] at hread
  exact Written.parse?_of_takeValue hread hleft

end Spacing

end TaintReview.Json
