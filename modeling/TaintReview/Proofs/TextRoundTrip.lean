import TaintReview.Proofs.MapRoundTrip
import TaintReview.Proofs.PrintedText

namespace TaintReview

/-!
# Findings as a text and back

The text of findings is read by another way than their map: the reader gives values only to the
parts of the text that a shape looks at, counts how deep containers nest and refuses repeated
members.  The text that is written passes all of it.

* `Json.Readable depth v` — what the reader asks of a value: that the numbers in it are legible, its
  members stand in order and its containers nest less than `depth` deep;
* `Json.value?_written` — the tree of a readable value has that value;
* `Json.covered v shape` — the shape looks at every part of the value, so `Json.select?_written`
  loses none of it;
* `Findings.ofJsonText_toJsonText` — findings are read back from their text as they were.
-/

/-! ### Values -/

namespace Json

mutual

/-- How many containers stand inside one another. -/
def nesting : Json → Nat
  | .null | .bool _ | .number _ | .string _ => 0
  | .array items => itemNesting items + 1
  | .object fields => memberNesting fields + 1

/-- How many containers stand inside one another in the items. -/
def itemNesting : List Json → Nat
  | [] => 0
  | v :: rest => max (nesting v) (itemNesting rest)

/-- How many containers stand inside one another in the members. -/
def memberNesting : List (String × Json) → Nat
  | [] => 0
  | (_, v) :: rest => max (nesting v) (memberNesting rest)

end

/-- What the reader asks of a value, `depth` levels above its limit. -/
structure Readable (depth : Nat) (v : Json) : Prop where
  floats : ∀ x ∈ v.floats, ReadsBack x
  ordered : v.Ordered
  shallow : v.nesting < depth

/-- Items are readable when what the reader asks holds of them together. -/
theorem readable_of_mem_items {depth : Nat} {items : List Json}
    (hfloats : ∀ x ∈ itemFloats items, ReadsBack x) (hordered : ItemsOrdered items)
    (hshallow : itemNesting items < depth) : ∀ v ∈ items, Readable depth v := by
  induction items with
  | nil => nofun
  | cons v rest ih =>
    obtain ⟨hfirst, hrest⟩ := List.forall_mem_append.mp hfloats
    obtain ⟨hnesting, hnestings⟩ := Nat.max_lt.mp hshallow
    exact List.forall_mem_cons.mpr
      ⟨⟨hfirst, hordered.1, hnesting⟩, ih hrest hordered.2 hnestings⟩

/-- The same for members. -/
theorem readable_of_mem_members {depth : Nat} {fields : Fields}
    (hfloats : ∀ x ∈ memberFloats fields, ReadsBack x) (hordered : MembersOrdered fields)
    (hshallow : memberNesting fields < depth) : ∀ m ∈ fields, Readable depth m.2 := by
  induction fields with
  | nil => nofun
  | cons m rest ih =>
    obtain ⟨hfirst, hrest⟩ := List.forall_mem_append.mp hfloats
    obtain ⟨hnesting, hnestings⟩ := Nat.max_lt.mp hshallow
    exact List.forall_mem_cons.mpr
      ⟨⟨hfirst, hordered.1, hnesting⟩, ih hrest hordered.2 hnestings⟩

namespace Readable

/-- A container takes one level, and its items are readable one level below. -/
theorem items {depth : Nat} {items : List Json} (h : Readable depth (.array items)) :
    ¬depth ≤ 1 ∧ ∀ v ∈ items, Readable (depth - 1) v := by
  have hshallow : itemNesting items + 1 < depth := h.shallow
  exact ⟨by omega, readable_of_mem_items h.floats h.ordered (by omega)⟩

/-- An object takes one level, too, and its members are readable one level below. -/
theorem members {depth : Nat} {fields : Fields} (h : Readable depth (.object fields)) :
    ¬depth ≤ 1 ∧ ∀ m ∈ fields, Readable (depth - 1) m.2 := by
  have hshallow : memberNesting fields + 1 < depth := h.shallow
  exact ⟨by omega, readable_of_mem_members h.floats h.ordered.2 (by omega)⟩

end Readable

mutual

/-- The tree of a readable value has that value. -/
theorem value?_written : ∀ (v : Json) {depth : Nat}, Readable depth v →
    (written v).value? depth = some v
  | .null, _, _ | .bool _, _, _ => by rw [written, Written.value?]
  | .number n, _, h => by
    obtain ⟨-, -, -, hvalue⟩ := Number.legible_iff.mp (legible_of_readsBack h.floats)
    rw [written, Written.value?, hvalue]
    rfl
  | .string s, _, _ => by
    rw [written, Written.value?, pieceText?_pieces]
    rfl
  | .array items, depth, h => by
    obtain ⟨hdepth, hitems⟩ := h.items
    rw [written, Written.value?, if_neg hdepth, itemValues?_written items hitems]
    rfl
  | .object fields, depth, h => by
    obtain ⟨hdepth, hmembers⟩ := h.members
    -- The reader sets one member after the other, which leaves members in order alone.
    have hordered : Fields.ofList fields = fields := Fields.ofList_of_ordered h.ordered.1
    rw [written, Written.value?, if_neg hdepth, memberValues?_written fields hmembers]
    exact congrArg (fun fields => some (Json.object fields)) hordered

/-- The same for the items of an array. -/
theorem itemValues?_written : ∀ (items : List Json) {depth : Nat},
    (∀ v ∈ items, Readable depth v) → itemValues? depth (writtenItems items) = some items
  | [], _, _ => by rw [writtenItems, itemValues?]
  | v :: rest, _, h => by
    obtain ⟨hv, hrest⟩ := List.forall_mem_cons.mp h
    rw [writtenItems, itemValues?, value?_written v hv, itemValues?_written rest hrest]
    rfl

/-- The same for the members of an object. -/
theorem memberValues?_written : ∀ (fields : List (String × Json)) {depth : Nat},
    (∀ m ∈ fields, Readable depth m.2) →
    memberValues? depth (writtenMembers fields) = some fields
  | [], _, _ => by rw [writtenMembers, memberValues?]
  | (k, v) :: rest, _, h => by
    obtain ⟨hv, hrest⟩ := List.forall_mem_cons.mp h
    rw [writtenMembers, memberValues?, pieceText?_pieces, value?_written v hv,
      memberValues?_written rest hrest]
    rfl

end

/-! ### Parts that are looked at -/

mutual

/-- Does the shape look at every part of the value? -/
def covered : Json → Shape → Bool
  | _, .value => true
  | .object _, .tag => false
  | _, .tag => true
  | .array items, .list item => itemsCovered items item
  | _, .list _ => true
  | .object fields, .record known => membersCovered fields known
  | .array _, .record _ => false
  | _, .record _ => true

/-- Does the shape look at every part of the items? -/
def itemsCovered : List Json → Shape → Bool
  | [], _ => true
  | v :: rest, item => covered v item && itemsCovered rest item

/-- Are all members known, and does their shape look at every part of them? -/
def membersCovered : List (String × Json) → List (String × Shape) → Bool
  | [], _ => true
  | (k, v) :: rest, known =>
    (match known.lookup k with
      | none => false
      | some shape => covered v shape) && membersCovered rest known

end

/-- The shape of any value looks at all of it. -/
@[simp] theorem covered_value (v : Json) : covered v .value = true := by
  cases v <;> rfl

/-- A tag that is a text is looked at. -/
@[simp] theorem covered_tag (s : String) : covered (.string s) .tag = true := rfl

/-- The shape of a list looks at every part of an array when the shape of its items does. -/
@[simp] theorem covered_list (items : List Json) (item : Shape) :
    covered (.array items) (.list item) = itemsCovered items item := rfl

/-- The shape of a record looks at every part of an object when it knows all members. -/
@[simp] theorem covered_record (fields : Fields) (known : List (String × Shape)) :
    covered (.object fields) (.record known) = membersCovered fields known := rfl

/-- A shape that looks at every part of what is written for one value does so for a list of them. -/
theorem itemsCovered_map {α : Type} {encode : α → Json} {item : Shape}
    (h : ∀ a, covered (encode a) item = true) (as : List α) :
    itemsCovered (as.map encode) item = true := by
  induction as with
  | nil => rfl
  | cons a rest ih =>
    rw [List.map_cons, itemsCovered, h, ih]
    rfl

/-- A key that comes before all others is not repeated. -/
theorem repeated_eq_false {key : String} {fields : Fields} (h : ∀ m ∈ fields, key < m.1) :
    repeated key fields = false := by
  rw [repeated, List.any_eq_false]
  intro m hm
  have hne : m.1 ≠ key := fun heq => String.lt_irrefl key (heq ▸ h m hm)
  simpa using hne

/-- A shape makes no difference to what has no parts. -/
theorem select?_of_nesting_eq_zero {v : Json} (h : v.nesting = 0) (shape : Shape) (depth : Nat) :
    (written v).select? shape depth = (written v).value? depth := by
  cases v with
  | array _ | object _ => simp [nesting] at h
  | null | bool _ | number _ | string _ => cases shape <;> simp [written, Written.select?]

mutual

/-- A shape that looks at every part of a readable value selects the whole value. -/
theorem select?_written : ∀ (v : Json) {shape : Shape} {depth : Nat}, covered v shape = true →
    Readable depth v → (written v).select? shape depth = some v
  | .null, shape, depth, _, h =>
    (select?_of_nesting_eq_zero rfl shape depth).trans (value?_written _ h)
  | .bool _, shape, depth, _, h =>
    (select?_of_nesting_eq_zero rfl shape depth).trans (value?_written _ h)
  | .number _, shape, depth, _, h =>
    (select?_of_nesting_eq_zero rfl shape depth).trans (value?_written _ h)
  | .string _, shape, depth, _, h =>
    (select?_of_nesting_eq_zero rfl shape depth).trans (value?_written _ h)
  | .array items, shape, depth, hcovered, h => by
    -- Only a list looks into the items; any other shape takes the value as a whole.
    have hvalue := value?_written (.array items) h
    obtain ⟨hdepth, hitems⟩ := h.items
    rw [written] at hvalue ⊢
    cases shape with
    | value | tag => simp [Written.select?, hvalue]
    | list item =>
      rw [Written.select?, if_neg hdepth, selectItems?_written items hcovered hitems]
      rfl
    | record known => cases hcovered
  | .object fields, shape, depth, hcovered, h => by
    -- Only a record looks at the members one by one.
    have hvalue := value?_written (.object fields) h
    obtain ⟨hdepth, hmembers⟩ := h.members
    have hordered : Fields.ofList fields = fields := Fields.ofList_of_ordered h.ordered.1
    rw [written] at hvalue ⊢
    cases shape with
    | value | list _ => simp [Written.select?, hvalue]
    | tag => cases hcovered
    | record known =>
      rw [Written.select?, if_neg hdepth,
        selectMembers?_written fields hcovered h.ordered.1 hmembers]
      exact congrArg (fun fields => some (Json.object fields)) hordered

/-- The same for the items of an array. -/
theorem selectItems?_written : ∀ (items : List Json) {item : Shape} {depth : Nat},
    itemsCovered items item = true → (∀ v ∈ items, Readable depth v) →
    selectItems? (writtenItems items) item depth = some items
  | [], _, _, _, _ => by rw [writtenItems, selectItems?]
  | v :: rest, item, depth, hcovered, h => by
    rw [itemsCovered, Bool.and_eq_true] at hcovered
    obtain ⟨hv, hrest⟩ := List.forall_mem_cons.mp h
    rw [writtenItems, selectItems?, select?_written v hcovered.1 hv,
      selectItems?_written rest hcovered.2 hrest]
    rfl

/-- The same for the members of an object, none of which is unknown or repeated. -/
theorem selectMembers?_written : ∀ (fields : List (String × Json)) {known : List (String × Shape)}
    {depth : Nat}, membersCovered fields known = true → Fields.Ordered fields →
    (∀ m ∈ fields, Readable depth m.2) →
    selectMembers? (writtenMembers fields) known depth = some fields
  | [], _, _, _, _, _ => by rw [writtenMembers, selectMembers?]
  | (k, v) :: rest, known, depth, hcovered, hordered, h => by
    rw [membersCovered, Bool.and_eq_true] at hcovered
    obtain ⟨hv, hrest⟩ := List.forall_mem_cons.mp h
    obtain ⟨hbefore, hordered⟩ := List.pairwise_cons.mp hordered
    have hfresh : repeated k rest = false := repeated_eq_false hbefore
    rw [writtenMembers, selectMembers?, pieceText?_pieces,
      selectMembers?_written rest hcovered.2 hordered hrest]
    cases hshape : known.lookup k with
    | none => simp [hshape] at hcovered
    | some shape =>
      rw [hshape] at hcovered
      simp [hshape, select?_written v hcovered.1 hv, hfresh]

end

end Json

/-! ### Records in order -/

open Json

/-- An endpoint lists its members in order, and so do its metadata. -/
theorem Endpoint.ordered_toFields (e : Endpoint) : (Json.object e.toFields).Ordered := by
  have hkeys : (e.toFields.map (·.1)).Pairwise (· < ·) := by
    simp only [toFields, List.map_cons, List.map_nil]
    decide
  have hid : ∀ id? : Option NodeId, (Json.ofOption .ofInt64 id?).Ordered :=
    ordered_ofOption fun _ => trivial
  have hline : ∀ line? : Option UInt32, (Json.ofOption .ofUInt32 line?).Ordered :=
    ordered_ofOption fun _ => trivial
  exact ⟨Fields.ordered_of_keys hkeys, trivial, hid _, ordered_ofFloat _, trivial, hid _, hid _,
    hline _, e.metadata.ordered, trivial, trivial, trivial⟩

/-- A path lists its members in order, and so do its ends. -/
theorem FlowPath.ordered_toFields (p : FlowPath) : (Json.object p.toFields).Ordered := by
  have hkeys : (p.toFields.map (·.1)).Pairwise (· < ·) := by
    simp only [toFields, List.map_cons, List.map_nil]
    decide
  exact ⟨Fields.ordered_of_keys hkeys, ordered_ofFloat _, trivial, trivial,
    ordered_ofList fun _ _ => trivial, p.metadata.ordered, ordered_ofList fun _ _ => trivial,
    p.sink.ordered_toFields, p.source.ordered_toFields, trivial, trivial⟩

/-! ### Findings -/

namespace Findings

/-- Findings list their members in order, and so do all records in them. -/
theorem ordered_toFields (f : Findings) : (Json.object f.toFields).Ordered := by
  have hkeys : (f.toFields.map (·.1)).Pairwise (· < ·) := by
    simp only [toFields, List.map_cons, List.map_nil]
    decide
  exact ⟨Fields.ordered_of_keys hkeys, ordered_ofList fun p _ => p.ordered_toFields, trivial,
    f.metadata.ordered, ordered_ofList fun e _ => e.ordered_toFields,
    ordered_ofList fun e _ => e.ordered_toFields, trivial, trivial⟩

/-- The reader of findings looks at all that is written for an endpoint. -/
theorem covered_endpoint (e : Endpoint) : covered (.object e.toFields) endpointShape = true := by
  simp [membersCovered, Endpoint.toFields, endpointShape, List.lookup_cons, Category.toJson]

/-- The reader of findings looks at all that is written for a path. -/
theorem covered_path (p : FlowPath) : covered (.object p.toFields) pathShape = true := by
  simp [membersCovered, FlowPath.toFields, pathShape, List.lookup_cons, Impact.toJson,
    covered_endpoint]

/-- The reader of findings looks at all that is written for findings. -/
theorem covered_findings (f : Findings) : covered (.object f.toFields) shape = true := by
  simp [membersCovered, toFields, shape, List.lookup_cons, ofList, itemsCovered_map covered_path,
    itemsCovered_map covered_endpoint]

/-- **Findings survive as a text.**  Findings with finite confidences are read back from their
    text as they were, provided that their containers nest no deeper than the reader goes and that
    the text of every floating-point number in them reads back as that number.  Nothing is asked of
    strings and integers. -/
theorem ofJsonText_toJsonText {f : Findings} (hfinite : f.isFinite = true)
    (hshallow : (Json.object f.toFields).nesting < maxDepth)
    (hfloats : ∀ x ∈ (Json.object f.toFields).floats,
      parse? (String.ofList (Number.floatText x)) = some (.ofFloat x)) :
    ofJsonText f.toJsonText = .ok f := by
  -- The text spells the tree of the findings, the tree is selected whole, and the value is decoded.
  have htree : Written.parse? f.toJsonText = some (written (.object f.toFields)) := by
    rw [toJsonText, pretty, prettyText_eq]
    exact Spacing.lines.parse?_text hfloats 0
  have hvalue : (written (.object f.toFields)).select? shape maxDepth = some (.object f.toFields) :=
    select?_written _ (covered_findings f) ⟨hfloats, f.ordered_toFields, hshallow⟩
  have hrecord : decode (.object f.toFields) = .ok f := decode_inverts hfinite
  rw [ofJsonText, htree, Option.bind_some, hvalue]
  exact congrArg (Except.mapError ReviewError.ofDecode) hrecord

/-- Findings with quotes, line ends, control characters and an emoji, the least and the greatest
    numbers, and containers inside one another, some of them empty. -/
def oddTexts : Findings where
  investigationId := "a \"quoted\" \\ path"
  sources :=
    [{ nodeId := -0x8000000000000000
       name := "first line\nsecond line"
       category := .unknown
       lineNumber := some 0xffffffff
       confidence := 0.5
       metadata := .ofFields
        [("", .object []),
         ("bounds", .array [.ofInt64 (-1), .ofUInt64 0xffffffffffffffff, .ofFloat 1e-7]),
         ("nested", .object [("\x01😀", .array [.null, .bool true]), ("empty", .array [])])] }]

/-- Findings with odd texts, wide numbers and nested metadata are read back. -/
theorem ofJsonText_toJsonText_oddTexts : ofJsonText oddTexts.toJsonText = .ok oddTexts := by
  have hfinite : oddTexts.isFinite = true := by decide
  have hshallow : (Json.object oddTexts.toFields).nesting < maxDepth := by decide +kernel
  have hfloats : ∀ x ∈ (Json.object oddTexts.toFields).floats, ReadsBack x := by
    have hlist : (Json.object oddTexts.toFields).floats = [0.5, 1e-7] := by decide +kernel
    rw [hlist]
    intro x hx
    rw [ReadsBack, parse?, Written.parse?, String.toList_ofList]
    simp only [List.mem_cons, List.not_mem_nil, or_false] at hx
    obtain rfl | rfl := hx <;> rfl
  exact ofJsonText_toJsonText hfinite hshallow hfloats

end Findings

end TaintReview
