import TaintReview.Proofs.Entities
import TaintReview.Proofs.TextRoundTrip

namespace TaintReview

/-!
# Endpoints as properties of a node

A graph store takes plain properties only.  So the members of an endpoint that are `null` are left
out, and its metadata is stored as a text on one line.  Nothing is lost by that: what is left out is
what the reader takes by default, and the text reads back as the metadata.

* `Json.Spacing.tight`, `Json.parse?_compact` — the printer of one line is a printer without blanks,
  so its text is read as the value;
* `Decode.memberOr_of_kept` — a member that may have been left out is read all the same;
* `Persistence.members?` — the members of an endpoint that properties stand for;
* **`Persistence.endpointProperties_lossless`** — properties are plain, and the endpoint can be read
  from them.
-/

/-! ### Texts on one line -/

namespace Json

/-- A printer without blanks. -/
def Spacing.tight : Spacing where
  before _ := []
  afterColon := []
  before_blank _ := List.forall_mem_nil _
  afterColon_blank := List.forall_mem_nil _

mutual

/-- The printer of one line is the one that sets no blanks; the level does not matter to it. -/
theorem compactText_eq (level : Nat) : ∀ v, compactText v = Spacing.tight.text level v
  | .null | .bool _ | .number _ | .string _ | .array [] | .object [] => rfl
  | .array (v :: rest) => by
    rw [compactText, Spacing.text, compactItems_eq (level + 1) (v :: rest)]
    simp [Spacing.tight]
  | .object (m :: rest) => by
    rw [compactText, Spacing.text, compactFields_eq (level + 1) (m :: rest)]
    simp [Spacing.tight]

/-- The same for the items of an array. -/
theorem compactItems_eq (level : Nat) : ∀ vs, compactItems vs = Spacing.tight.items level vs
  | [] => rfl
  | [v] => by
    rw [compactItems, Spacing.items, compactText_eq level v]
    rfl
  | v :: w :: rest => by
    rw [compactItems, Spacing.items, compactText_eq level v, compactItems_eq level (w :: rest)]
    rfl

/-- The same for the members of an object. -/
theorem compactFields_eq (level : Nat) : ∀ ms, compactFields ms = Spacing.tight.members level ms
  | [] => rfl
  | [(k, v)] => by
    rw [compactFields, Spacing.members, compactText_eq level v]
    simp [Spacing.tight]
  | (k, v) :: m :: rest => by
    rw [compactFields, Spacing.members, compactText_eq level v, compactFields_eq level (m :: rest)]
    simp [Spacing.tight]

end

/-- A readable value is read back from its text on one line. -/
theorem parse?_compact {v : Json} (h : Readable maxDepth v) : parse? (compact v) = some v := by
  have htree : Written.parse? (compact v) = some (written v) := by
    rw [compact, compactText_eq 0]
    exact Spacing.tight.parse?_text h.floats 0
  rw [parse?, htree]
  exact value?_written v h

end Json

/-! ### Members that are left out -/

namespace Decode

open Persistence (isNull)

variable {α : Type} {encode : α → Json} {decode : Decoder α} {m : Fields} {key : String}
  {a default : α}

/-- The test for `null` is passed by `null` alone. -/
theorem isNull_iff {v : Json} : isNull v = true ↔ v = .null := by
  cases v <;> simp [isNull]

/-- A member that is not `null` was not left out. -/
theorem get?_of_kept (hkept : m.get? key = (some (encode a)).filter fun v => !isNull v)
    (h : encode a ≠ .null) : m.get? key = some (encode a) := by
  have hnot : isNull (encode a) = false :=
    Bool.eq_false_iff.mpr fun hnull => h (isNull_iff.mp hnull)
  rw [hkept, Option.filter_some, hnot]
  rfl

/-- A member that is left out when it is `null` is read all the same, provided that only the default
    is written so. -/
theorem memberOr_of_kept (hkept : m.get? key = (some (encode a)).filter fun v => !isNull v)
    (hread : Inverts encode decode a) (hdefault : encode a = .null → a = default) :
    memberOr m key default decode = .ok a := by
  by_cases hnull : encode a = .null
  · -- The member was left out, and the default takes its place.
    have hget : m.get? key = none := by
      rw [hkept, hnull]
      rfl
    rw [memberOr, member, hget, hdefault hnull]
    rfl
  · exact memberOr_of_get? (get?_of_kept hkept hnull) hread

end Decode

/-! ### Properties -/

namespace Persistence

open Decode Json

variable {investigation : String} {e : Endpoint}

/-- Is the value none of `null`, an array and an object? -/
def isPlain : Json → Bool
  | .null | .array _ | .object _ => false
  | .bool _ | .number _ | .string _ => true

/-- The members of an endpoint that properties stand for: the investigation is left out, and the
    metadata is the value of its text. -/
def members? (properties : Fields) : Option Fields := do
  let text ← (properties.get? "metadata").bind asString?
  let metadata ← parse? text
  pure (Fields.insert "metadata" metadata (properties.filter (·.1 != "investigation_id")))

/-- What is asked of an endpoint for its metadata to be read back: that its confidence is finite,
    the containers in its metadata nest no deeper than the reader goes, and the text of every
    floating-point number in it reads back as that number. -/
structure Storable (e : Endpoint) : Prop where
  finite : e.confidence.isFinite = true
  shallow : e.metadata.toJson.nesting < maxDepth
  floats : ∀ x ∈ e.metadata.toJson.floats,
    parse? (String.ofList (Number.floatText x)) = some (.ofFloat x)

/-- The metadata of a storable endpoint can be read back. -/
theorem Storable.readable (h : Storable e) : Readable maxDepth e.metadata.toJson :=
  ⟨h.floats, e.metadata.ordered, h.shallow⟩

/-- The metadata is stored as its text. -/
theorem metadata_endpointProperties (investigation : String) (e : Endpoint) :
    (endpointProperties investigation e).get? "metadata" = some (metadataText e.metadata) := by
  rw [endpointProperties, Fields.get?_insert_of_ne (by decide), Fields.get?_insert_self]

/-- A value that may be absent is `null` or as plain as it is when it is there. -/
theorem ofOption_null_or_plain {α : Type} {encode : α → Json} (h : ∀ a, isPlain (encode a) = true)
    (a? : Option α) :
    isNull (.ofOption encode a?) = true ∨ isPlain (.ofOption encode a?) = true := by
  cases a? with
  | none => exact .inl rfl
  | some a => exact .inr (h a)

/-- A floating-point number is written as a number or as `null`. -/
theorem ofFloat_null_or_plain (x : Float) :
    isNull (.ofFloat x) = true ∨ isPlain (.ofFloat x) = true := by
  rw [Json.ofFloat]
  split
  · exact .inr rfl
  · exact .inl rfl

/-- The metadata is the only member that is a container. -/
theorem toFields_null_or_plain (e : Endpoint) :
    ∀ m ∈ e.toFields, m.1 = "metadata" ∨ isNull m.2 = true ∨ isPlain m.2 = true := by
  have hid := ofOption_null_or_plain fun id : NodeId => (rfl : isPlain (.ofInt64 id) = true)
  have hline := ofOption_null_or_plain fun n : UInt32 => (rfl : isPlain (.ofUInt32 n) = true)
  simp only [Endpoint.toFields, List.forall_mem_cons]
  exact ⟨.inr (.inr rfl), .inr (hid _), .inr (ofFloat_null_or_plain _), .inr (.inr rfl),
    .inr (hid _), .inr (hid _), .inr (hline _), .inl trivial, .inr (.inr rfl), .inr (.inr rfl),
    List.forall_mem_nil _⟩

/-- Every property is plain. -/
theorem isPlain_of_mem_endpointProperties {m : String × Json}
    (h : m ∈ endpointProperties investigation e) : isPlain m.2 = true := by
  rcases Fields.mem_of_mem_insert h with rfl | h
  · rfl
  · rcases Fields.mem_of_mem_insert h with rfl | h
    · rfl
    · -- A member of the endpoint that was kept is neither the metadata nor `null`.
      obtain ⟨hmem, hkeep⟩ := List.mem_filter.mp h
      rw [Bool.and_eq_true, bne_iff_ne, Bool.not_eq_true'] at hkeep
      rcases toFields_null_or_plain e m hmem with hmetadata | hnull | hplain
      · exact absurd hmetadata hkeep.1
      · rw [hnull] at hkeep
        cases hkeep.2
      · exact hplain

/-- The map that the properties of an endpoint stand for. -/
def restored (investigation : String) (e : Endpoint) : Fields :=
  Fields.insert "metadata" e.metadata.toJson
    ((endpointProperties investigation e).filter (·.1 != "investigation_id"))

/-- The properties of a storable endpoint stand for a map. -/
theorem members?_endpointProperties (h : Storable e) :
    members? (endpointProperties investigation e) = some (restored investigation e) := by
  rw [members?, metadata_endpointProperties]
  simp only [metadataText, Option.bind_some, asString?, Option.bind_eq_bind,
    parse?_compact h.readable]
  rfl

/-- In that map are the members of the endpoint that are not `null`. -/
theorem get?_restored (investigation : String) (e : Endpoint) {key : String}
    (hmetadata : key ≠ "metadata") (hinvestigation : key ≠ "investigation_id") :
    (restored investigation e).get? key = (e.toFields.get? key).filter fun v => !isNull v := by
  rw [restored, Fields.get?_insert_of_ne hmetadata, Fields.get?_filter_key hinvestigation,
    get?_endpointProperties investigation e hmetadata hinvestigation]

/-- Only an absent value is written as `null`, when no value is. -/
theorem ofOption_eq_null {α : Type} {encode : α → Json} (hencode : ∀ a, encode a ≠ .null)
    {a? : Option α} (h : Json.ofOption encode a? = .null) : a? = none := by
  cases a? with
  | none => rfl
  | some a => exact absurd h (hencode a)

/-- A finite number is not written as `null`. -/
theorem ofFloat_ne_null {x : Float} (h : x.isFinite = true) : Json.ofFloat x ≠ .null := by
  rw [Json.ofFloat, Number.ofFloat?, dif_pos h]
  exact Json.noConfusion

/-- The endpoint is read from the map that its properties stand for. -/
theorem ofFields_restored (investigation : String) (h : e.confidence.isFinite = true) :
    Endpoint.ofFields (restored investigation e) = .ok e := by
  have hget {key : String} (hm : key ≠ "metadata") (hi : key ≠ "investigation_id") :=
    get?_restored investigation e hm hi
  -- A member that is left out is `null`, so its value is the default; these are never left out.
  have hid : ∀ id : NodeId, Json.ofInt64 id ≠ .null := fun _ => Json.noConfusion
  have hline : ∀ line : UInt32, Json.ofUInt32 line ≠ .null := fun _ => Json.noConfusion
  have hcategory : e.category.toJson ≠ .null := Json.noConfusion
  have hstring : ∀ text, Json.string text ≠ .null := fun _ => Json.noConfusion
  have hmetadata : (restored investigation e).get? "metadata" = some e.metadata.toJson :=
    Fields.get?_insert_self _ _ _
  have hdecode : Endpoint.decodeFields (restored investigation e) = .ok e := by
    rw [Endpoint.decodeFields,
      memberOr_of_kept (hget (by decide) (by decide)) (Category.inverts e.category)
        (fun hnull => absurd hnull hcategory),
      memberOr_of_kept (hget (by decide) (by decide)) (Endpoint.nodeId?_inverts e.classNodeId)
        (ofOption_eq_null hid),
      memberOr_of_kept (hget (by decide) (by decide)) (float_inverts h)
        (fun hnull => absurd hnull (ofFloat_ne_null h)),
      memberOr_of_kept (hget (by decide) (by decide)) (string_inverts e.description)
        (fun hnull => absurd hnull (hstring _)),
      memberOr_of_kept (hget (by decide) (by decide)) (Endpoint.nodeId?_inverts e.fileNodeId)
        (ofOption_eq_null hid),
      memberOr_of_kept (hget (by decide) (by decide)) (Endpoint.nodeId?_inverts e.functionNodeId)
        (ofOption_eq_null hid),
      memberOr_of_kept (hget (by decide) (by decide)) (Endpoint.line?_inverts e.lineNumber)
        (ofOption_eq_null hline),
      memberOr_of_get? hmetadata (Metadata.inverts e.metadata),
      memberOr_of_kept (hget (by decide) (by decide)) (string_inverts e.name)
        (fun hnull => absurd hnull (hstring _)),
      member_of_get? (get?_of_kept (hget (by decide) (by decide)) (hid e.nodeId))
        (int64_inverts e.nodeId)]
    rfl
  rw [Endpoint.ofFields, hdecode]
  rfl

/-- **The properties of a node are plain, and the endpoint can be read from them.**  No property is
    `null`, an array or an object.  With the investigation left out and the metadata read from its
    text, they are a map from which the endpoint is read as it was, so different endpoints have
    different properties. -/
theorem endpointProperties_lossless (investigation : String) (e : Endpoint) :
    (∀ m ∈ endpointProperties investigation e, isPlain m.2 = true) ∧
      (endpointProperties investigation e).get? "investigation_id" = some (.string investigation) ∧
      (endpointProperties investigation e).get? "node_id" = some (.ofInt64 e.nodeId) ∧
      (Storable e → ∃ m, members? (endpointProperties investigation e) = some m ∧
        Endpoint.ofFields m = .ok e) ∧
      ∀ investigation' e', Storable e → Storable e' →
        endpointProperties investigation e = endpointProperties investigation' e' → e = e' := by
  refine ⟨fun m => isPlain_of_mem_endpointProperties,
    investigation_endpointProperties investigation e, nodeId_endpointProperties investigation e,
    fun h => ⟨_, members?_endpointProperties h, ofFields_restored investigation h.finite⟩,
    fun investigation' e' h h' heq => ?_⟩
  -- Equal properties stand for one map, and one map is read as one endpoint.
  have hmembers : restored investigation e = restored investigation' e' := by
    apply Option.some.inj
    rw [← members?_endpointProperties h, ← members?_endpointProperties h', heq]
  have hread := ofFields_restored investigation h.finite
  rw [hmembers, ofFields_restored investigation' h'.finite] at hread
  exact (Except.ok.inj hread).symm

/-- An endpoint without a file and with nested metadata, quotes and line ends. -/
def noted : Endpoint where
  nodeId := -7
  name := "a \"quoted\" \\ name"
  category := .unknown
  lineNumber := some 0xffffffff
  confidence := 0.25
  metadata := .ofFields
    [("", .object []),
     ("notes", .array [.null, .ofFloat 1e-7, .object [("first\nsecond", .bool true)]])]

/-- An endpoint with nested metadata, quotes and line ends is read from its properties. -/
theorem endpointProperties_lossless_noted :
    Storable noted ∧ ∃ m, members? (endpointProperties "x" noted) = some m ∧
      Endpoint.ofFields m = .ok noted := by
  have hfloats : ∀ x ∈ noted.metadata.toJson.floats, ReadsBack x := by
    have hlist : noted.metadata.toJson.floats = [1e-7] := by decide +kernel
    rw [hlist, List.forall_mem_singleton, ReadsBack, parse?, Written.parse?, String.toList_ofList]
    rfl
  have h : Storable noted := ⟨by decide, by decide +kernel, hfloats⟩
  exact ⟨h, (endpointProperties_lossless "x" noted).2.2.2.1 h⟩

end Persistence

end TaintReview
