import TaintReview.Findings

namespace TaintReview

/-!
# Records as maps and back

Endpoints, paths and findings are written as maps and read from them.  The reader takes more than
the writer gives: members may be missing or unknown, a tag may be the key of an object, a number may
be an integer, and a record inside another one may be the list of its fields.

* `Decode.Inverts encode decode a` — what is written for `a` is read as `a`; there is one lemma for
  each kind of member, and `Decode.memberOr_of_get?` takes them to the members of a record;
* `Endpoint.decodeFields_toFields`, `FlowPath.decodeFields_toFields`,
  `Findings.decodeFields_toFields` — the three records;
* `maps_read_back` — reading undoes writing, and writing what was read settles it.
-/

/-! ### Finite confidences -/

/-- Is the confidence finite?  What is not finite is written as `null`, which is no number. -/
def Endpoint.isFinite (e : Endpoint) : Bool := e.confidence.isFinite

/-- Are the confidences of the path and its ends finite? -/
def FlowPath.isFinite (p : FlowPath) : Bool :=
  p.confidence.isFinite && p.source.isFinite && p.sink.isFinite

/-- Are all confidences in the findings finite? -/
def Findings.isFinite (f : Findings) : Bool :=
  f.sources.all (·.isFinite) && f.sinks.all (·.isFinite) && f.paths.all (·.isFinite)

/-! ### Members -/

namespace Decode

variable {α : Type} {encode : α → Json} {decode : Decoder α}

/-- What is written for the value is read as the value. -/
def Inverts (encode : α → Json) (decode : Decoder α) (a : α) : Prop := decode (encode a) = .ok a

/-- Texts are read as they were written. -/
theorem string_inverts (s : String) : Inverts .string string s := rfl

/-- An integer in the bounds is accepted. -/
theorem intBetween_int {least bound n : Int} {expected : String}
    {hword : -0x8000000000000000 ≤ n ∧ n < 0x10000000000000000} (h : least ≤ n ∧ n < bound) :
    intBetween least bound expected (.number (.int n hword)) = .ok n :=
  if_pos h

/-- Signed words are read as they were written. -/
theorem int64_inverts (n : Int64) : Inverts .ofInt64 int64 n := by
  have hlow := n.le_toInt
  have hhigh := n.toInt_lt
  rw [Inverts, Json.ofInt64, Number.ofInt64, int64, intBetween_int ⟨by omega, by omega⟩]
  -- The bounds of the reader are those of the type.
  exact congrArg Except.ok (Int64.ofInt_toInt n)

/-- Half words are read as they were written. -/
theorem uint32_inverts (n : UInt32) : Inverts .ofUInt32 uint32 n := by
  have hhigh := n.toNat_lt
  have hback : (n.toNat : Int).toNat.toUInt32 = n := by
    rw [Int.toNat_natCast]
    exact UInt32.ofNat_toNat
  rw [Inverts, Json.ofUInt32, Number.ofUInt32, uint32, intBetween_int ⟨by omega, by omega⟩]
  exact congrArg Except.ok hback

/-- Only a finite number is written as one. -/
theorem float_inverts {x : Float} (h : x.isFinite = true) : Inverts .ofFloat float x := by
  rw [Inverts, Json.ofFloat, Number.ofFloat?, dif_pos h]
  rfl

/-- An absent value is told by `null`, so nothing that is there may be written so. -/
theorem nullable_inverts (hnull : ∀ a, encode a ≠ .null) {a? : Option α}
    (h : ∀ a ∈ a?, Inverts encode decode a) :
    Inverts (.ofOption encode) (nullable decode) a? := by
  cases a? with
  | none => rfl
  | some a =>
    have hread : nullable decode (encode a) = some <$> decode (encode a) := by
      rw [nullable]
      exact hnull a
    rw [Inverts, Json.ofOption, hread, h a rfl]
    rfl

/-- A list is read as it was written when each of its items is. -/
theorem list_inverts {as : List α} (h : ∀ a ∈ as, Inverts encode decode a) :
    Inverts (.ofList encode) (list decode) as := by
  show (as.map encode).mapM decode = .ok as
  induction as with
  | nil => rfl
  | cons a rest ih =>
    obtain ⟨ha, hrest⟩ := List.forall_mem_cons.mp h
    rw [List.map_cons, List.mapM_cons, ha, ih hrest]
    rfl

/-- A member that is there is read. -/
theorem member_of_get? {m : Fields} {key : String} {v : Json} {a : α} (hget : m.get? key = some v)
    (hread : decode v = .ok a) : member m key decode = .ok (some a) := by
  rw [member, hget]
  show some <$> decode v = _
  rw [hread]
  rfl

/-- A member that is there is read, whatever the default. -/
theorem memberOr_of_get? {m : Fields} {key : String} {v : Json} {a default : α}
    (hget : m.get? key = some v) (hread : decode v = .ok a) :
    memberOr m key default decode = .ok a := by
  rw [memberOr, member_of_get? hget hread]
  rfl

end Decode

open Decode

/-- Categories are read from their tags. -/
theorem Category.inverts (c : Category) : Inverts toJson decode c := by
  show Except.ok ((ofTag? c.tag).getD .unknown) = .ok c
  rw [ofTag?_tag]
  rfl

/-- Impacts are read from their tags. -/
theorem Impact.inverts (i : Impact) : Inverts toJson decode i := by
  rw [Inverts, toJson, decode, Decode.tag, ofTag?_tag]

/-- Metadata are in order already, and reading them leaves them so. -/
theorem Metadata.inverts (m : Metadata) : Inverts toJson decode m :=
  congrArg Except.ok m.ofFields_fields

/-! ### Records -/

namespace Endpoint

/-- The identity of a node is never written as `null`, so its absence can be told. -/
theorem nodeId?_inverts (id? : Option NodeId) :
    Inverts (.ofOption .ofInt64) (nullable int64) id? := by
  have hnull : ∀ id : NodeId, Json.ofInt64 id ≠ .null := fun _ => by simp [Json.ofInt64]
  exact nullable_inverts hnull fun id _ => int64_inverts id

/-- A line number is never written as `null`, either. -/
theorem line?_inverts (line? : Option UInt32) :
    Inverts (.ofOption .ofUInt32) (nullable uint32) line? := by
  have hnull : ∀ line : UInt32, Json.ofUInt32 line ≠ .null := fun _ => by simp [Json.ofUInt32]
  exact nullable_inverts hnull fun line _ => uint32_inverts line

/-- An endpoint with a finite confidence is read from the members that are written for it. -/
theorem decodeFields_toFields {e : Endpoint} (h : e.isFinite = true) :
    decodeFields e.toFields = .ok e := by
  rw [decodeFields, memberOr_of_get? rfl (Category.inverts e.category),
    memberOr_of_get? rfl (nodeId?_inverts e.classNodeId), memberOr_of_get? rfl (float_inverts h),
    memberOr_of_get? rfl (string_inverts e.description),
    memberOr_of_get? rfl (nodeId?_inverts e.fileNodeId),
    memberOr_of_get? rfl (nodeId?_inverts e.functionNodeId),
    memberOr_of_get? rfl (line?_inverts e.lineNumber),
    memberOr_of_get? rfl (Metadata.inverts e.metadata),
    memberOr_of_get? rfl (string_inverts e.name), member_of_get? rfl (int64_inverts e.nodeId)]
  rfl

/-- Inside another record an endpoint is read as a source or as a sink; it is written alike. -/
theorem decode_inverts (role : Role) {e : Endpoint} (h : e.isFinite = true) :
    Inverts (fun e => .object e.toFields) (decode role) e :=
  decodeFields_toFields h

end Endpoint

namespace FlowPath

/-- A path is finite when it and its two ends are. -/
theorem isFinite_iff {p : FlowPath} :
    p.isFinite = true ↔
      p.confidence.isFinite = true ∧ p.source.isFinite = true ∧ p.sink.isFinite = true := by
  simp [isFinite, and_assoc]

/-- A path with finite confidences is read from the members that are written for it. -/
theorem decodeFields_toFields {p : FlowPath} (h : p.isFinite = true) :
    decodeFields p.toFields = .ok p := by
  obtain ⟨hconfidence, hsource, hsink⟩ := isFinite_iff.mp h
  have hnodes := list_inverts fun id (_ : id ∈ p.intermediateNodes) => int64_inverts id
  have hadvice := list_inverts fun text (_ : text ∈ p.recommendations) => string_inverts text
  rw [decodeFields, memberOr_of_get? rfl (float_inverts hconfidence),
    memberOr_of_get? rfl (string_inverts p.description),
    memberOr_of_get? rfl (Impact.inverts p.impact), memberOr_of_get? rfl hnodes,
    memberOr_of_get? rfl (Metadata.inverts p.metadata), memberOr_of_get? rfl hadvice,
    member_of_get? rfl (Endpoint.decode_inverts .sink hsink),
    member_of_get? rfl (Endpoint.decode_inverts .source hsource),
    memberOr_of_get? rfl (string_inverts p.vulnerabilityType)]
  rfl

/-- Inside findings a path is read as it was written. -/
theorem decode_inverts {p : FlowPath} (h : p.isFinite = true) :
    Inverts (fun p => .object p.toFields) decode p :=
  decodeFields_toFields h

end FlowPath

namespace Findings

/-- Findings are finite when all endpoints and paths in them are. -/
theorem isFinite_iff {f : Findings} :
    f.isFinite = true ↔
      (∀ e ∈ f.sources, e.isFinite = true) ∧ (∀ e ∈ f.sinks, e.isFinite = true) ∧
        ∀ p ∈ f.paths, p.isFinite = true := by
  simp [isFinite, and_assoc]

/-- Findings with finite confidences are read from the members that are written for them. -/
theorem decodeFields_toFields {f : Findings} (h : f.isFinite = true) :
    decodeFields f.toFields = .ok f := by
  obtain ⟨hsources, hsinks, hpaths⟩ := isFinite_iff.mp h
  have hpathList := list_inverts fun p hp => FlowPath.decode_inverts (hpaths p hp)
  have hsinkList := list_inverts fun e he => Endpoint.decode_inverts .sink (hsinks e he)
  have hsourceList := list_inverts fun e he => Endpoint.decode_inverts .source (hsources e he)
  rw [decodeFields, memberOr_of_get? rfl hpathList,
    member_of_get? rfl (string_inverts f.investigationId),
    memberOr_of_get? rfl (Metadata.inverts f.metadata), memberOr_of_get? rfl hsinkList,
    memberOr_of_get? rfl hsourceList, memberOr_of_get? rfl (string_inverts f.summary)]
  rfl

/-- Findings are read as they were written, from a value as from members. -/
theorem decode_inverts {f : Findings} (h : f.isFinite = true) :
    Inverts (fun f => .object f.toFields) decode f :=
  decodeFields_toFields h

end Findings

/-! ### Maps -/

/-- Maps stand for records: reading undoes writing, and a map that is read, in whatever form it
    came, is settled by one more writing. -/
structure StandFor {α : Type} (write : α → Fields) (read : Fields → Except ReviewError α)
    (isFinite : α → Bool) : Prop where
  /-- What is written is read as it was. -/
  read_write : ∀ a, isFinite a = true → read (write a) = .ok a
  /-- Reading and writing once more changes neither the record nor its map. -/
  settled : ∀ m a, read m = .ok a → isFinite a = true →
    read (write a) = read m ∧ write <$> read (write a) = .ok (write a)

/-- That reading undoes writing is enough: what was read is written, and so read again. -/
theorem StandFor.of_read_write {α : Type} {write : α → Fields}
    {read : Fields → Except ReviewError α} {isFinite : α → Bool}
    (h : ∀ a, isFinite a = true → read (write a) = .ok a) : StandFor write read isFinite where
  read_write := h
  settled m a hread hfinite := by
    rw [h a hfinite, hread]
    exact ⟨rfl, rfl⟩

/-- **Records survive as maps.**  Endpoints, paths and findings with finite confidences are read
    from their maps as they were.  Whatever map a record was read from, be it with members missing,
    unknown or written otherwise, the map written for the record is read as that record. -/
theorem maps_read_back :
    StandFor Endpoint.toFields Endpoint.ofFields Endpoint.isFinite ∧
      StandFor FlowPath.toFields FlowPath.ofFields FlowPath.isFinite ∧
      StandFor Findings.toFields Findings.ofFields Findings.isFinite := by
  refine ⟨.of_read_write fun e h => ?_, .of_read_write fun p h => ?_, .of_read_write fun f h => ?_⟩
  · rw [Endpoint.ofFields, Endpoint.decodeFields_toFields h]
    rfl
  · rw [FlowPath.ofFields, FlowPath.decodeFields_toFields h]
    rfl
  · rw [Findings.ofFields, Findings.decodeFields_toFields h]
    rfl

/-- A map of findings as another program might write it: most members are missing and one is
    unknown, a category has no known name, an impact is a key, a confidence is an integer and an
    endpoint is the list of its fields. -/
def looseMap : Fields :=
  [("data_flow_paths", .array
      [.object
        [("impact", .object [("high", .null)]),
         ("sink_node", .array [.ofInt64 2, .string "save", .string "disk"]),
         ("source_node", .object [("confidence", .ofInt64 1), ("node_id", .ofInt64 (-7))])]]),
   ("investigation_id", .string "x"),
   ("tool", .null)]

/-- The findings of the loose map. -/
def looseFindings : Findings where
  investigationId := "x"
  paths :=
    [{ source := { nodeId := -7, name := "", category := .unknown, confidence := 1 }
       sink := { nodeId := 2, name := "save", category := .unknown }
       vulnerabilityType := ""
       impact := .high }]

/-- The loose map is read, and the map that is written for its findings is settled. -/
theorem maps_read_back_looseMap :
    Findings.ofFields looseMap = .ok looseFindings ∧ looseFindings.isFinite = true ∧
      Findings.ofFields looseFindings.toFields = .ok looseFindings ∧
      Findings.toFields <$> Findings.ofFields looseFindings.toFields =
        .ok looseFindings.toFields := by
  -- Members of every kind are missing or written otherwise here.
  have hread : Findings.ofFields looseMap = .ok looseFindings := rfl
  have hfinite : looseFindings.isFinite = true := by decide
  obtain ⟨hagain, hmap⟩ := maps_read_back.2.2.settled looseMap looseFindings hread hfinite
  exact ⟨hread, hfinite, hagain.trans hread, hmap⟩

end TaintReview
