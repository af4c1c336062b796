import TaintReview.Findings
import TaintReview.Proofs.Entities
import TaintReview.Proofs.Scores

namespace TaintReview

/-!
# Where decoded values come from

A record is decoded from an object or from the list of its fields.  Either way each field of the
result is the reading of one part of the value, or a default where that part is missing.

* `Json.Step` — the way to a part, which is a member in an object and an item in a list;
* `Decode.Gives` — a field is the reading of a part, or its default;
* `Decode.Ensures`, `Decode.EnsuresAt` — what holds of every result of a decoder, with one rule for
  each way to read a member or an item; `Decode.ensures_record` joins the two forms of a record;
* `Endpoint.readFrom_of_decode`, `FlowPath.readFrom_of_decode`, `Findings.readFrom_of_decode` — the
  parts that confidences, ends of paths and lists of findings come from.
-/

/-! ### Parts of a value -/

namespace Json

/-- A step into a value: to a field of a record, by its key or by its place, or to an item of a
    list. -/
inductive Step where
  | field (key : String) (index : Nat)
  | item (index : Nat)

/-- The part of a value that a step leads to. -/
def step? : Step → Json → Option Json
  | .field key _, .object m => Fields.get? m key
  | .field _ index, .array items => items[index]?
  | .item index, .array items => items[index]?
  | _, _ => none

/-- The part of a value that several steps lead to. -/
def follow? : List Step → Json → Option Json
  | [], v => some v
  | s :: steps, v => (step? s v).bind (follow? steps)

/-- The number that several steps lead to. -/
def number? (steps : List Step) (v : Json) : Option Float :=
  match follow? steps v with
  | some (.number n) => some n.toFloat
  | _ => none

/-- One step leads where it leads. -/
theorem follow?_singleton (s : Step) (v : Json) : follow? [s] v = step? s v := by
  show (step? s v).bind some = step? s v
  exact Option.bind_fun_some _

/-- Steps that lead to a part can be followed by steps inside that part. -/
theorem follow?_append {steps : List Step} {v w : Json} (h : follow? steps v = some w)
    (more : List Step) : follow? (steps ++ more) v = follow? more w := by
  induction steps generalizing v with
  | nil => rw [List.nil_append, Option.some.inj h]
  | cons s steps ih =>
    obtain ⟨u, hu, hrest⟩ := Option.bind_eq_some_iff.mp h
    rw [List.cons_append, follow?, hu]
    exact ih hrest

/-- The number that such steps lead to is one inside the part. -/
theorem number?_append {steps : List Step} {v w : Json} (h : follow? steps v = some w)
    (more : List Step) : number? (steps ++ more) v = number? more w := by
  rw [number?, follow?_append h, number?]

end Json

namespace Decode

variable {α β : Type} {decode : Decoder α}

/-- The value is the reading of a part; where the part is missing it is the default, and there has
    to be one. -/
def Gives (part? : Option Json) (decode : Decoder α) (default? : Option α) (a : α) : Prop :=
  match part? with
  | some w => decode w = .ok a
  | none => default? = some a

/-- A field without a default is the reading of its part. -/
theorem Gives.exists_part {v : Json} {s : Json.Step} {a : α} (h : Gives (v.step? s) decode none a) :
    ∃ w, v.follow? [s] = some w ∧ decode w = .ok a := by
  rw [Json.follow?_singleton]
  cases hpart : v.step? s with
  | none =>
    rw [hpart] at h
    exact nomatch h
  | some w =>
    rw [hpart] at h
    exact ⟨w, rfl, h⟩

/-- Each result of decoding items is the reading of the item at its place. -/
theorem exists_item_of_mapM {items : List Json} {as : List α} (h : items.mapM decode = .ok as)
    {i : Nat} {a : α} (ha : as[i]? = some a) : ∃ w, items[i]? = some w ∧ decode w = .ok a := by
  -- The results run along with the items, so the place moves with both.
  induction items generalizing as i with
  | nil =>
    obtain rfl : [] = as := Except.ok.inj h
    exact nomatch ha
  | cons w items ih =>
    rw [List.mapM_cons] at h
    cases hw : decode w with
    | error e => rw [hw] at h; exact nomatch h
    | ok b =>
      rw [hw] at h
      cases hrest : items.mapM decode with
      | error e => rw [hrest] at h; exact nomatch h
      | ok bs =>
        rw [hrest] at h
        obtain rfl : b :: bs = as := Except.ok.inj h
        cases i with
        | zero => exact ⟨w, rfl, hw.trans (congrArg Except.ok (Option.some.inj ha))⟩
        | succ i => exact ih hrest ha

/-- An item of a list that was decoded is the reading of an item. -/
theorem Gives.exists_item {v : Json} {s : Json.Step} {as : List α}
    (h : Gives (v.step? s) (list decode) (some []) as) {i : Nat} {a : α} (ha : as[i]? = some a) :
    ∃ w, v.follow? [s, .item i] = some w ∧ decode w = .ok a := by
  cases hpart : v.step? s with
  | none =>
    rw [hpart] at h
    obtain rfl : [] = as := Option.some.inj h
    exact nomatch ha
  | some u =>
    rw [hpart] at h
    cases u with
    | array items =>
      obtain ⟨w, hw, hread⟩ := exists_item_of_mapM h ha
      refine ⟨w, ?_, hread⟩
      rw [Json.follow?, hpart]
      exact (Json.follow?_singleton (.item i) (.array items)).trans hw
    -- Only an array is read as a list.
    | null | bool | number | string | object => exact nomatch h

/-- What holds of a value that may be missing holds of the value, with a default and without. -/
theorem Gives.of_optional {part? : Option Json} {a? : Option α}
    (h : Gives part? (fun w => some <$> decode w) (some none) a?) :
    (∀ a, a? = some a → Gives part? decode none a) ∧
      ∀ default, Gives part? decode (some default) (a?.getD default) := by
  cases part? with
  | none =>
    -- The part is missing, so nothing was read and only the default is left.
    obtain rfl : none = a? := Option.some.inj h
    exact ⟨fun a ha => (nomatch ha), fun default => rfl⟩
  | some w =>
    have hread : some <$> decode w = .ok a? := h
    cases hw : decode w with
    | error e =>
      rw [hw] at hread
      exact nomatch hread
    | ok a =>
      rw [hw] at hread
      obtain rfl : some a = a? := Except.ok.inj hread
      refine ⟨fun b hb => ?_, fun default => hw⟩
      rwa [← Option.some.inj hb]

/-! ### Members -/

/-- What holds of every result. -/
def Ensures (x : Except DecodeError α) (P : α → Prop) : Prop := ∀ a, x = .ok a → P a

section Members

variable {m : Fields} {key : String} {P : α → Prop} {Q : β → Prop}

/-- A plain value ensures what holds of it. -/
theorem ensures_pure {a : α} (h : P a) : Ensures (pure a) P := by
  intro a' ha
  rwa [← Except.ok.inj ha]

/-- A sequence ensures what its second part does, given what the first one ensures. -/
theorem ensures_bind {x : Except DecodeError α} {f : α → Except DecodeError β} (hx : Ensures x P)
    (hf : ∀ a, P a → Ensures (f a) Q) : Ensures (x >>= f) Q := by
  intro b hb
  cases x with
  | error e => exact nomatch hb
  | ok a => exact hf a (hx a rfl) b hb

/-- A member is the reading of the part of its key, or nothing. -/
theorem ensures_member :
    Ensures (member m key decode)
      (Gives (m.get? key) (fun w => some <$> decode w) (some none)) := by
  intro a? h
  unfold member at h
  cases hget : m.get? key with
  | none =>
    rw [hget] at h
    exact congrArg some (Except.ok.inj h)
  | some w =>
    rw [hget] at h
    exact h

/-- A member with a default is the reading of the part of its key, or the default. -/
theorem ensures_memberOr {default : α} :
    Ensures (memberOr m key default decode) (Gives (m.get? key) decode (some default)) := by
  rw [memberOr, map_eq_pure_bind]
  refine ensures_bind ensures_member fun a? ha? => ?_
  exact ensures_pure (ha?.of_optional.2 default)

/-- A required value is the one that was found. -/
theorem ensures_required {a? : Option α} : Ensures (required key a?) (a? = some ·) := by
  intro a h
  cases a? with
  | none => exact nomatch h
  | some b => exact congrArg some (Except.ok.inj h)

end Members

/-! ### Items -/

/-- What holds of every result of a reader that starts at one item of an array, and at which item
    it stops. -/
def EnsuresAt (all : List Json) (start : Nat) (reader : ItemReader α) (stop : Nat) (P : α → Prop) :
    Prop :=
  ∀ n a s, reader.run (n, all.drop start) = .ok (a, s) → s.2 = all.drop stop ∧ P a

section Items

variable {all : List Json} {i j k : Nat} {P : α → Prop} {Q : β → Prop}

/-- A plain value is given without moving on. -/
theorem ensuresAt_pure {a : α} (h : P a) : EnsuresAt all i (pure a) i P := by
  intro n a' s hs
  obtain ⟨rfl, rfl⟩ : a = a' ∧ (n, all.drop i) = s := Prod.mk.inj (Except.ok.inj hs)
  exact ⟨rfl, h⟩

/-- The second part of a sequence starts where the first one stops. -/
theorem ensuresAt_bind {x : ItemReader α} {f : α → ItemReader β} (hx : EnsuresAt all i x j P)
    (hf : ∀ a, P a → EnsuresAt all j (f a) k Q) : EnsuresAt all i (x >>= f) k Q := by
  intro n b s hs
  rw [StateT.run_bind] at hs
  cases hrun : x.run (n, all.drop i) with
  | error e =>
    rw [hrun] at hs
    exact nomatch hs
  | ok r =>
    obtain ⟨a, n', rest⟩ := r
    obtain ⟨hrest, ha⟩ := hx n a (n', rest) hrun
    rw [hrun] at hs
    obtain rfl : rest = all.drop j := hrest
    exact hf a ha n' b s hs

/-- An item is the reading of the item at the place of the reader, which moves on by one. -/
theorem ensuresAt_item :
    EnsuresAt all i (item decode) (i + 1)
      (Gives all[i]? (fun w => some <$> decode w) (some none)) := by
  intro n a? s hs
  -- The item is the head of what is left, and the rest of that is left over.
  rw [← List.head?_drop, ← List.tail_drop]
  cases hdrop : all.drop i with
  | nil =>
    rw [hdrop] at hs
    have hrun : (item decode).run (n, []) = .ok (none, (n, [])) := rfl
    obtain ⟨rfl, rfl⟩ := Prod.mk.inj (Except.ok.inj (hrun.symm.trans hs))
    exact ⟨rfl, rfl⟩
  | cons w rest =>
    rw [hdrop] at hs
    have hrun : (item decode).run (n, w :: rest) =
        (some <$> decode w).bind fun a? => .ok (a?, (n + 1, rest)) := by
      show StateT.run (some <$> liftM (decode w) : ItemReader (Option α)) (n + 1, rest) = _
      cases decode w <;> rfl
    rw [hrun] at hs
    cases hw : some <$> decode w with
    | error e =>
      rw [hw] at hs
      exact nomatch hs
    | ok b? =>
      rw [hw] at hs
      obtain ⟨rfl, rfl⟩ := Prod.mk.inj (Except.ok.inj hs)
      exact ⟨rfl, hw⟩

/-- An item with a default is the reading of the item at the place, or the default. -/
theorem ensuresAt_itemOr {default : α} :
    EnsuresAt all i (itemOr default decode) (i + 1) (Gives all[i]? decode (some default)) := by
  rw [itemOr, map_eq_pure_bind]
  refine ensuresAt_bind ensuresAt_item fun a? ha? => ?_
  exact ensuresAt_pure (ha?.of_optional.2 default)

/-- A required item is the reading of the item at the place. -/
theorem ensuresAt_requiredItem {expected : String} :
    EnsuresAt all i (requiredItem expected decode) (i + 1) (Gives all[i]? decode none) := by
  unfold requiredItem
  -- The place is looked at for the error message only.
  have hget : EnsuresAt all i get i fun _ => True := by
    intro n r s hs
    obtain ⟨-, rfl⟩ := Prod.mk.inj (Except.ok.inj hs)
    exact ⟨rfl, trivial⟩
  refine ensuresAt_bind hget fun r _ => ensuresAt_bind ensuresAt_item fun a? ha? => ?_
  cases a? with
  | none => exact fun n a s hs => nomatch hs
  | some a => exact ensuresAt_pure (ha?.of_optional.1 a rfl)

/-- A record that is read from items ensures what its reader does from the first item on. -/
theorem ensures_items {reader : ItemReader α} (h : EnsuresAt all 0 reader k P) :
    Ensures (items reader all) P := by
  unfold items
  refine ensures_bind (fun r hr => (h 0 r.1 r.2 hr).2) fun r hr => ?_
  obtain ⟨a, n, rest⟩ := r
  -- Items that are left over are an error, so nothing is to be shown of them.
  show Ensures (if rest.isEmpty then pure a else throw _) P
  split
  · exact ensures_pure hr
  · exact fun b hb => nomatch hb

end Items

/-- A record is as said when it is in both forms. -/
theorem ensures_record {name : String} {ofFields : Fields → Except DecodeError α}
    {ofItems : ItemReader α} {size : Nat} {P : Json → α → Prop}
    (hfields : ∀ m, Ensures (ofFields m) (P (.object m)))
    (hitems : ∀ all, EnsuresAt all 0 ofItems size (P (.array all))) (v : Json) :
    Ensures (record name ofFields ofItems v) (P v) := by
  cases v with
  | object m => exact hfields m
  | array all => exact ensures_items (hitems all)
  | null | bool | number | string => exact fun a h => nomatch h

end Decode

open Decode

/-! ### The three records -/

namespace Endpoint

/-- Where the confidence of an endpoint stands. -/
def confidenceStep : Json.Step := .field "confidence" 8

/-- The confidence of the endpoint is read from a part of the value. -/
structure ReadFrom (v : Json) (e : Endpoint) : Prop where
  confidence : Gives (v.step? confidenceStep) float (some 0) e.confidence

/-- The confidence of an endpoint is read from its part, in both forms of the record. -/
theorem readFrom_of_decode {role : Role} {v : Json} {e : Endpoint} (h : decode role v = .ok e) :
    ReadFrom v e := by
  have hfields (m : Fields) : Ensures (decodeFields m) (ReadFrom (.object m)) := by
    -- One line for each member, in the order in which they are read; only the confidence matters.
    unfold decodeFields
    refine ensures_bind ensures_memberOr fun category _ => ?_
    refine ensures_bind ensures_memberOr fun classNodeId _ => ?_
    refine ensures_bind ensures_memberOr fun confidence hconfidence => ?_
    refine ensures_bind ensures_memberOr fun description _ => ?_
    refine ensures_bind ensures_memberOr fun fileNodeId _ => ?_
    refine ensures_bind ensures_memberOr fun functionNodeId _ => ?_
    refine ensures_bind ensures_memberOr fun lineNumber _ => ?_
    refine ensures_bind ensures_memberOr fun metadata _ => ?_
    refine ensures_bind ensures_memberOr fun name _ => ?_
    refine ensures_bind ensures_member fun nodeId? _ => ?_
    refine ensures_bind ensures_required fun nodeId _ => ?_
    exact ensures_pure ⟨hconfidence⟩
  have hitems (all : List Json) :
      EnsuresAt all 0 (decodeItems role) 10 (ReadFrom (.array all)) := by
    -- As a list, the record has the confidence at its ninth place.
    unfold decodeItems
    refine ensuresAt_bind ensuresAt_requiredItem fun nodeId _ => ?_
    refine ensuresAt_bind ensuresAt_itemOr fun name _ => ?_
    refine ensuresAt_bind ensuresAt_itemOr fun category _ => ?_
    refine ensuresAt_bind ensuresAt_itemOr fun fileNodeId _ => ?_
    refine ensuresAt_bind ensuresAt_itemOr fun functionNodeId _ => ?_
    refine ensuresAt_bind ensuresAt_itemOr fun classNodeId _ => ?_
    refine ensuresAt_bind ensuresAt_itemOr fun lineNumber _ => ?_
    refine ensuresAt_bind ensuresAt_itemOr fun description _ => ?_
    refine ensuresAt_bind ensuresAt_itemOr fun confidence hconfidence => ?_
    refine ensuresAt_bind ensuresAt_itemOr fun metadata _ => ?_
    exact ensuresAt_pure ⟨hconfidence⟩
  exact ensures_record hfields hitems v e h

end Endpoint

namespace FlowPath

/-- Where the confidence of a path stands. -/
def confidenceStep : Json.Step := .field "confidence" 7

/-- Where the ends of a path stand. -/
def endStep : Role → Json.Step
  | .source => .field "source_node" 0
  | .sink => .field "sink_node" 1

/-- The confidence and the ends of the path are read from parts of the value. -/
structure ReadFrom (v : Json) (p : FlowPath) : Prop where
  confidence : Gives (v.step? confidenceStep) float (some 0) p.confidence
  ends : ∀ role, Gives (v.step? (endStep role)) (Endpoint.decode role) none (p.endpoint role)

/-- The confidence and the ends of a path are read from their parts, in both forms of the record. -/
theorem readFrom_of_decode {v : Json} {p : FlowPath} (h : decode v = .ok p) : ReadFrom v p := by
  have hfields (m : Fields) : Ensures (decodeFields m) (ReadFrom (.object m)) := by
    unfold decodeFields
    refine ensures_bind ensures_memberOr fun confidence hconfidence => ?_
    refine ensures_bind ensures_memberOr fun description _ => ?_
    refine ensures_bind ensures_memberOr fun impact _ => ?_
    refine ensures_bind ensures_memberOr fun intermediateNodes _ => ?_
    refine ensures_bind ensures_memberOr fun metadata _ => ?_
    refine ensures_bind ensures_memberOr fun recommendations _ => ?_
    refine ensures_bind ensures_member fun sink? hsink? => ?_
    refine ensures_bind ensures_member fun source? hsource? => ?_
    refine ensures_bind ensures_memberOr fun vulnerabilityType _ => ?_
    -- The ends were looked for in the order of the keys; only now they have to be there.
    refine ensures_bind ensures_required fun source hsource => ?_
    refine ensures_bind ensures_required fun sink hsink => ?_
    refine ensures_pure ⟨hconfidence, fun role => ?_⟩
    cases role with
    | source => exact hsource?.of_optional.1 source hsource
    | sink => exact hsink?.of_optional.1 sink hsink
  have hitems (all : List Json) : EnsuresAt all 0 decodeItems 9 (ReadFrom (.array all)) := by
    -- As a list, the record begins with its ends, and the confidence is at its eighth place.
    unfold decodeItems
    refine ensuresAt_bind ensuresAt_requiredItem fun source hsource => ?_
    refine ensuresAt_bind ensuresAt_requiredItem fun sink hsink => ?_
    refine ensuresAt_bind ensuresAt_itemOr fun intermediateNodes _ => ?_
    refine ensuresAt_bind ensuresAt_itemOr fun vulnerabilityType _ => ?_
    refine ensuresAt_bind ensuresAt_itemOr fun impact _ => ?_
    refine ensuresAt_bind ensuresAt_itemOr fun description _ => ?_
    refine ensuresAt_bind ensuresAt_itemOr fun recommendations _ => ?_
    refine ensuresAt_bind ensuresAt_itemOr fun confidence hconfidence => ?_
    refine ensuresAt_bind ensuresAt_itemOr fun metadata _ => ?_
    refine ensuresAt_pure ⟨hconfidence, fun role => ?_⟩
    cases role with
    | source => exact hsource
    | sink => exact hsink
  exact ensures_record hfields hitems v p h

end FlowPath

namespace Findings

/-- Where the sources stand in findings. -/
def sourcesStep : Json.Step := .field "sources" 1

/-- Where the sinks stand in findings. -/
def sinksStep : Json.Step := .field "sinks" 2

/-- Where the paths stand in findings. -/
def pathsStep : Json.Step := .field "data_flow_paths" 3

/-- The lists of the findings are read from parts of the value. -/
structure ReadFrom (v : Json) (f : Findings) : Prop where
  sources : Gives (v.step? sourcesStep) (list (Endpoint.decode .source)) (some []) f.sources
  sinks : Gives (v.step? sinksStep) (list (Endpoint.decode .sink)) (some []) f.sinks
  paths : Gives (v.step? pathsStep) (list FlowPath.decode) (some []) f.paths

/-- The lists of findings are read from their parts, in both forms of the record. -/
theorem readFrom_of_decode {v : Json} {f : Findings} (h : decode v = .ok f) : ReadFrom v f := by
  have hfields (m : Fields) : Ensures (decodeFields m) (ReadFrom (.object m)) := by
    unfold decodeFields
    refine ensures_bind ensures_memberOr fun paths hpaths => ?_
    refine ensures_bind ensures_member fun investigationId? _ => ?_
    refine ensures_bind ensures_memberOr fun metadata _ => ?_
    refine ensures_bind ensures_memberOr fun sinks hsinks => ?_
    refine ensures_bind ensures_memberOr fun sources hsources => ?_
    refine ensures_bind ensures_memberOr fun summary _ => ?_
    refine ensures_bind ensures_required fun investigationId _ => ?_
    exact ensures_pure ⟨hsources, hsinks, hpaths⟩
  have hitems (all : List Json) : EnsuresAt all 0 decodeItems 6 (ReadFrom (.array all)) := by
    -- As a list, the record has its three lists behind the investigation.
    unfold decodeItems
    refine ensuresAt_bind ensuresAt_requiredItem fun investigationId _ => ?_
    refine ensuresAt_bind ensuresAt_itemOr fun sources hsources => ?_
    refine ensuresAt_bind ensuresAt_itemOr fun sinks hsinks => ?_
    refine ensuresAt_bind ensuresAt_itemOr fun paths hpaths => ?_
    refine ensuresAt_bind ensuresAt_itemOr fun summary _ => ?_
    refine ensuresAt_bind ensuresAt_itemOr fun metadata _ => ?_
    exact ensuresAt_pure ⟨hsources, hsinks, hpaths⟩
  exact ensures_record hfields hitems v f h

end Findings

end TaintReview
