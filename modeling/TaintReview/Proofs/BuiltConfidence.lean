import TaintReview.Proofs.DecodedParts
import TaintReview.Proofs.MapRoundTrip

namespace TaintReview

open Decode

/-!
# Confidences of all that can be built

Endpoints and paths come about in many ways: anew, from a candidate, from a map, out of a document
of findings or out of one another, and each may be changed afterwards.  Only some of these ways
clamp the confidence.

* `Endpoint.Built y? e`, `FlowPath.Built y? ends p` — all ways to build a record, together with the
  number of a document that its confidence was taken over from, if there is one;
* `Rates y? x` — a confidence that was taken over is that number, and any other one is a score;
* **`confidence_isScore_iff_taken`** — a confidence is a score exactly when it was not taken over
  from a number beyond the range.
-/

/-! ### Ways to build a record -/

/-- The findings are read from a map, or from a document with the value. -/
inductive Findings.Read : Json → Findings → Prop
  | ofFields {m : Fields} {f : Findings} (h : Findings.ofFields m = .ok f) :
      Findings.Read (.object m) f
  | ofJsonText {s : String} {v : Json} {f : Findings}
      (hv : (Json.Written.parse? s).bind (·.select? Findings.shape Json.maxDepth) = some v)
      (h : Findings.ofJsonText s = .ok f) : Findings.Read v f

/-- One thing for the source and one for the sink. -/
def Role.pick {α : Type} (source sink : α) : Role → α
  | .source => source
  | .sink => sink

/-- The endpoint is built in these steps, and `y?` is the number that its confidence was taken over
    from, if no later step replaced it. -/
inductive Endpoint.Built : Option Float → Endpoint → Prop
  | new (nodeId : NodeId) (name : String) (category : Category) :
      Built none { nodeId, name, category }
  | ofCandidate (c : Candidate) (category : Category) (x : Float) (description : String) :
      Built none (.ofCandidate c category x description)
  | ofFields {m : Fields} {e : Endpoint} (h : Endpoint.ofFields m = .ok e) :
      Built (Json.number? [confidenceStep] (.object m)) e
  | ofSources {v : Json} {f : Findings} {i : Nat} {e : Endpoint} (h : Findings.Read v f)
      (he : f.sources[i]? = some e) :
      Built (v.number? [Findings.sourcesStep, .item i, confidenceStep]) e
  | ofSinks {v : Json} {f : Findings} {i : Nat} {e : Endpoint} (h : Findings.Read v f)
      (he : f.sinks[i]? = some e) :
      Built (v.number? [Findings.sinksStep, .item i, confidenceStep]) e
  | ofPath {m : Fields} {p : FlowPath} (h : FlowPath.ofFields m = .ok p) (role : Role) :
      Built (Json.number? [FlowPath.endStep role, confidenceStep] (.object m)) (p.endpoint role)
  | ofPaths {v : Json} {f : Findings} {i : Nat} {p : FlowPath} (h : Findings.Read v f)
      (hp : f.paths[i]? = some p) (role : Role) :
      Built (v.number? [Findings.pathsStep, .item i, FlowPath.endStep role, confidenceStep])
        (p.endpoint role)
  | withConfidence {y? : Option Float} {e : Endpoint} (h : Built y? e) (x : Float) :
      Built none (e.withConfidence x)
  | withDescription {y? : Option Float} {e : Endpoint} (h : Built y? e) (description : String) :
      Built y? { e with description }
  | withFile {y? : Option Float} {e : Endpoint} (h : Built y? e) (id : NodeId) :
      Built y? { e with fileNodeId := some id }
  | withLine {y? : Option Float} {e : Endpoint} (h : Built y? e) (line : UInt32) :
      Built y? { e with lineNumber := some line }
  | withMetadata {y? : Option Float} {e : Endpoint} (h : Built y? e) (key : String)
      (value : Json) : Built y? (e.withMetadata key value)

/-- The path is built in these steps; `y?` is the number that its confidence was taken over from, if
    no later step replaced it, and `ends` are the numbers of its ends. -/
inductive FlowPath.Built : Option Float → (Role → Option Float) → FlowPath → Prop
  | new {y? z? : Option Float} {source sink : Endpoint} (hsource : source.Built y?)
      (hsink : sink.Built z?) (vulnerabilityType : String) :
      Built none (Role.pick y? z?) { source, sink, vulnerabilityType }
  | ofFields {m : Fields} {p : FlowPath} (h : FlowPath.ofFields m = .ok p) :
      Built (Json.number? [confidenceStep] (.object m))
        (fun role => Json.number? [endStep role, Endpoint.confidenceStep] (.object m)) p
  | ofPaths {v : Json} {f : Findings} {i : Nat} {p : FlowPath} (h : Findings.Read v f)
      (hp : f.paths[i]? = some p) :
      Built (v.number? [Findings.pathsStep, .item i, confidenceStep])
        (fun role =>
          v.number? [Findings.pathsStep, .item i, endStep role, Endpoint.confidenceStep]) p
  | withConfidence {y? : Option Float} {ends : Role → Option Float} {p : FlowPath}
      (h : Built y? ends p) (x : Float) : Built none ends (p.withConfidence x)
  | withImpact {y? : Option Float} {ends : Role → Option Float} {p : FlowPath}
      (h : Built y? ends p) (impact : Impact) : Built y? ends { p with impact }
  | withDescription {y? : Option Float} {ends : Role → Option Float} {p : FlowPath}
      (h : Built y? ends p) (description : String) : Built y? ends { p with description }
  | withIntermediateNodes {y? : Option Float} {ends : Role → Option Float} {p : FlowPath}
      (h : Built y? ends p) (intermediateNodes : List NodeId) :
      Built y? ends { p with intermediateNodes }
  | withRecommendations {y? : Option Float} {ends : Role → Option Float} {p : FlowPath}
      (h : Built y? ends p) (recommendations : List String) :
      Built y? ends { p with recommendations }
  | withMetadata {y? : Option Float} {ends : Role → Option Float} {p : FlowPath}
      (h : Built y? ends p) (key : String) (value : Json) :
      Built y? ends (p.withMetadata key value)

/-! ### What is taken over -/

/-- What is known of a confidence when `y?` is the number that it was taken over from, if any. -/
structure Rates (y? : Option Float) (x : Float) : Prop where
  /-- It is a number. -/
  isNaN : x.isNaN = false
  /-- A number that is taken over is not changed. -/
  eq_taken : ∀ y ∈ y?, x = y
  /-- It is a score unless it was taken over from a number beyond the range. -/
  isScore_iff : IsScore x ↔ ∀ y ∈ y?, 0 ≤ y ∧ y ≤ 1

/-- A score that was not taken over from anywhere is rated as such. -/
theorem Rates.of_isScore {x : Float} (h : IsScore x) : Rates none x where
  isNaN := h.1
  eq_taken _ hy := nomatch hy
  isScore_iff := ⟨fun _ _ hy => (nomatch hy), fun _ => h⟩

/-- Zero is a score. -/
theorem rates_zero : Rates none 0 := .of_isScore (by decide)

/-- A confidence that was brought into the range is a score. -/
theorem rates_clampConfidence (x : Float) : Rates none (clampConfidence x) :=
  .of_isScore (isScore_clampConfidence x)

/-- A number that is taken over is a confidence, and a score when it is in the range. -/
theorem Rates.of_number (n : Number) : Rates (some n.toFloat) n.toFloat where
  isNaN := n.isNaN_toFloat
  eq_taken _ hy := Option.some.inj hy
  isScore_iff := by
    constructor
    · rintro ⟨-, hrange⟩ y hy
      rwa [← Option.some.inj hy]
    · intro h
      exact ⟨n.isNaN_toFloat, h _ rfl⟩

/-- Decoders take a number over as it is; the default is a score. -/
theorem Rates.of_gives {v : Json} {s : Json.Step} {x : Float}
    (h : Gives (v.step? s) float (some 0) x) : Rates (v.number? [s]) x := by
  rw [Json.number?, Json.follow?_singleton]
  cases hpart : v.step? s with
  | none =>
    rw [hpart] at h
    obtain rfl : 0 = x := Option.some.inj h
    exact rates_zero
  | some w =>
    rw [hpart] at h
    cases w with
    | number n =>
      have hn : float (.number n) = .ok n.toFloat := by cases n <;> rfl
      obtain rfl : n.toFloat = x := Except.ok.inj (hn.symm.trans h)
      exact .of_number n
    -- Anything else is refused by the decoder.
    | null | bool | string | array | object => cases h

/-- What a part of a value gives is given by the value, further down. -/
theorem Rates.of_part {v w : Json} {steps more : List Json.Step} {x : Float}
    (h : Rates (w.number? more) x) (hw : v.follow? steps = some w) :
    Rates (v.number? (steps ++ more)) x := by
  rwa [Json.number?_append hw]

/-- The confidence of a decoded endpoint is taken over from its part. -/
theorem Endpoint.rates_of_decode {role : Role} {v : Json} {e : Endpoint}
    (h : decode role v = .ok e) : Rates (v.number? [confidenceStep]) e.confidence :=
  .of_gives (readFrom_of_decode h).confidence

/-- The confidences of a decoded path and of its ends are taken over from their parts. -/
theorem FlowPath.rates_of_decode {v : Json} {p : FlowPath} (h : decode v = .ok p) :
    Rates (v.number? [confidenceStep]) p.confidence ∧ ∀ role,
      Rates (v.number? [endStep role, Endpoint.confidenceStep]) (p.endpoint role).confidence := by
  have hread := readFrom_of_decode h
  refine ⟨.of_gives hread.confidence, fun role => ?_⟩
  obtain ⟨w, hw, he⟩ := (hread.ends role).exists_part
  exact (Endpoint.rates_of_decode he).of_part hw

/-- Turning errors into those of a review changes no result. -/
theorem eq_ok_of_mapError {α : Type} {x : Except DecodeError α} {a : α}
    (h : x.mapError ReviewError.ofDecode = .ok a) : x = .ok a := by
  cases x with
  | error e => exact nomatch h
  | ok b => exact congrArg Except.ok (Except.ok.inj h)

/-- In a map a source is read like a sink. -/
theorem Endpoint.decode_of_ofFields {m : Fields} {e : Endpoint} (h : ofFields m = .ok e)
    (role : Role) : decode role (.object m) = .ok e :=
  eq_ok_of_mapError h

/-- A map of a path is read like a value. -/
theorem FlowPath.decode_of_ofFields {m : Fields} {p : FlowPath} (h : ofFields m = .ok p) :
    decode (.object m) = .ok p :=
  eq_ok_of_mapError h

/-- Findings that were read, from a map or from a text, were decoded from the value. -/
theorem Findings.Read.decode_eq {v : Json} {f : Findings} (h : Findings.Read v f) :
    Findings.decode v = .ok f := by
  cases h with
  | ofFields h => exact eq_ok_of_mapError h
  | ofJsonText hv h =>
    rw [Findings.ofJsonText, hv] at h
    exact eq_ok_of_mapError h

/-- Whatever document is read, its value is there to be looked at. -/
theorem Findings.exists_read {s : String} {f : Findings} (h : ofJsonText s = .ok f) :
    ∃ v, Findings.Read v f := by
  cases hv : (Json.Written.parse? s).bind (·.select? shape Json.maxDepth) with
  | none =>
    rw [ofJsonText, hv] at h
    exact nomatch h
  | some v => exact ⟨v, .ofJsonText hv h⟩

/-! ### All ways to build a record -/

/-- However an endpoint was built, its confidence is rated by what it was taken over from. -/
theorem Endpoint.Built.rates {y? : Option Float} {e : Endpoint} (h : e.Built y?) :
    Rates y? e.confidence := by
  induction h with
  | new nodeId name category => exact rates_zero
  | ofCandidate c category x description => exact rates_clampConfidence x
  | ofFields h => exact rates_of_decode (decode_of_ofFields h .source)
  | ofSources h he =>
    -- The endpoint stands further down in the document, and so does its number.
    obtain ⟨w, hw, hread⟩ := (Findings.readFrom_of_decode h.decode_eq).sources.exists_item he
    exact (rates_of_decode hread).of_part hw
  | ofSinks h he =>
    obtain ⟨w, hw, hread⟩ := (Findings.readFrom_of_decode h.decode_eq).sinks.exists_item he
    exact (rates_of_decode hread).of_part hw
  | ofPath h role => exact (FlowPath.rates_of_decode (FlowPath.decode_of_ofFields h)).2 role
  | ofPaths h hp role =>
    obtain ⟨w, hw, hread⟩ := (Findings.readFrom_of_decode h.decode_eq).paths.exists_item hp
    exact ((FlowPath.rates_of_decode hread).2 role).of_part hw
  | withConfidence h x ih => exact rates_clampConfidence x
  -- The other changes leave the confidence as it is.
  | withDescription h description ih => exact ih
  | withFile h id ih => exact ih
  | withLine h line ih => exact ih
  | withMetadata h key value ih => exact ih

/-- However a path was built, its confidence is rated by what it was taken over from. -/
theorem FlowPath.Built.rates {y? : Option Float} {ends : Role → Option Float} {p : FlowPath}
    (h : p.Built y? ends) : Rates y? p.confidence := by
  induction h with
  | new hsource hsink vulnerabilityType => exact rates_zero
  | ofFields h => exact (rates_of_decode (decode_of_ofFields h)).1
  | ofPaths h hp =>
    obtain ⟨w, hw, hread⟩ := (Findings.readFrom_of_decode h.decode_eq).paths.exists_item hp
    exact (rates_of_decode hread).1.of_part hw
  | withConfidence h x ih => exact rates_clampConfidence x
  -- The other changes leave the confidence as it is.
  | withImpact h impact ih => exact ih
  | withDescription h description ih => exact ih
  | withIntermediateNodes h nodes ih => exact ih
  | withRecommendations h recommendations ih => exact ih
  | withMetadata h key value ih => exact ih

/-- What is taken out of a path was built before, so nothing new comes about that way. -/
theorem FlowPath.Built.endpoint {y? : Option Float} {ends : Role → Option Float} {p : FlowPath}
    (h : p.Built y? ends) (role : Role) : (p.endpoint role).Built (ends role) := by
  induction h with
  | new hsource hsink vulnerabilityType =>
    cases role with
    | source => exact hsource
    | sink => exact hsink
  | ofFields h => exact .ofPath h role
  | ofPaths h hp => exact .ofPaths h hp role
  | withConfidence h x ih => cases role <;> exact ih
  | withImpact h impact ih => cases role <;> exact ih
  | withDescription h description ih => cases role <;> exact ih
  | withIntermediateNodes h nodes ih => cases role <;> exact ih
  | withRecommendations h recommendations ih => cases role <;> exact ih
  | withMetadata h key value ih => cases role <;> exact ih

/-- **Confidences are scores unless a document says otherwise.**  However an endpoint or a path is
    built, its confidence is a number.  It is a score, except that a number which a decoder took
    over stays as it was until the confidence is set anew, be it in range or not. -/
theorem confidence_isScore_iff_taken (y? : Option Float) :
    (∀ e, Endpoint.Built y? e → Rates y? e.confidence) ∧
      (∀ ends p, FlowPath.Built y? ends p → Rates y? p.confidence ∧
        ∀ role, (p.endpoint role).Built (ends role) ∧
          Rates (ends role) (p.endpoint role).confidence) ∧
      ∀ s f, Findings.ofJsonText s = .ok f → ∃ v, Findings.Read v f := by
  refine ⟨fun e h => h.rates, fun ends p h => ⟨h.rates, fun role => ?_⟩, fun s f h => ?_⟩
  · have hend := h.endpoint role
    exact ⟨hend, hend.rates⟩
  · exact Findings.exists_read h

/-- The path of the loose map, with a confidence set beyond the range. -/
theorem confidence_isScore_iff_taken_looseMap :
    ∃ p ends, looseFindings.paths[0]? = some p ∧ ends .source = some 1 ∧ ends .sink = none ∧
      (p.withConfidence 7).Built none ends ∧ Rates none (p.withConfidence 7).confidence ∧
      ∀ role, ((p.withConfidence 7).endpoint role).Built (ends role) ∧
        Rates (ends role) ((p.withConfidence 7).endpoint role).confidence := by
  have hread : Findings.Read (.object looseMap) looseFindings := .ofFields rfl
  have hbuilt := (FlowPath.Built.ofPaths (i := 0) hread rfl).withConfidence 7
  exact ⟨_, _, rfl, rfl, rfl, hbuilt, (confidence_isScore_iff_taken none).2.1 _ _ hbuilt⟩

/-- A map with a confidence beyond the range. -/
def overratedMap : Fields := [("confidence", .ofFloat 5), ("node_id", .ofInt64 1)]

/-- The decoder keeps it. -/
theorem overratedMap_not_clamped :
    ∃ e, Endpoint.ofFields overratedMap = .ok e ∧ e.Built (some 5) ∧ e.confidence = 5 ∧
      ¬ IsScore e.confidence := by
  let e : Endpoint := { nodeId := 1, name := "", category := .unknown, confidence := 5 }
  have hread : Endpoint.ofFields overratedMap = .ok e := rfl
  exact ⟨e, hread, .ofFields hread, rfl, by decide⟩

end TaintReview
