import TaintReview.Json.Reader

namespace TaintReview.Json

/-!
# Reading what is asked for

A typed reading of a JSON text looks at the members that it knows and at nothing else: what
it passes over has to be spelled right, and need not have a value.  A shape says which parts
of a document are looked at.  A member that is looked at must not be repeated.
-/

/-- Which parts of a document are looked at. -/
inductive Shape where
  /-- The whole value. -/
  | value
  /-- A tag: an object of it has one key. -/
  | tag
  /-- An array of values of one shape. -/
  | list (item : Shape)
  /-- The known fields of a record, in the order in which they are listed in an array. -/
  | record (fields : List (String × Shape))

/-- Has the object a member with this key already? -/
def repeated (key : String) (members : List (String × Json)) : Bool :=
  members.any (·.1 == key)

mutual

/-- The value of the parts of a tree that a shape looks at, with less than `depth`
    containers inside one another. -/
def Written.select? : Written → Shape → Nat → Option Json
  | .array items, .list item, depth =>
    if depth ≤ 1 then none else Json.array <$> selectItems? items item (depth - 1)
  | .array items, .record fields, depth =>
    if depth ≤ 1 then none else Json.array <$> selectInOrder? items fields (depth - 1)
  | .object members, .record fields, depth =>
    if depth ≤ 1 then none
    else (fun ms => Json.object (Fields.ofList ms)) <$> selectMembers? members fields (depth - 1)
  | .object [member], .tag, depth => (Written.object [member]).value? depth
  | .object _, .tag, _ => none
  | v, _, depth => v.value? depth

/-- The items of an array, all of one shape. -/
def selectItems? : List Written → Shape → Nat → Option (List Json)
  | [], _, _ => some []
  | v :: rest, item, depth => do
    let v ← v.select? item depth
    let vs ← selectItems? rest item depth
    pure (v :: vs)

/-- The items of an array that lists the fields of a record; items past the last field are
    looked at as a whole. -/
def selectInOrder? : List Written → List (String × Shape) → Nat → Option (List Json)
  | [], _, _ => some []
  | v :: rest, fields, depth => do
    let v ← v.select? ((fields.map (·.2)).headD .value) depth
    let vs ← selectInOrder? rest fields.tail depth
    pure (v :: vs)

/-- The known members of an object.  Of the others only the key needs a value. -/
def selectMembers? : List (List Piece × Written) → List (String × Shape) → Nat →
    Option (List (String × Json))
  | [], _, _ => some []
  | (k, v) :: rest, fields, depth => do
    let k ← pieceText? k
    let ms ← selectMembers? rest fields depth
    match fields.lookup k with
    | none => pure ms
    | some shape =>
      let v ← v.select? shape depth
      if repeated k ms then none else pure ((k, v) :: ms)

end

end TaintReview.Json
