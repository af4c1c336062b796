import TaintReview.Json.Decode

namespace TaintReview

/-!
# Metadata

The open members that findings carry.  Documents list the members of an object in increasing
order of their keys, and metadata keep to that order at every depth, which is part of their
type.  Values that come from elsewhere are brought into order when they are taken in; what is
in order already stays as it is.
-/

/-! ### Members in order -/

namespace Fields

/-- The members stand in increasing order of their keys. -/
def Ordered (fields : Fields) : Prop := fields.Pairwise fun a b => a.1 < b.1

/-- Members are in order when their keys are. -/
theorem ordered_of_keys {fields : Fields} (h : (fields.map (·.1)).Pairwise (· < ·)) :
    fields.Ordered :=
  List.pairwise_map.mp h

/-- After a member is set, each member is that one or one that was there. -/
theorem mem_of_mem_insert {key : String} {value : Json} {fields : Fields} {m : String × Json}
    (h : m ∈ insert key value fields) : m = (key, value) ∨ m ∈ fields := by
  induction fields with
  | nil => exact .inl (List.mem_singleton.mp h)
  | cons first rest ih =>
    rw [insert] at h
    split at h
    · exact List.mem_cons.mp h
    · split at h
      · exact (List.mem_cons.mp h).imp_right (List.mem_cons_of_mem _)
      · rcases List.mem_cons.mp h with rfl | h
        · exact .inr List.mem_cons_self
        · exact (ih h).imp_right (List.mem_cons_of_mem _)

/-- Setting a member keeps the order. -/
theorem Ordered.insert {fields : Fields} (h : fields.Ordered) (key : String) (value : Json) :
    (Fields.insert key value fields).Ordered := by
  induction fields with
  | nil => exact List.pairwise_singleton _ _
  | cons first rest ih =>
    obtain ⟨hfirst, hrest⟩ := List.pairwise_cons.mp h
    rw [Fields.insert]
    split
    · next hlt =>
      refine List.pairwise_cons.mpr ⟨fun m hm => ?_, h⟩
      rcases List.mem_cons.mp hm with rfl | hm
      · exact hlt
      · exact String.lt_trans hlt (hfirst m hm)
    · next hnot =>
      split
      · next heq =>
        subst heq
        exact List.pairwise_cons.mpr ⟨hfirst, hrest⟩
      · next hne =>
        -- The key comes after the first one.
        have hlt : first.1 < key :=
          String.not_le.mp fun hle => hne (String.le_antisymm hle (String.not_lt.mp hnot))
        refine List.pairwise_cons.mpr ⟨fun m hm => ?_, ih hrest⟩
        rcases mem_of_mem_insert hm with rfl | hm
        · exact hlt
        · exact hfirst m hm

/-- Members that are set one after the other end up in order, and nothing is made up. -/
theorem ofList_spec (members : List (String × Json)) :
    (ofList members).Ordered ∧ ∀ m ∈ ofList members, m ∈ members := by
  -- The members that were set so far are carried along.
  have hfrom : ∀ (ms : List (String × Json)) (fields : Fields), fields.Ordered →
      (ms.foldl (fun fields m => insert m.1 m.2 fields) fields).Ordered ∧
        ∀ m ∈ ms.foldl (fun fields m => insert m.1 m.2 fields) fields, m ∈ fields ∨ m ∈ ms := by
    intro ms
    induction ms with
    | nil => exact fun fields h => ⟨h, fun m hm => .inl hm⟩
    | cons next ms ih =>
      intro fields h
      obtain ⟨hordered, hmem⟩ := ih _ (h.insert next.1 next.2)
      refine ⟨hordered, fun m hm => ?_⟩
      rcases hmem m hm with hm | hm
      · rcases mem_of_mem_insert hm with rfl | hm
        · exact .inr List.mem_cons_self
        · exact .inl hm
      · exact .inr (List.mem_cons_of_mem _ hm)
  obtain ⟨hordered, hmem⟩ := hfrom members [] .nil
  exact ⟨hordered, fun m hm => (hmem m hm).resolve_left List.not_mem_nil⟩

/-- A member whose key comes after all others is set behind them. -/
theorem insert_of_forall_lt {key : String} {fields : Fields} (h : ∀ m ∈ fields, m.1 < key)
    (value : Json) : insert key value fields = fields ++ [(key, value)] := by
  induction fields with
  | nil => rfl
  | cons m rest ih =>
    obtain ⟨hm, hrest⟩ := List.forall_mem_cons.mp h
    have hne : key ≠ m.1 := fun heq => String.lt_irrefl key (heq ▸ hm)
    rw [insert, if_neg (String.lt_asymm hm), if_neg hne, ih hrest]
    rfl

/-- Members in order are left as they stand. -/
theorem ofList_of_ordered {fields : Fields} (h : fields.Ordered) : ofList fields = fields := by
  -- The members that were set so far are all in front of those that are still to come.
  have hfold : ∀ rest done : Fields, (done ++ rest).Ordered →
      rest.foldl (fun fields m => insert m.1 m.2 fields) done = done ++ rest := by
    intro rest
    induction rest with
    | nil =>
      intro done _
      rw [List.append_nil]
      rfl
    | cons m rest ih =>
      intro done hordered
      have hbefore : ∀ k ∈ done, k.1 < m.1 := fun k hk =>
        (List.pairwise_append.mp hordered).2.2 k hk m List.mem_cons_self
      rw [List.foldl_cons, insert_of_forall_lt hbefore, ih, List.append_assoc]
      · rfl
      · rw [List.append_assoc]
        exact hordered
  exact hfold fields [] h

end Fields

/-! ### Values in order -/

namespace Json

mutual

/-- Every object in the value lists its members in order. -/
def Ordered : Json → Prop
  | .null | .bool _ | .number _ | .string _ => True
  | .array items => ItemsOrdered items
  | .object fields => Fields.Ordered fields ∧ MembersOrdered fields

/-- Every object in the items lists its members in order. -/
def ItemsOrdered : List Json → Prop
  | [] => True
  | v :: rest => Ordered v ∧ ItemsOrdered rest

/-- Every object in the members lists its members in order. -/
def MembersOrdered : List (String × Json) → Prop
  | [] => True
  | (_, v) :: rest => Ordered v ∧ MembersOrdered rest

end

mutual

/-- The value with the members of all objects brought into order. -/
def tidy : Json → Json
  | .array items => .array (tidyItems items)
  | .object fields => .object (Fields.ofList (tidyMembers fields))
  | .null => .null
  | .bool b => .bool b
  | .number n => .number n
  | .string s => .string s

/-- The items with the members of all objects brought into order. -/
def tidyItems : List Json → List Json
  | [] => []
  | v :: rest => tidy v :: tidyItems rest

/-- The members with the members of all objects in them brought into order. -/
def tidyMembers : List (String × Json) → List (String × Json)
  | [] => []
  | (key, v) :: rest => (key, tidy v) :: tidyMembers rest

end

/-- Members are in order inside when each of them is. -/
theorem membersOrdered_iff {fields : Fields} :
    MembersOrdered fields ↔ ∀ m ∈ fields, m.2.Ordered := by
  induction fields with
  | nil => exact iff_of_true trivial (List.forall_mem_nil _)
  | cons m rest ih => rw [MembersOrdered, List.forall_mem_cons, ih]

mutual

/-- What was brought into order is in order. -/
theorem ordered_tidy : (v : Json) → v.tidy.Ordered
  | .null => trivial
  | .bool _ => trivial
  | .number _ => trivial
  | .string _ => trivial
  | .array items => ordered_tidyItems items
  | .object fields => by
    obtain ⟨hordered, hmem⟩ := Fields.ofList_spec (tidyMembers fields)
    refine ⟨hordered, membersOrdered_iff.mpr fun m hm => ?_⟩
    exact membersOrdered_iff.mp (ordered_tidyMembers fields) m (hmem m hm)

/-- The same for items. -/
theorem ordered_tidyItems : (items : List Json) → ItemsOrdered (tidyItems items)
  | [] => trivial
  | v :: rest => ⟨ordered_tidy v, ordered_tidyItems rest⟩

/-- The same for members. -/
theorem ordered_tidyMembers :
    (fields : List (String × Json)) → MembersOrdered (tidyMembers fields)
  | [] => trivial
  | (_, v) :: rest => ⟨ordered_tidy v, ordered_tidyMembers rest⟩

end

mutual

/-- A value in order stays as it is. -/
theorem tidy_of_ordered : {v : Json} → v.Ordered → v.tidy = v
  | .null, _ => rfl
  | .bool _, _ => rfl
  | .number _, _ => rfl
  | .string _, _ => rfl
  | .array _, h => congrArg Json.array (tidyItems_of_ordered h)
  | .object fields, h => by
    rw [tidy, tidyMembers_of_ordered h.2, Fields.ofList_of_ordered h.1]

/-- The same for items. -/
theorem tidyItems_of_ordered : {items : List Json} → ItemsOrdered items → tidyItems items = items
  | [], _ => rfl
  | _ :: _, h => by rw [tidyItems, tidy_of_ordered h.1, tidyItems_of_ordered h.2]

/-- The same for members. -/
theorem tidyMembers_of_ordered : {fields : List (String × Json)} → MembersOrdered fields →
    tidyMembers fields = fields
  | [], _ => rfl
  | (_, _) :: _, h => by rw [tidyMembers, tidy_of_ordered h.1, tidyMembers_of_ordered h.2]

end

/-- A floating-point number is in order. -/
theorem ordered_ofFloat (x : Float) : (ofFloat x).Ordered := by
  rw [ofFloat]
  split <;> trivial

/-- A value that may be absent is in order when it is where it is there. -/
theorem ordered_ofOption {α : Type} {encode : α → Json} (h : ∀ a, (encode a).Ordered)
    (a? : Option α) : (ofOption encode a?).Ordered := by
  cases a? with
  | none => trivial
  | some a => exact h a

/-- A list is in order when its items are. -/
theorem ordered_ofList {α : Type} {encode : α → Json} {as : List α}
    (h : ∀ a ∈ as, (encode a).Ordered) : (ofList encode as).Ordered := by
  show ItemsOrdered (as.map encode)
  induction as with
  | nil => trivial
  | cons a rest ih =>
    obtain ⟨ha, hrest⟩ := List.forall_mem_cons.mp h
    exact ⟨ha, ih hrest⟩

end Json

/-! ### Metadata -/

/-- Open members in order, at every depth. -/
@[ext] structure Metadata where
  fields : Fields
  ordered : (Json.object fields).Ordered

namespace Metadata

/-- No members. -/
def empty : Metadata := ⟨[], .nil, trivial⟩

instance : Inhabited Metadata := ⟨empty⟩

/-- The value of a member. -/
def get? (m : Metadata) (key : String) : Option Json := m.fields.get? key

/-- Members given in any order; a later one replaces an earlier one of the same key. -/
def ofFields (fields : Fields) : Metadata :=
  ⟨Fields.ofList (Json.tidyMembers fields), Json.ordered_tidy (.object fields)⟩

/-- Set a member. -/
def insert (m : Metadata) (key : String) (value : Json) : Metadata where
  fields := m.fields.insert key value.tidy
  ordered := by
    refine ⟨m.ordered.1.insert key value.tidy, Json.membersOrdered_iff.mpr fun entry hentry => ?_⟩
    rcases Fields.mem_of_mem_insert hentry with rfl | hentry
    · exact value.ordered_tidy
    · exact Json.membersOrdered_iff.mp m.ordered.2 entry hentry

/-- The value as an object. -/
def toJson (m : Metadata) : Json := .object m.fields

/-- Metadata in a JSON value. -/
def decode : Decoder Metadata := fun v => ofFields <$> Decode.fields v

/-- Members that are in order are taken as they are. -/
theorem ofFields_fields (m : Metadata) : ofFields m.fields = m := by
  ext1
  show Fields.ofList (Json.tidyMembers m.fields) = m.fields
  rw [Json.tidyMembers_of_ordered m.ordered.2, Fields.ofList_of_ordered m.ordered.1]

end Metadata

end TaintReview
