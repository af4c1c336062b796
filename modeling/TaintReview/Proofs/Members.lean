import Mathlib.Data.List.Perm.Basic
import TaintReview.Json.Metadata

namespace TaintReview

/-!
# Members of objects

What is read of members after some were set or left out.

* `Fields.get?_insert` — a member that was set is read, and the others are as they were;
* `Fields.ofList_perm` — of members with keys of their own none is lost;
* `Fields.get?_filter_of_nodup`, `Fields.get?_filter_key` — reading members that a filter may have
  left out;
* `Metadata.get?_insert_self`, `Metadata.get?_ofFields` — the same for metadata, where a value is
  read as it was given when it is in order.
-/

namespace Fields

/-- The first member is the one that is read when it has the key. -/
theorem get?_cons (k key : String) (v : Json) (rest : Fields) :
    get? ((k, v) :: rest) key = if key = k then some v else get? rest key := by
  rw [get?, List.lookup_cons]
  by_cases hk : key = k
  · rw [if_pos hk, beq_iff_eq.mpr hk]
  · rw [if_neg hk, beq_false_of_ne hk, get?]

/-- There is nothing to read for a key that no member has. -/
theorem get?_eq_none {fields : Fields} {key : String} (h : key ∉ fields.map (·.1)) :
    fields.get? key = none := by
  refine List.lookup_eq_none_iff.mpr fun m hm => bne_iff_ne.mpr ?_
  rintro rfl
  exact h (List.mem_map_of_mem hm)

/-! ### Members that are set -/

/-- A member that was set is read, and the others are as they were. -/
theorem get?_insert (key other : String) (value : Json) (fields : Fields) :
    (insert key value fields).get? other =
      if other = key then some value else fields.get? other := by
  fun_induction insert key value fields with
  | case1 => exact get?_cons key other value []
  | case2 k v rest hlt => exact get?_cons key other value ((k, v) :: rest)
  | case3 v rest hlt =>
    rw [get?_cons, get?_cons]
    split <;> rfl
  | case4 k v rest hlt hne ih =>
    rw [get?_cons, get?_cons, ih]
    -- The two keys differ, so it does not matter which is asked for first.
    by_cases h : other = key
    · rw [if_pos h, if_pos h, if_neg (h ▸ hne)]
    · rw [if_neg h, if_neg h]

/-- A member that was set is there. -/
@[simp] theorem get?_insert_self (key : String) (value : Json) (fields : Fields) :
    (insert key value fields).get? key = some value := by
  rw [get?_insert, if_pos rfl]

/-- Setting a member leaves the others alone. -/
theorem get?_insert_of_ne {key other : String} (h : other ≠ key) (value : Json)
    (fields : Fields) : (insert key value fields).get? other = fields.get? other := by
  rw [get?_insert, if_neg h]

/-- A new member is added and none is lost. -/
theorem insert_perm {key : String} {fields : Fields} (h : key ∉ fields.map Prod.fst)
    (value : Json) : (insert key value fields).Perm ((key, value) :: fields) := by
  fun_induction insert key value fields with
  | case1 => exact .refl _
  | case2 k v rest hlt => exact .refl _
  | case3 v rest hlt => exact absurd List.mem_cons_self h
  | case4 k v rest hlt hne ih =>
    have hrest : key ∉ rest.map Prod.fst := fun hmem => h (List.mem_cons_of_mem _ hmem)
    exact ((ih hrest).cons (k, v)).trans (.swap _ _ _)

/-- Members with keys of their own are all kept, whatever their order. -/
theorem ofList_perm {members : List (String × Json)} (h : (members.map Prod.fst).Nodup) :
    (ofList members).Perm members := by
  -- The members that were set so far are carried along.
  have hfrom : ∀ (ms : List (String × Json)) (fields : Fields),
      ((fields ++ ms).map Prod.fst).Nodup →
        (ms.foldl (fun fields m => insert m.1 m.2 fields) fields).Perm (fields ++ ms) := by
    intro ms
    induction ms with
    | nil =>
      intro fields _
      rw [List.append_nil]
      exact .refl _
    | cons m ms ih =>
      intro fields hnodup
      have hmiddle : (fields ++ m :: ms).Perm (m :: fields ++ ms) := List.perm_middle
      have hnodup := (hmiddle.map Prod.fst).nodup hnodup
      have hnew : m.1 ∉ fields.map Prod.fst := by
        intro hmem
        apply (List.nodup_cons.mp hnodup).1
        exact List.map_subset _ (List.subset_append_left _ _) hmem
      have hset := (insert_perm hnew m.2).append_right ms
      exact (ih _ ((hset.map Prod.fst).nodup_iff.mpr hnodup)).trans (hset.trans hmiddle.symm)
  exact hfrom members [] h

/-! ### Members that are left out -/

/-- A member is in a part of a map exactly when the filter let it through, provided that no two
    members have one key. -/
theorem get?_filter_of_nodup {fields : Fields} (h : (fields.map (·.1)).Nodup)
    (keep : String × Json → Bool) (key : String) :
    get? (fields.filter keep) key = (fields.get? key).filter fun v => keep (key, v) := by
  induction fields with
  | nil => rfl
  | cons m rest ih =>
    obtain ⟨k, v⟩ := m
    obtain ⟨hnew, hrest⟩ := List.nodup_cons.mp h
    rw [get?_cons, List.filter_cons]
    by_cases hk : key = k
    · subst hk
      rw [if_pos rfl, Option.filter_some]
      split
      · rw [get?_cons, if_pos rfl]
      · -- No member further on has the key.
        rw [ih hrest, get?_eq_none hnew]
        rfl
    · rw [if_neg hk, ← ih hrest]
      split
      · rw [get?_cons, if_neg hk]
      · rfl

/-- A filter that asks for the key only leaves the members of other keys alone. -/
theorem get?_filter_key {fields : Fields} {key other : String} (h : key ≠ other) :
    get? (fields.filter (·.1 != other)) key = fields.get? key := by
  induction fields with
  | nil => rfl
  | cons m rest ih =>
    obtain ⟨k, v⟩ := m
    rw [List.filter_cons]
    split
    · rw [get?_cons, get?_cons, ih]
    · next hk =>
      have hother : k = other := by simpa using hk
      rw [get?_cons, if_neg (hother ▸ h), ih]

end Fields

/-! ### Members of metadata -/

namespace Json

/-- Bringing the values into order leaves the keys alone. -/
theorem map_fst_tidyMembers (fields : Fields) :
    (tidyMembers fields).map (·.1) = fields.map (·.1) := by
  induction fields with
  | nil => rfl
  | cons m rest ih => rw [tidyMembers, List.map_cons, List.map_cons, ih]

/-- The member of a key is brought into order, wherever it stands. -/
theorem get?_tidyMembers (fields : Fields) (key : String) :
    Fields.get? (tidyMembers fields) key = (fields.get? key).map tidy := by
  induction fields with
  | nil => rfl
  | cons m rest ih =>
    rw [tidyMembers, Fields.get?_cons, Fields.get?_cons, ih]
    split <;> rfl

end Json

namespace Metadata

/-- Setting one member makes metadata of that member. -/
theorem insert_empty (key : String) (value : Json) :
    empty.insert key value = ofFields [(key, value)] := rfl

/-- A value in order is read as it was set. -/
theorem get?_insert_self (m : Metadata) (key : String) {value : Json} (h : value.Ordered) :
    (m.insert key value).get? key = some value := by
  rw [get?, insert, Fields.get?_insert_self, Json.tidy_of_ordered h]

/-- Members that are given in the order of their keys are all there. -/
theorem get?_ofFields {fields : Fields} (h : fields.Ordered) (key : String) :
    (ofFields fields).get? key = (fields.get? key).map Json.tidy := by
  have hkeys : ((Json.tidyMembers fields).map (·.1)).Pairwise (· < ·) := by
    rw [Json.map_fst_tidyMembers]
    exact List.pairwise_map.mpr h
  show Fields.get? (Fields.ofList (Json.tidyMembers fields)) key = _
  rw [Fields.ofList_of_ordered (Fields.ordered_of_keys hkeys), Json.get?_tidyMembers]

end Metadata

end TaintReview
