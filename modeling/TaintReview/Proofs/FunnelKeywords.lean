import TaintReview.Proofs.Confirmation
import TaintReview.Proofs.LetterCase
import TaintReview.Proofs.Outcome
import TaintReview.Proofs.PatternSearch

namespace TaintReview

/-!
# The keywords of a funnel

Keywords are configured as arbitrary texts and looked for in one form each.  Settings are checked on
the texts as they stand, before they are brought into that form, so the two have to agree.

* `Funnel.form`, `Funnel.InForm` — the form in which a keyword is looked for, and what makes a text
  one that has this form already;
* `Funnel.Lists keywords found` — `found` are the forms of the keywords that are not blank, each
  once and in the order in which they first occur; `normalize_lists` — the funnel looks for these;
* **`Funnel.normalize_agrees_with_check`** — the laws of bringing keywords into form, and that
  checked settings leave the funnel with something to look for.
-/

theorem SettingsProblem.report_eq_ok_iff {problem : Option SettingsProblem} :
    report problem = .ok () ↔ problem = none := by
  cases problem with
  | none => exact iff_of_true rfl rfl
  | some problem => simp [report]

namespace Funnel

open Text

/-! ### The form of a keyword -/

/-- The form in which a keyword is looked for. -/
def form (keyword : String) : String := lowered (trimmed keyword)

/-- The text is a keyword in its form. -/
structure InForm (k : String) : Prop where
  nonempty : k ≠ ""
  bare : Bare isBlank k.toList
  small : lowered k = k

variable {keyword k : String} {keywords found seen : List String}

/-- The form of a keyword is trimmed and in lower case. -/
theorem toList_form (keyword : String) : (form keyword).toList = lower (trim keyword.toList) := by
  rw [form, lowered, trimmed, String.toList_ofList, String.toList_ofList]

theorem lowered_eq_empty_iff {text : String} : lowered text = "" ↔ text = "" := by
  rw [lowered, ← String.ofList_nil, String.ofList_inj, ← String.toList_eq_nil_iff]
  constructor
  · intro h
    by_contra hne
    exact lower_ne_nil hne h
  · intro h
    rw [h]
    rfl

/-- Exactly the blank keywords leave nothing to look for. -/
theorem form_eq_empty_iff : form keyword = "" ↔ isBlankText keyword = true := by
  rw [form, lowered_eq_empty_iff, Review.trimmed_eq_empty_iff]

/-- The form of a keyword that is not blank is in its form. -/
theorem inForm_form (h : isBlankText keyword = false) : InForm (form keyword) where
  nonempty hempty := by
    rw [form_eq_empty_iff.mp hempty] at h
    cases h
  bare := by
    rw [toList_form]
    exact bare_lower (bare_trim _)
  small := by
    rw [lowered, toList_form, lower_lower, ← toList_form, String.ofList_toList]

namespace InForm

theorem form_eq (h : InForm k) : form k = k := by
  rw [form, trimmed, trim, strip_of_bare h.bare, String.ofList_toList, h.small]

theorem not_blank (h : InForm k) : isBlankText k = false := by
  rw [Bool.eq_false_iff, ne_eq, ← form_eq_empty_iff, h.form_eq]
  exact h.nonempty

end InForm

/-! ### All keywords -/

/-- Where the first keyword of a form stands. -/
def firstPlace (keywords : List String) (k : String) : Nat := keywords.findIdx (form · == k)

/-- The texts are the forms of the keywords that are not blank, each once and in the order in which
    they first occur. -/
structure Lists (keywords found : List String) : Prop where
  mem_iff : ∀ k, k ∈ found ↔ ∃ keyword ∈ keywords, isBlankText keyword = false ∧ form keyword = k
  inOrder : found.Pairwise fun k k' => firstPlace keywords k < firstPlace keywords k'

namespace Lists

/-- No form is listed twice. -/
theorem nodup (h : Lists keywords found) : found.Nodup :=
  h.inOrder.imp fun hlt heq => Nat.ne_of_lt hlt (congrArg _ heq)

/-- The keywords leave no choice. -/
theorem unique {found' : List String} (h : Lists keywords found) (h' : Lists keywords found') :
    found = found' := by
  have hperm : found.Perm found' :=
    (List.perm_ext_iff_of_nodup h.nodup h'.nodup).mpr fun k =>
      (h.mem_iff k).trans (h'.mem_iff k).symm
  -- Two lists with the same members in one order are equal.
  refine hperm.eq_of_pairwise ?_ h.inOrder h'.inOrder
  intro k k' _ _ hlt hlt'
  exact absurd hlt' (Nat.lt_asymm hlt)

end Lists

/-- A keyword is passed over when it is blank or its form was seen before, and kept otherwise. -/
theorem pass_or_keep (keyword : String) (seen : List String) :
    (isBlankText keyword = true ∨ form keyword ∈ seen) ∨
      isBlankText keyword = false ∧ form keyword ∉ seen := by
  by_cases hpass : isBlankText keyword = true ∨ form keyword ∈ seen
  · exact .inl hpass
  · obtain ⟨hblank, hseen⟩ := not_or.mp hpass
    exact .inr ⟨Bool.eq_false_iff.mpr hblank, hseen⟩

theorem normalizeFrom_cons_of_pass (h : isBlankText keyword = true ∨ form keyword ∈ seen)
    (keywords : List String) :
    normalizeFrom seen (keyword :: keywords) = normalizeFrom seen keywords := by
  rw [← form_eq_empty_iff] at h
  rw [normalizeFrom]
  apply if_pos
  simpa [form] using h

/-- The form of a keyword that is kept is listed, and counts as seen from there on. -/
theorem normalizeFrom_cons_of_keep (hblank : isBlankText keyword = false)
    (hseen : form keyword ∉ seen) (keywords : List String) :
    normalizeFrom seen (keyword :: keywords) =
      form keyword :: normalizeFrom (form keyword :: seen) keywords := by
  have hne := (inForm_form hblank).nonempty
  rw [normalizeFrom]
  apply if_neg
  simpa [form] using And.intro hne hseen

/-- The forms that are listed are those that were not seen before. -/
theorem mem_normalizeFrom_iff :
    k ∈ normalizeFrom seen keywords ↔
      k ∉ seen ∧ ∃ keyword ∈ keywords, isBlankText keyword = false ∧ form keyword = k := by
  induction keywords generalizing seen with
  | nil => simp [normalizeFrom]
  | cons keyword keywords ih =>
    rcases pass_or_keep keyword seen with hpass | ⟨hblank, hseen⟩
    · -- The keyword does not count: it is blank, or its form was seen and `k` was not.
      rw [normalizeFrom_cons_of_pass hpass, ih]
      grind
    · rw [normalizeFrom_cons_of_keep hblank hseen, List.mem_cons, ih]
      grind

theorem firstPlace_cons_self (keyword : String) (keywords : List String) :
    firstPlace (keyword :: keywords) (form keyword) = 0 := by
  rw [firstPlace, List.findIdx_cons, beq_self_eq_true]
  rfl

theorem firstPlace_cons_of_ne (h : form keyword ≠ k) (keywords : List String) :
    firstPlace (keyword :: keywords) k = firstPlace keywords k + 1 := by
  rw [firstPlace, List.findIdx_cons, beq_false_of_ne h]
  rfl

/-- Forms other than that of the first keyword stand in the order of the other keywords. -/
theorem pairwise_firstPlace_cons (hne : ∀ k ∈ found, form keyword ≠ k)
    (h : found.Pairwise fun k k' => firstPlace keywords k < firstPlace keywords k') :
    found.Pairwise fun k k' =>
      firstPlace (keyword :: keywords) k < firstPlace (keyword :: keywords) k' := by
  refine h.imp_of_mem fun {k k'} hk hk' hlt => ?_
  rw [firstPlace_cons_of_ne (hne k hk), firstPlace_cons_of_ne (hne k' hk')]
  exact Nat.succ_lt_succ hlt

/-- The forms are listed in the order in which they first occur. -/
theorem pairwise_normalizeFrom (seen keywords : List String) :
    (normalizeFrom seen keywords).Pairwise fun k k' =>
      firstPlace keywords k < firstPlace keywords k' := by
  induction keywords generalizing seen with
  | nil => exact .nil
  | cons keyword keywords ih =>
    rcases pass_or_keep keyword seen with hpass | ⟨hblank, hseen⟩
    · rw [normalizeFrom_cons_of_pass hpass]
      refine pairwise_firstPlace_cons ?_ (ih seen)
      rintro k hk rfl
      -- The form of this keyword is not among those of the others that are kept.
      obtain ⟨hseen, other, -, hblank, heq⟩ := mem_normalizeFrom_iff.mp hk
      have hself : isBlankText keyword = true := hpass.resolve_right hseen
      rw [← form_eq_empty_iff, ← heq] at hself
      exact (inForm_form hblank).nonempty hself
    · rw [normalizeFrom_cons_of_keep hblank hseen]
      have hne : ∀ k ∈ normalizeFrom (form keyword :: seen) keywords, form keyword ≠ k := by
        rintro k hk rfl
        exact (mem_normalizeFrom_iff.mp hk).1 List.mem_cons_self
      refine List.pairwise_cons.mpr ⟨fun k hk => ?_, pairwise_firstPlace_cons hne (ih _)⟩
      rw [firstPlace_cons_self, firstPlace_cons_of_ne (hne k hk)]
      exact Nat.succ_pos _

/-- The forms that are listed are those of the keywords that are not blank. -/
theorem mem_normalize_iff :
    k ∈ normalize keywords ↔
      ∃ keyword ∈ keywords, isBlankText keyword = false ∧ form keyword = k := by
  rw [normalize, mem_normalizeFrom_iff]
  exact and_iff_right List.not_mem_nil

/-- **The keywords that are looked for** are the forms of the configured ones. -/
theorem normalize_lists (keywords : List String) : Lists keywords (normalize keywords) where
  mem_iff _ := mem_normalize_iff
  inOrder := pairwise_normalizeFrom [] keywords

example : normalize [" Input ", "input", "", "READ"] = ["input", "read"] := by decide +kernel

/-- What is listed is in its form. -/
theorem inForm_of_mem_normalize (h : k ∈ normalize keywords) : InForm k := by
  obtain ⟨keyword, -, hblank, rfl⟩ := mem_normalize_iff.mp h
  exact inForm_form hblank

/-- Keywords in their form, without repetitions, stay as they are. -/
theorem normalizeFrom_of_inForm (hform : ∀ k ∈ keywords, InForm k) (hnodup : keywords.Nodup)
    (hseen : ∀ k ∈ keywords, k ∉ seen) : normalizeFrom seen keywords = keywords := by
  induction keywords generalizing seen with
  | nil => rfl
  | cons k keywords ih =>
    obtain ⟨hk, hkeywords⟩ := List.forall_mem_cons.mp hform
    obtain ⟨hnew, hrest⟩ := List.nodup_cons.mp hnodup
    obtain ⟨hunseen, hothers⟩ := List.forall_mem_cons.mp hseen
    have hself := hk.form_eq
    rw [normalizeFrom_cons_of_keep hk.not_blank (hself.symm ▸ hunseen), hself]
    rw [ih hkeywords hrest]
    -- The others were not seen before and are not this one.
    intro k' hk'
    refine List.not_mem_cons_of_ne_of_not_mem ?_ (hothers k' hk')
    rintro rfl
    exact hnew hk'

/-- Bringing keywords into form twice changes nothing. -/
theorem normalize_normalize (keywords : List String) :
    normalize (normalize keywords) = normalize keywords :=
  normalizeFrom_of_inForm (fun _ => inForm_of_mem_normalize) (normalize_lists keywords).nodup
    fun _ _ => List.not_mem_nil

/-- Of further keywords those are added that were not seen before. -/
theorem normalizeFrom_append (seen keywords more : List String) :
    normalizeFrom seen (keywords ++ more) =
      normalizeFrom seen keywords ++
        normalizeFrom ((normalizeFrom seen keywords).reverse ++ seen) more := by
  induction keywords generalizing seen with
  | nil => rfl
  | cons keyword keywords ih =>
    rw [List.cons_append]
    rcases pass_or_keep keyword seen with hpass | ⟨hblank, hseen⟩
    · rw [normalizeFrom_cons_of_pass hpass, normalizeFrom_cons_of_pass hpass, ih]
    · -- What has been seen in the end is what was kept, the last first.
      rw [normalizeFrom_cons_of_keep hblank hseen, normalizeFrom_cons_of_keep hblank hseen, ih,
        List.reverse_cons, List.append_assoc, List.singleton_append, List.cons_append]

/-! ### Checked settings -/

/-- There is something to look for exactly when some keyword is not blank. -/
theorem normalize_eq_nil_iff : normalize keywords = [] ↔ keywords.all isBlankText = true := by
  rw [List.eq_nil_iff_forall_not_mem, List.all_eq_true]
  constructor
  · intro h keyword hkeyword
    by_contra hblank
    exact h _ (mem_normalize_iff.mpr ⟨keyword, hkeyword, Bool.eq_false_iff.mpr hblank, rfl⟩)
  · intro h k hk
    obtain ⟨keyword, hkeyword, hblank, -⟩ := mem_normalize_iff.mp hk
    rw [h keyword hkeyword] at hblank
    cases hblank

/-- There is no problem with settings that leave a keyword for each role and let a row through. -/
theorem problem?_eq_none_iff {settings : FunnelSettings} :
    settings.problem? = none ↔ normalize settings.sourceKeywords ≠ [] ∧
      normalize settings.sinkKeywords ≠ [] ∧ settings.limit ≠ some 0 := by
  rw [ne_eq, ne_eq, normalize_eq_nil_iff, normalize_eq_nil_iff, FunnelSettings.problem?]
  grind

/-- Sorting out rows asks nothing. -/
theorem calls_usable (rows : List Record) (s : Session) :
    ((usable rows).after s).calls = s.calls := by
  induction rows generalizing s with
  | nil => rfl
  | cons row rows ih =>
    rw [usable]
    cases Candidate.ofRecord row with
    | ok candidate => exact ih s
    | error e => exact ih _

/-- The funnel asks one query. -/
theorem calls_byKeyword (settings : FunnelSettings) (role : Role) (id : String) (s : Session) :
    ((byKeyword settings role id).after s).calls = s.calls ++
      [.query (statement role) (parameters settings role id)
        (s.graph.rows (statement role) (parameters settings role id))] := by
  rw [byKeyword, SessionM.after_bind, Session.value_runQuery, ← parameters,
    ← (Adds.runQuery (statement role) (parameters settings role id) s).recorded]
  cases s.graph.rows (statement role) (parameters settings role id) with
  | ok rows => exact calls_usable rows _
  | error e => rfl

/-- Settings without a problem leave a keyword for each role. -/
theorem keywords_ne_nil {settings : FunnelSettings} (h : settings.problem? = none) (role : Role) :
    Funnel.keywords settings role ≠ [] := by
  obtain ⟨hsource, hsink, -⟩ := problem?_eq_none_iff.mp h
  cases role with
  | source => exact hsource
  | sink => exact hsink

/-- The keywords of a role are in their form. -/
theorem inForm_of_mem_keywords {settings : FunnelSettings} {role : Role}
    (h : k ∈ Funnel.keywords settings role) : InForm k := by
  cases role with
  | source => exact inForm_of_mem_normalize h
  | sink => exact inForm_of_mem_normalize h

/-- **Bringing keywords into form agrees with the check of settings.**  The keywords that are looked
    for are the trimmed and lower-cased forms of the configured ones that are not blank, each once
    and in the order in which they first occur.  Doing it twice changes nothing, and further
    keywords only add to what is found.  Settings pass the check exactly when both roles are left
    with a keyword and a limit lets a row through; a funnel with such settings asks one query, with
    at least one keyword and no blank one. -/
theorem normalize_agrees_with_check (configured more : List String) (settings : FunnelSettings) :
    ((normalize configured).Nodup ∧ (∀ k ∈ normalize configured, InForm k) ∧
      (∀ found, Lists configured found ↔ found = normalize configured) ∧
      normalize (normalize configured) = normalize configured ∧
      normalize configured <+: normalize (configured ++ more)) ∧
    (SettingsProblem.report settings.problem? = .ok () ↔
      normalize settings.sourceKeywords ≠ [] ∧ normalize settings.sinkKeywords ≠ [] ∧
        settings.limit ≠ some 0) ∧
    (SettingsProblem.report settings.problem? = .ok () → ∀ role investigation s,
      ∃ asked answer looked,
        (((Funnel.keyword settings).candidates role investigation).after s).calls =
          s.calls ++ [.query (statement role) asked answer] ∧
        Fields.get? asked "keywords" = some (.ofList .string looked) ∧
        looked ≠ [] ∧ ∀ k ∈ looked, isBlankText k = false) := by
  have hlists := normalize_lists configured
  refine ⟨⟨hlists.nodup, fun _ => inForm_of_mem_normalize, fun found => ?_,
    normalize_normalize configured, ?_⟩, ?_, ?_⟩
  · constructor
    · exact fun h => h.unique hlists
    · rintro rfl
      exact hlists
  · rw [normalize, normalize, normalizeFrom_append]
    exact List.prefix_append _ _
  · exact SettingsProblem.report_eq_ok_iff.trans problem?_eq_none_iff
  · intro hchecked role investigation s
    refine ⟨_, _, Funnel.keywords settings role, calls_byKeyword settings role investigation s, rfl,
      keywords_ne_nil (SettingsProblem.report_eq_ok_iff.mp hchecked) role, ?_⟩
    exact fun k hk => (inForm_of_mem_keywords hk).not_blank

/-- Padded, repeated and blank keywords pass the check when others are left. -/
theorem normalize_agrees_with_check_padded :
    let settings : FunnelSettings :=
      { sourceKeywords := [" Input ", "input", "", "READ"], sinkKeywords := ["exec"],
        limit := some 25 }
    SettingsProblem.report settings.problem? = .ok () ∧
      ∃ asked answer looked,
        (((Funnel.keyword settings).candidates .source "inv-1").after {}).calls =
          [.query (statement .source) asked answer] ∧
        Fields.get? asked "keywords" = some (.ofList .string looked) ∧
        looked ≠ [] ∧ ∀ k ∈ looked, isBlankText k = false := by
  intro settings
  have hchecked : SettingsProblem.report settings.problem? = .ok () :=
    SettingsProblem.report_eq_ok_iff.mpr (by decide)
  exact ⟨hchecked, (normalize_agrees_with_check [] [] settings).2.2 hchecked .source "inv-1" {}⟩

end Funnel

end TaintReview
