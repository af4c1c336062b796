import TaintReview.Proofs.Texts

namespace TaintReview.Text

/-!
# Letters and their case

Three facts about the tables of letter case, each for all characters.

* `lower_lower` — lower-casing a text twice is lower-casing it once.  The lower-case form of a
  capital is no capital (`lowerCodePoint_of_has`), so nothing is left to do for the second time;
* `bare_lower` — lower-casing a text leaves its ends free of blanks, since no character that is not
  a blank becomes one (`not_isBlank_of_mem_lowerChar`);
* `foldChar` — simple case folding, the comparison of letters without regard to case, and
  `foldChar_eq_iff` — the characters that fold to a small letter from `a` to `z` are those that
  `Pattern.sameLetter` accepts for it: the letter, its capital, and in two cases one more.
-/

variable {r t : CapitalRun} {n : Nat} {c : Char}

/-! ### Runs of capitals -/

namespace CapitalRun

theorem has_iff : r.has n = true ↔ (r.lo ≤ n ∧ n ≤ r.hi) ∧ (n - r.lo) % r.step = 0 := by
  simp only [has, Bool.and_eq_true, decide_eq_true_eq, beq_iff_eq]

/-- Where the code points of a run go by its shift: between two code points, and only to every other
    one when the run is sparse. -/
structure Image where
  lo : Nat
  hi : Nat
  sparse : Bool

/-- The image of a run. -/
def image (r : CapitalRun) : Image where
  lo := (r.lo + r.shift).toNat
  hi := (r.hi + r.shift).toNat
  sparse := r.step == 2 || r.lo == r.hi

/-- The image lies before the run, after it, or in the gaps between its capitals. -/
def avoids (t : CapitalRun) (i : Image) : Bool :=
  Nat.blt i.hi t.lo || (Nat.blt t.hi i.lo ||
    (i.sparse && (Nat.beq t.step 2 && Nat.beq ((i.lo + t.lo) % 2) 1)))

/-- What the image of a run of capitals keeps to: it holds code points of characters, the only one
    in ASCII being that of the Kelvin sign, and not the capital I with a dot. -/
structure Lands (r : CapitalRun) : Prop where
  nonneg : 0 ≤ r.lo + r.shift
  valid : r.hi + r.shift < 0xd800 ∨ 0xdfff < r.lo + r.shift ∧ r.hi + r.shift < 0x110000
  not_dotted : r.hi + r.shift < 0x130 ∨ 0x130 < r.lo + r.shift
  ascii : 0x80 ≤ r.lo + r.shift ∨ r = ⟨0x212a, 0x212a, 1, -8383⟩

instance (r : CapitalRun) : Decidable r.Lands :=
  decidable_of_iff (0 ≤ r.lo + r.shift ∧
      (r.hi + r.shift < 0xd800 ∨ 0xdfff < r.lo + r.shift ∧ r.hi + r.shift < 0x110000) ∧
      (r.hi + r.shift < 0x130 ∨ 0x130 < r.lo + r.shift) ∧
      (0x80 ≤ r.lo + r.shift ∨ r = ⟨0x212a, 0x212a, 1, -8383⟩))
    ⟨fun ⟨h₁, h₂, h₃, h₄⟩ => ⟨h₁, h₂, h₃, h₄⟩, fun ⟨h₁, h₂, h₃, h₄⟩ => ⟨h₁, h₂, h₃, h₄⟩⟩

/-- The runs of the table land where they should. -/
theorem lands_of_mem (h : r ∈ capitalRuns) : r.Lands := by
  -- The table is closed, so that the kernel can go through it.
  have hall : ∀ r ∈ capitalRuns, r.Lands := by decide +kernel
  exact hall r h

/-- No run of the table meets the image of another, or its own. -/
theorem avoids_of_mem (hr : r ∈ capitalRuns) (ht : t ∈ capitalRuns) :
    t.avoids r.image = true := by
  -- All pairs of runs are compared by their bounds, which is quick.
  have hall : (capitalRuns.all fun r => capitalRuns.all fun t => t.avoids r.image) = true := by
    decide +kernel
  exact List.all_eq_true.mp (List.all_eq_true.mp hall r hr) t ht

/-- No code point of a run goes to a capital of a run that its image avoids. -/
theorem has_shifted_eq_false (hnonneg : 0 ≤ r.lo + r.shift) (h : t.avoids r.image = true)
    (hn : r.has n = true) : t.has (n + r.shift).toNat = false := by
  obtain ⟨⟨hlo, hhi⟩, hstep⟩ := has_iff.mp hn
  rw [Bool.eq_false_iff, ne_eq, has_iff]
  rintro ⟨⟨htlo, hthi⟩, htstep⟩
  simp only [avoids, image, Bool.or_eq_true, Bool.and_eq_true, Nat.blt_eq, Nat.beq_eq,
    beq_iff_eq] at h
  rcases h with hbefore | hafter | ⟨hsparse, htwo, hodd⟩
  · omega
  · omega
  · -- The image and the run hold code points of different parity.
    rw [htwo] at htstep
    rcases hsparse with hrtwo | hsingle
    · rw [hrtwo] at hstep
      omega
    · omega

end CapitalRun

/-! ### Lower case -/

/-- A code point is in no run and stays, or is in one and is shifted by it. -/
theorem lowerCodePoint_cases (n : Nat) :
    (lowerCodePoint n = n ∧ ∀ r ∈ capitalRuns, r.has n = false) ∨
      ∃ r ∈ capitalRuns, r.has n = true ∧ lowerCodePoint n = (n + r.shift).toNat := by
  rw [lowerCodePoint]
  cases hfind : capitalRuns.find? (·.has n) with
  | none =>
    refine .inl ⟨rfl, fun r hr => ?_⟩
    exact Bool.eq_false_iff.mpr (List.find?_eq_none.mp hfind r hr)
  | some r =>
    have hhas : r.has n = true := by simpa using List.find?_some hfind
    exact .inr ⟨r, List.mem_of_find?_eq_some hfind, hhas, rfl⟩

/-- **The lower-case form of a capital is no capital.** -/
theorem lowerCodePoint_of_has (hr : r ∈ capitalRuns) (hn : r.has n = true) :
    lowerCodePoint (n + r.shift).toNat = (n + r.shift).toNat := by
  rcases lowerCodePoint_cases (n + r.shift).toNat with ⟨hself, -⟩ | ⟨t, ht, hthas, -⟩
  · exact hself
  · have hmiss := CapitalRun.has_shifted_eq_false (CapitalRun.lands_of_mem hr).nonneg
      (CapitalRun.avoids_of_mem hr ht) hn
    rw [hmiss] at hthas
    cases hthas

theorem toNat_ofNat_of_valid (h : n.isValidChar) : (Char.ofNat n).toNat = n := by
  rw [Char.ofNat, dif_pos h]
  rfl

/-- The lower-case form of a capital is a character. -/
theorem isValidChar_of_has (hr : r ∈ capitalRuns) (hn : r.has n = true) :
    (n + r.shift).toNat.isValidChar := by
  obtain ⟨⟨hlo, hhi⟩, -⟩ := CapitalRun.has_iff.mp hn
  have hlands := CapitalRun.lands_of_mem hr
  have hnonneg := hlands.nonneg
  have hvalid := hlands.valid
  rw [Nat.isValidChar]
  omega

/-- The character stays as it is wherever it stands in a text that is lower-cased. -/
structure IsSmall (c : Char) : Prop where
  not_sigma : c ≠ 'Σ'
  lowerChar_eq : lowerChar c = [c]

/-- In ASCII, lower-case characters are small. -/
theorem isSmall_of_ascii (h : c.toNat < 0x80) : IsSmall c.toLower := by
  have hall : ∀ n < 0x80, (Char.ofNat n).toLower ≠ 'Σ' ∧
      lowerChar (Char.ofNat n).toLower = [(Char.ofNat n).toLower] := by
    decide +kernel
  obtain ⟨hsigma, heq⟩ := hall c.toNat h
  rw [Char.ofNat_toNat] at hsigma heq
  exact ⟨hsigma, heq⟩

/-- Beyond ASCII, the lower-case form of a character is small. -/
theorem isSmall_of_beyond (hascii : 0x80 ≤ c.toNat) (hdot : c ≠ 'İ') (hsigma : c ≠ 'Σ') :
    IsSmall (Char.ofNat (lowerCodePoint c.toNat)) := by
  rcases lowerCodePoint_cases c.toNat with ⟨hself, -⟩ | ⟨r, hr, hhas, hlower⟩
  · -- A character without a capital's run is its own lower-case form.
    rw [hself, Char.ofNat_toNat]
    refine ⟨hsigma, ?_⟩
    rw [lowerChar, if_neg (by omega), if_neg (by simpa using hdot), hself, Char.ofNat_toNat]
  · have hfixed := lowerCodePoint_of_has hr hhas
    have hlands := CapitalRun.lands_of_mem hr
    obtain ⟨⟨hlo, hhi⟩, -⟩ := CapitalRun.has_iff.mp hhas
    have hvalid := isValidChar_of_has hr hhas
    rw [hlower]
    generalize hm : (c.toNat + r.shift).toNat = m at hfixed hvalid
    have hnat : (Char.ofNat m).toNat = m := toNat_ofNat_of_valid hvalid
    rcases hlands.ascii with hbeyond | hkelvin
    · have hne : m ≠ 0x130 := by
        have := hlands.not_dotted
        omega
      have hdotted : Char.ofNat m ≠ 'İ' :=
        fun heq => hne (hnat.symm.trans (congrArg Char.toNat heq))
      refine ⟨fun heq => ?_, ?_⟩
      · -- A capital sigma has a lower-case form of its own.
        have hsigma : m = 0x3a3 := hnat.symm.trans (congrArg Char.toNat heq)
        rw [hsigma] at hfixed
        exact absurd hfixed (by decide +kernel)
      · rw [lowerChar, hnat, if_neg (by omega), if_neg (by simpa using hdotted), hfixed]
    · -- The Kelvin sign becomes a `k`.
      rw [hkelvin] at hlo hhi hm
      have hk : m = 0x6b := by
        have hself : c.toNat = 0x212a := Nat.le_antisymm hhi hlo
        rw [← hm, hself]
        rfl
      rw [hk]
      exact isSmall_of_ascii (c := 'k') (by decide)

/-- What a character becomes is small. -/
theorem isSmall_of_mem_lowerChar (hsigma : c ≠ 'Σ') {d : Char} (h : d ∈ lowerChar c) :
    IsSmall d := by
  rw [lowerChar] at h
  split at h
  · next hascii =>
    rw [List.mem_singleton.mp h]
    exact isSmall_of_ascii hascii
  · next hascii =>
    split at h
    · rcases List.mem_pair.mp h with rfl | rfl
      · exact ⟨by decide, by decide⟩
      · exact ⟨by decide, by decide +kernel⟩
    · next hdot =>
      rw [List.mem_singleton.mp h]
      exact isSmall_of_beyond (by omega) (by simpa using hdot) hsigma

/-- A lower-cased text holds small characters only. -/
theorem isSmall_of_mem_lowerFrom (before cs : List Char) :
    ∀ d ∈ lowerFrom before cs, IsSmall d := by
  induction cs generalizing before with
  | nil => exact List.forall_mem_nil _
  | cons c cs ih =>
    rw [lowerFrom]
    split
    · -- Of the two forms of a small sigma neither is changed any more.
      refine List.forall_mem_cons.mpr ⟨?_, ih _⟩
      rw [lowerSigma]
      split
      · exact ⟨by decide, by decide +kernel⟩
      · exact ⟨by decide, by decide +kernel⟩
    · next hsigma =>
      refine List.forall_mem_append.mpr ⟨fun d hd => ?_, ih _⟩
      exact isSmall_of_mem_lowerChar (by simpa using hsigma) hd

/-- A text of small characters stays as it is. -/
theorem lowerFrom_of_isSmall {before cs : List Char} (h : ∀ d ∈ cs, IsSmall d) :
    lowerFrom before cs = cs := by
  induction cs generalizing before with
  | nil => rfl
  | cons c cs ih =>
    obtain ⟨hc, hcs⟩ := List.forall_mem_cons.mp h
    rw [lowerFrom, if_neg (by simpa using hc.not_sigma), hc.lowerChar_eq, ih hcs]
    rfl

/-- **Lower-casing twice is lower-casing once.** -/
theorem lower_lower (cs : List Char) : lower (lower cs) = lower cs :=
  lowerFrom_of_isSmall (isSmall_of_mem_lowerFrom [] cs)

/-! ### Lower case and blanks -/

/-- No capital has a blank for its lower-case form. -/
theorem not_isBlank_of_has (hr : r ∈ capitalRuns) (hn : r.has n = true) :
    isBlank (Char.ofNat (n + r.shift).toNat) = false := by
  -- No image of a run meets a range of blanks.
  have hapart : ∀ r ∈ capitalRuns, ∀ range ∈ blankCodePoints,
      r.hi + r.shift < range.1 ∨ range.2 < r.lo + r.shift := by
    decide +kernel
  obtain ⟨⟨hlo, hhi⟩, -⟩ := CapitalRun.has_iff.mp hn
  by_contra hblank
  rw [Bool.not_eq_false] at hblank
  obtain ⟨range, hrange, hfrom, hto⟩ := exists_range_of_isBlank hblank
  rw [toNat_ofNat_of_valid (isValidChar_of_has hr hn)] at hfrom hto
  have := hapart r hr range hrange
  have := (CapitalRun.lands_of_mem hr).nonneg
  omega

/-- What is no blank does not become one. -/
theorem not_isBlank_of_mem_lowerChar (hc : isBlank c = false) {d : Char} (hd : d ∈ lowerChar c) :
    isBlank d = false := by
  rw [lowerChar] at hd
  split at hd
  · next hascii =>
    have hall : ∀ n < 0x80, isBlank (Char.ofNat n) = false →
        isBlank (Char.ofNat n).toLower = false := by
      decide +kernel
    have hself := hall c.toNat hascii
    rw [Char.ofNat_toNat] at hself
    rw [List.mem_singleton.mp hd]
    exact hself hc
  · split at hd
    · rcases List.mem_pair.mp hd with rfl | rfl
      · decide
      · decide
    · rw [List.mem_singleton.mp hd]
      rcases lowerCodePoint_cases c.toNat with ⟨hself, -⟩ | ⟨r, hr, hhas, hlower⟩
      · rwa [hself, Char.ofNat_toNat]
      · rw [hlower]
        exact not_isBlank_of_has hr hhas

/-- Every character leaves something behind, and no blank unless it is one. -/
theorem exists_lowerFrom_cons (before : List Char) (c : Char) (cs : List Char) :
    ∃ front, front ≠ [] ∧ (isBlank c = false → ∀ d ∈ front, isBlank d = false) ∧
      lowerFrom before (c :: cs) = front ++ lowerFrom (c :: before) cs := by
  rw [lowerFrom]
  split
  · refine ⟨[lowerSigma before cs], List.cons_ne_nil _ _, fun _ => ?_, rfl⟩
    rw [List.forall_mem_singleton, lowerSigma]
    split <;> decide
  · exact ⟨lowerChar c, lowerChar_ne_nil c,
      fun hc d hd => not_isBlank_of_mem_lowerChar hc hd, rfl⟩

/-- A text that does not end in a blank does not end in one in lower case. -/
theorem getLast?_lowerFrom (before : List Char) {cs : List Char}
    (h : ∀ c ∈ cs.getLast?, isBlank c = false) :
    ∀ d ∈ (lowerFrom before cs).getLast?, isBlank d = false := by
  induction cs generalizing before with
  | nil => exact (bare_nil isBlank).2
  | cons c cs ih =>
    obtain ⟨front, -, hfront, heq⟩ := exists_lowerFrom_cons before c cs
    rw [heq]
    -- The last character is the first one only when there are no others.
    by_cases hcs : cs = []
    · subst hcs
      rw [lowerFrom, List.append_nil]
      exact (bare_of_forall (hfront (h c rfl))).2
    · rw [List.getLast?_append_of_ne_nil _ (lowerFrom_ne_nil _ hcs)]
      refine ih _ fun d hd => h d ?_
      rwa [List.getLast?_cons_of_ne_nil hcs]

/-- **Lower-casing leaves the ends of a text free of blanks.** -/
theorem bare_lower {cs : List Char} (h : Bare isBlank cs) : Bare isBlank (lower cs) := by
  refine ⟨?_, getLast?_lowerFrom [] h.2⟩
  cases cs with
  | nil => exact (bare_nil isBlank).1
  | cons c cs =>
    obtain ⟨front, hne, hfront, heq⟩ := exists_lowerFrom_cons [] c cs
    rw [lower, heq, List.head?_append_of_ne_nil _ hne]
    exact (bare_of_forall (hfront (h.1 c rfl))).1

/-! ### Case folding -/

/-- Where simple case folding is not lower-casing: the folding lies `shift` code points further on.
    Small letters that are variants of others fold to these, the small letters of Cherokee to its
    capitals, and the capital I with a dot to itself. -/
def foldRuns : List CapitalRun :=
  [⟨0xb5, 0xb5, 1, 775⟩, ⟨0x130, 0x130, 1, 0⟩, ⟨0x17f, 0x17f, 1, -268⟩, ⟨0x345, 0x345, 1, 116⟩,
   ⟨0x3c2, 0x3c2, 1, 1⟩, ⟨0x3d0, 0x3d0, 1, -30⟩, ⟨0x3d1, 0x3d1, 1, -25⟩, ⟨0x3d5, 0x3d5, 1, -15⟩,
   ⟨0x3d6, 0x3d6, 1, -22⟩, ⟨0x3f0, 0x3f0, 1, -54⟩, ⟨0x3f1, 0x3f1, 1, -48⟩, ⟨0x3f5, 0x3f5, 1, -64⟩,
   ⟨0x13a0, 0x13f5, 1, 0⟩, ⟨0x13f8, 0x13fd, 1, -8⟩, ⟨0x1c80, 0x1c80, 1, -6222⟩,
   ⟨0x1c81, 0x1c81, 1, -6221⟩, ⟨0x1c82, 0x1c82, 1, -6212⟩, ⟨0x1c83, 0x1c84, 1, -6210⟩,
   ⟨0x1c85, 0x1c85, 1, -6211⟩, ⟨0x1c86, 0x1c86, 1, -6204⟩, ⟨0x1c87, 0x1c87, 1, -6180⟩,
   ⟨0x1c88, 0x1c88, 1, 35267⟩, ⟨0x1e9b, 0x1e9b, 1, -58⟩, ⟨0x1fbe, 0x1fbe, 1, -7173⟩,
   ⟨0x1fd3, 0x1fd3, 1, -7235⟩, ⟨0x1fe3, 0x1fe3, 1, -7219⟩, ⟨0xab70, 0xabbf, 1, -38864⟩,
   ⟨0xfb05, 0xfb05, 1, 1⟩]

/-- The code point to which simple case folding takes a code point. -/
def foldCodePoint (n : Nat) : Nat :=
  match foldRuns.find? (·.has n) with
  | some r => (n + r.shift).toNat
  | none => lowerCodePoint n

/-- Simple case folding of a character. -/
def foldChar (c : Char) : Char :=
  if c.toNat < 0x80 then c.toLower else Char.ofNat (foldCodePoint c.toNat)

/-- Of the characters beyond ASCII, two fold to a character of ASCII. -/
theorem foldCodePoint_of_beyond (h : 0x80 ≤ n) :
    0x80 ≤ foldCodePoint n ∧ n ≠ 0x17f ∧ n ≠ 0x212a ∨
      (n = 0x17f ∧ foldCodePoint n = 0x73) ∨ (n = 0x212a ∧ foldCodePoint n = 0x6b) := by
  -- The long s and the Kelvin sign are the two.
  by_cases hs : n = 0x17f
  · subst hs
    exact .inr (.inl ⟨rfl, by decide +kernel⟩)
  by_cases hk : n = 0x212a
  · subst hk
    exact .inr (.inr ⟨rfl, by decide +kernel⟩)
  refine .inl ⟨?_, hs, hk⟩
  rw [foldCodePoint]
  cases hfind : foldRuns.find? (·.has n) with
  | some r =>
    have hall : ∀ r ∈ foldRuns, 0x80 ≤ r.lo + r.shift ∨ r.lo = 0x17f ∧ r.hi = 0x17f := by decide
    have hhas : r.has n = true := by simpa using List.find?_some hfind
    obtain ⟨⟨hlo, hhi⟩, -⟩ := CapitalRun.has_iff.mp hhas
    have hr := hall r (List.mem_of_find?_eq_some hfind)
    show 0x80 ≤ (n + r.shift).toNat
    omega
  | none =>
    show 0x80 ≤ lowerCodePoint n
    rcases lowerCodePoint_cases n with ⟨hself, -⟩ | ⟨r, hr, hhas, hlower⟩
    · rwa [hself]
    · obtain ⟨⟨hlo, hhi⟩, -⟩ := CapitalRun.has_iff.mp hhas
      rcases (CapitalRun.lands_of_mem hr).ascii with hbeyond | hkelvin
      · rw [hlower]
        omega
      · rw [hkelvin] at hlo hhi
        exact absurd (Nat.le_antisymm hhi hlo) hk

/-- The letters that a pattern takes for one another. -/
theorem sameLetter_iff {letter : Char} :
    Pattern.sameLetter letter c = true ↔
      c.toLower = letter ∨ (letter = 's' ∧ c = '\u017f') ∨ (letter = 'k' ∧ c = '\u212a') := by
  simp only [Pattern.sameLetter, Bool.or_eq_true, Bool.and_eq_true, beq_iff_eq, or_assoc]

/-- **The characters that fold to a small letter** are the ones that differ from it at most in
    case. -/
theorem foldChar_eq_iff {letter : Char} (h : 97 ≤ letter.toNat ∧ letter.toNat ≤ 122) :
    foldChar c = letter ↔ Pattern.sameLetter letter c = true := by
  rw [sameLetter_iff, foldChar]
  split
  · next hascii =>
    have hs : c ≠ '\u017f' := by
      rintro rfl
      exact absurd hascii (by decide)
    have hk : c ≠ '\u212a' := by
      rintro rfl
      exact absurd hascii (by decide)
    simp only [hs, hk, and_false, or_false]
  · next hascii =>
    have hself : c.toLower = c := (toLower_cases c).resolve_left (by omega)
    have hne : c ≠ letter := by
      rintro rfl
      omega
    rw [hself]
    rcases foldCodePoint_of_beyond (Nat.le_of_not_lt hascii) with ⟨hbeyond, hs, hk⟩ | hs | hk
    · -- Neither side holds: the folding is no character of ASCII, or no character at all.
      have hfold : Char.ofNat (foldCodePoint c.toNat) ≠ letter := by
        rintro rfl
        by_cases hvalid : (foldCodePoint c.toNat).isValidChar
        · rw [toNat_ofNat_of_valid hvalid] at h
          omega
        · rw [Char.ofNat, dif_neg hvalid] at h
          exact absurd h.1 (by decide)
      have hs' : c ≠ '\u017f' := fun heq => hs (congrArg Char.toNat heq)
      have hk' : c ≠ '\u212a' := fun heq => hk (congrArg Char.toNat heq)
      simp only [hfold, hne, hs', hk', and_false, or_false]
    · obtain ⟨hc, hfold⟩ := hs
      obtain rfl : c = '\u017f' := by rw [← Char.ofNat_toNat c, hc]
      have hk' : ('\u017f' : Char) ≠ '\u212a' := by decide
      simp only [hfold, hne, hk', and_false, and_true, or_false, false_or]
      exact eq_comm
    · obtain ⟨hc, hfold⟩ := hk
      obtain rfl : c = '\u212a' := by rw [← Char.ofNat_toNat c, hc]
      have hs' : ('\u212a' : Char) ≠ '\u017f' := by decide
      simp only [hfold, hne, hs', and_false, and_true, false_or]
      exact eq_comm

end TaintReview.Text
