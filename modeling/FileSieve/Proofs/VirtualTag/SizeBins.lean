import FileSieve.Proofs.VirtualTag.Verdict

/-!
# Sizes in categories

The categories of sizes are bins one above the other: each starts where the one below it ends, and
the last one has no end. The ends are set one by one, so that a bin may turn out empty, or reach
over others. Still, no size falls between them.

* `Bins.exists_up_to`, `Bins.exists_beyond`: a size before the end of a bin lies in that bin or in
  one below, and a size from the end on in one above.
* `Bins.existsUnique_iff`: each size lies in one bin only, if the ends are in order.
* `checkSize_category_eq`: a size is found to be in a category if it lies in the bin.
* `categories_cover`: which settings divide the sizes into categories.
-/

namespace FileSieve

/-! ### Categories in order -/

namespace SizeCategory

/-- The place of the category in their order. -/
def rank : SizeCategory → Nat
  | .tiny => 0
  | .small => 1
  | .medium => 2
  | .large => 3
  | .huge => 4

variable {category below : SizeCategory}

theorem rank_of_below? (h : category.below? = some below) : category.rank = below.rank + 1 := by
  cases category <;> cases h <;> rfl

theorem exists_above (h : category ≠ .huge) :
    ∃ above : SizeCategory, above.below? = some category := by
  cases category with
  | tiny => exact ⟨.small, rfl⟩
  | small => exact ⟨.medium, rfl⟩
  | medium => exact ⟨.large, rfl⟩
  | large => exact ⟨.huge, rfl⟩
  | huge => exact absurd rfl h

theorem rank_le (category : SizeCategory) : category.rank ≤ huge.rank := by
  cases category <;> decide

theorem all_getElem?_rank (category : SizeCategory) : all[category.rank]? = some category := by
  cases category <;> rfl

theorem eq_of_rank_eq {other : SizeCategory} (h : category.rank = other.rank) :
    category = other := by
  have hsame := all_getElem?_rank category
  rw [h, all_getElem?_rank] at hsame
  exact (Option.some.inj hsame).symm

end SizeCategory

/-! ### Bins -/

/-- The sizes at which the bins of the categories end; that of the last one counts for nothing. -/
abbrev Bins := SizeCategory → Nat

namespace Bins

variable {ends : Bins} {size : Int} {category other : SizeCategory}

/-- The size at which a bin starts. -/
def start (ends : Bins) (category : SizeCategory) : Nat := category.below?.elim 0 ends

/-- Does a size lie in the bin of a category? -/
def Holds (ends : Bins) (size : Int) (category : SizeCategory) : Prop :=
  (ends.start category : Int) ≤ size ∧ (category ≠ .huge → size < ends category)

instance : Decidable (ends.Holds size category) :=
  inferInstanceAs (Decidable (_ ∧ (_ → _)))

/-- No bin ends before the one below it does. -/
structure IsOrdered (ends : Bins) : Prop where
  tiny_le : ends .tiny ≤ ends .small
  small_le : ends .small ≤ ends .medium
  medium_le : ends .medium ≤ ends .large

theorem start_of_below? (ends : Bins) (h : category.below? = some other) :
    ends.start category = ends other := by
  rw [start, h]
  rfl

/-- **A size before the end of a bin lies in that bin or in one below it.** -/
theorem exists_up_to (category : SizeCategory) (hsize : 0 ≤ size)
    (h : category ≠ .huge → size < ends category) :
    ∃ found, ends.Holds size found ∧ found.rank ≤ category.rank := by
  induction hrank : category.rank generalizing category with
  | zero =>
    have htiny : category = .tiny := SizeCategory.eq_of_rank_eq hrank
    subst htiny
    exact ⟨.tiny, ⟨hsize, h⟩, Nat.le_refl 0⟩
  | succ rank ih =>
    by_cases hstart : (ends.start category : Int) ≤ size
    · exact ⟨category, ⟨hstart, h⟩, Nat.le_of_eq hrank⟩
    · -- the bin starts where the one below it ends
      cases hbelow : category.below? with
      | none =>
        rw [start, hbelow] at hstart
        exact absurd hsize hstart
      | some below =>
        rw [start_of_below? ends hbelow] at hstart
        obtain ⟨found, hfound, hle⟩ := ih below (fun _ => Int.not_le.1 hstart)
          (Nat.succ_inj.1 ((SizeCategory.rank_of_below? hbelow).symm.trans hrank))
        exact ⟨found, hfound, Nat.le_succ_of_le hle⟩

/-- **A size from the end of a bin on lies in one above it.** -/
theorem exists_beyond (hlast : category ≠ .huge) (h : (ends category : Int) ≤ size) :
    ∃ found, ends.Holds size found ∧ category.rank < found.rank := by
  -- upwards: the induction is on how many categories are left above
  induction hleft : SizeCategory.huge.rank - category.rank generalizing category with
  | zero =>
    have hrank := Nat.le_antisymm category.rank_le (Nat.sub_eq_zero_iff_le.1 hleft)
    exact absurd (SizeCategory.eq_of_rank_eq hrank) hlast
  | succ left ih =>
    obtain ⟨above, habove⟩ := SizeCategory.exists_above hlast
    have hrank := SizeCategory.rank_of_below? habove
    rw [← start_of_below? ends habove] at h
    by_cases hend : above ≠ .huge → size < ends above
    · exact ⟨above, ⟨h, hend⟩, by omega⟩
    · obtain ⟨habovelast, hbeyond⟩ := Classical.not_imp.1 hend
      obtain ⟨found, hfound, hlt⟩ := ih habovelast (Int.not_lt.1 hbeyond) (by omega)
      exact ⟨found, hfound, by omega⟩

/-- No size falls between the bins. -/
theorem exists_holds (ends : Bins) (hsize : 0 ≤ size) : ∃ category, ends.Holds size category := by
  have hlast : SizeCategory.huge ≠ .huge → size < ends .huge := fun h => absurd rfl h
  obtain ⟨found, hfound, -⟩ := exists_up_to .huge hsize hlast
  exact ⟨found, hfound⟩

/-- When each size lies in one bin only, no bin ends before the one below it does. -/
theorem le_of_unique (hunique : ∀ size : Int, 0 ≤ size → ∃! category, ends.Holds size category)
    (category : SizeCategory) (h : category.below? = some other) (hlast : category ≠ .huge) :
    ends other ≤ ends category := by
  -- otherwise the size at which it ends lies above it, and also in a bin below
  by_contra hlt
  have hsize : (0 : Int) ≤ ends category := Int.natCast_nonneg _
  obtain ⟨low, hlow, hlowrank⟩ := exists_up_to other hsize
    (fun _ => Int.ofNat_lt.2 (Nat.not_le.1 hlt))
  obtain ⟨high, hhigh, hhighrank⟩ := exists_beyond hlast (Int.le_refl (ends category))
  have heq := (hunique _ hsize).unique hlow hhigh
  have hrank := SizeCategory.rank_of_below? h
  rw [heq] at hlowrank
  omega

/-- In order, the bin of a category ends before those of higher categories start. -/
theorem IsOrdered.le_start (h : ends.IsOrdered) (hrank : category.rank < other.rank) :
    ends category ≤ ends.start other := by
  have := h.tiny_le
  have := h.small_le
  have := h.medium_le
  cases category <;> cases other <;>
    simp only [SizeCategory.rank, start, SizeCategory.below?, Option.elim] at hrank ⊢ <;> omega

theorem IsOrdered.rank_le (h : ends.IsOrdered) (hcategory : ends.Holds size category)
    (hother : ends.Holds size other) : other.rank ≤ category.rank := by
  by_contra hlt
  have hstart := h.le_start (Nat.not_le.1 hlt)
  have hne : category ≠ .huge := by
    rintro rfl
    exact hlt other.rank_le
  have hend := hcategory.2 hne
  have hbegin := hother.1
  omega

/-- **Each size lies in one bin only, if and only if the ends are in order.** -/
theorem existsUnique_iff :
    (∀ size : Int, 0 ≤ size → ∃! category, ends.Holds size category) ↔ ends.IsOrdered := by
  constructor
  · intro hunique
    exact ⟨le_of_unique hunique .small rfl (by decide),
      le_of_unique hunique .medium rfl (by decide), le_of_unique hunique .large rfl (by decide)⟩
  · intro h size hsize
    obtain ⟨category, hcategory⟩ := exists_holds ends hsize
    refine ⟨category, hcategory, fun other hother => SizeCategory.eq_of_rank_eq ?_⟩
    exact Nat.le_antisymm (h.rank_le hcategory hother) (h.rank_le hother hcategory)

end Bins

/-! ### Settings -/

namespace VirtualTag

variable {settings : TagSettings} {ends : Bins} {size : Int} {category : SizeCategory}

/-- The bins end at the thresholds of the settings. -/
def EndsAt (settings : TagSettings) (ends : Bins) : Prop :=
  ∀ category, category ≠ .huge → threshold settings category = .ok (ends category)

theorem exists_endsAt (h : Measures settings) : ∃ ends, EndsAt settings ends := by
  have hends (category : SizeCategory) :
      ∃ bytes, category ≠ .huge → threshold settings category = .ok bytes := by
    by_cases hlast : category = .huge
    · exact ⟨0, fun hne => absurd hlast hne⟩
    · obtain ⟨bytes, hbytes⟩ := exists_threshold h hlast
      exact ⟨bytes, fun _ => hbytes⟩
  choose ends hends using hends
  exact ⟨ends, hends⟩

/-- **A size is found to be in a category if it lies in the bin.** -/
theorem checkSize_category_eq (h : EndsAt settings ends) :
    checkSize settings size (.category category) = .ok (decide (ends.Holds size category)) := by
  have hupper : (do
      if size < ends.start category then return false
      else if category = .huge then return true
      else return size < (← threshold settings category)) =
        Except.ok (ε := EvalError) (decide (ends.Holds size category)) := by
    split_ifs with hsmall hlast
    · have hnot : ¬ ends.Holds size category := fun hholds => Int.not_lt.2 hholds.1 hsmall
      rw [decide_eq_false hnot]
      rfl
    · have hholds : ends.Holds size category :=
        ⟨Int.not_lt.1 hsmall, fun hne => absurd hlast hne⟩
      rw [decide_eq_true hholds]
      rfl
    · have hiff : size < ends category ↔ ends.Holds size category :=
        ⟨fun hlt => ⟨Int.not_lt.1 hsmall, fun _ => hlt⟩, fun hholds => hholds.2 hlast⟩
      rw [h category hlast]
      exact congrArg Except.ok (decide_eq_decide.2 hiff)
  change isInCategory settings size category = _
  unfold isInCategory
  unfold Bins.start at hupper
  cases hbelow : category.below? with
  | none =>
    rw [hbelow] at hupper
    exact hupper
  | some below =>
    rw [hbelow] at hupper
    change (threshold settings below >>= _) = _
    rw [h below (ne_huge_of_below? hbelow)]
    exact hupper

theorem checkSize_category_iff (h : EndsAt settings ends) :
    checkSize settings size (.category category) = .ok true ↔ ends.Holds size category := by
  rw [checkSize_category_eq h, Except.ok.injEq, decide_eq_true_iff]

/-- **The categories cover all sizes, and divide them if the thresholds are in order.** As long as
no literal stands for a size that is too large to be worked out, all the categories can be asked
about any size, and one of them at least has it. Each size is in one category only if and only if
the thresholds ascend, those of literals that are no sizes being the ones used instead. -/
theorem categories_cover (hsettings : Measures settings) :
    ∃ tiny small medium large : Nat,
      threshold settings .tiny = .ok tiny ∧ threshold settings .small = .ok small ∧
      threshold settings .medium = .ok medium ∧ threshold settings .large = .ok large ∧
      (∀ size : Int, 0 ≤ size →
        (∀ category, ∃ found, checkSize settings size (.category category) = .ok found) ∧
        ∃ category, checkSize settings size (.category category) = .ok true) ∧
      ((∀ size : Int, 0 ≤ size →
          ∃! category, checkSize settings size (.category category) = .ok true) ↔
        tiny ≤ small ∧ small ≤ medium ∧ medium ≤ large) := by
  obtain ⟨ends, hends⟩ := exists_endsAt hsettings
  refine ⟨ends .tiny, ends .small, ends .medium, ends .large, hends .tiny (by decide),
    hends .small (by decide), hends .medium (by decide), hends .large (by decide),
    fun size hsize => ⟨fun category => ⟨_, checkSize_category_eq hends⟩, ?_⟩, ?_⟩
  · simp only [checkSize_category_iff hends]
    exact Bins.exists_holds ends hsize
  · simp only [checkSize_category_iff hends]
    rw [Bins.existsUnique_iff]
    exact ⟨fun h => ⟨h.tiny_le, h.small_le, h.medium_le⟩, fun h => ⟨h.1, h.2.1, h.2.2⟩⟩

/-- With a literal for small sizes that is none, 102400 bytes are used, which lies in order. -/
theorem categories_cover_plenty :
    let settings : TagSettings := { TagSettings.default with
      sizes := ⟨"100KB".toList, "plenty".toList, "1.5 MiB".toList, "10MB".toList, "1e9".toList⟩ }
    Measures settings ∧ threshold settings .small = .ok 102400 ∧
      ∀ size : Int, 0 ≤ size →
        ∃! category, checkSize settings size (.category category) = .ok true := by
  intro settings
  have hsettings : Measures settings := by
    intro category
    refine ByteSize.exists_bytes?_iff.1 ?_
    cases category with
    | tiny => exact ⟨some 100000, by decide +kernel⟩
    | small => exact ⟨none, by decide +kernel⟩
    | medium => exact ⟨some 1572864, by decide +kernel⟩
    | large => exact ⟨some 10000000, by decide +kernel⟩
    | huge => exact ⟨none, by decide +kernel⟩
  have htiny : threshold settings .tiny = .ok 100000 := by decide +kernel
  have hsmall : threshold settings .small = .ok 102400 := by decide +kernel
  have hmedium : threshold settings .medium = .ok 1572864 := by decide +kernel
  have hlarge : threshold settings .large = .ok 10000000 := by decide +kernel
  obtain ⟨tiny, small, medium, large, h1, h2, h3, h4, -, hiff⟩ := categories_cover hsettings
  cases htiny.symm.trans h1
  cases hsmall.symm.trans h2
  cases hmedium.symm.trans h3
  cases hlarge.symm.trans h4
  exact ⟨hsettings, hsmall, hiff.2 (by decide)⟩

end VirtualTag

end FileSieve
