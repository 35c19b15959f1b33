import FileSieve.Text.LetterCase

/-!
# Small letters of ASCII

The lower case of an ASCII text is the familiar one. The other way round, a text whose lower case
consists of small ASCII letters is an ASCII text, but for one letter: the Kelvin sign, whose lower
case is an ordinary `k`.

* `lowerText_eq_map_toLower`: the lower case of an ASCII text.
* `eq_kelvinSign_or_isLower`: texts whose lower case consists of small ASCII letters.
-/

namespace FileSieve.Text

variable {s : List Char}

/-- The Kelvin sign, a capital `k`. -/
def kelvinSign : Char := '\u212a'

/-- Beside the ASCII letters, two code points have ASCII letters for their lower case: the dotted
capital I and the Kelvin sign. -/
theorem lt_of_lowerCode_lt {code : Nat} (h : lowerCode code < 128) :
    code < 128 ∨ code = 304 ∨ code = 8490 := by
  have hruns : ∀ run ∈ caseRuns, 128 ≤ run.last →
      128 ≤ (run.first : Int) + run.shift ∨ run.first = run.last ∧
        (run.first = 304 ∨ run.first = 8490) := by
    decide +kernel
  unfold lowerCode at h
  split at h
  · left
    assumption
  · split at h
    · rename_i hcode run hrun
      have hcontains := List.find?_some hrun
      simp only [CaseRun.contains, Bool.and_eq_true, decide_eq_true_eq] at hcontains
      have := hruns run (List.mem_of_find?_eq_some hrun) (by omega)
      omega
    · left
      exact h

theorem toNat_le_of_isLower {c : Char} (h : c.isLower = true) : c.toNat ≤ 122 :=
  of_decide_eq_true (Bool.and_eq_true_iff.1 h).2

theorem lt_of_isLower_ofNat {code : Nat} (h : (Char.ofNat code).isLower = true) : code < 128 := by
  by_cases hvalid : code.isValidChar
  · have hcode : (Char.ofNat code).toNat = code := by
      rw [Char.ofNat, dif_pos hvalid]
      rfl
    have hlast := toNat_le_of_isLower h
    omega
  · -- what is no code point stands for the first one
    rw [Char.ofNat, dif_neg hvalid] at h
    cases h

theorem toLower_eq {c : Char} (h : c.toNat < 128) : Char.ofNat (lowerCode c.toNat) = c.toLower := by
  have hall : ∀ code < 128, Char.ofNat (lowerCode code) = (Char.ofNat code).toLower := by decide
  have hc := hall c.toNat h
  rwa [Char.ofNat_toNat] at hc

/-- The lower case of an ASCII text. -/
theorem lowerText_eq_map_toLower (h : ∀ c ∈ s, c.toNat < 128) :
    lowerText s = s.map Char.toLower := by
  rw [lowerText_of_ascii h]
  exact List.map_congr_left fun c hc => toLower_eq (h c hc)

/-- The small letter of an ASCII character of the text is in its lower case. -/
theorem toLower_mem_lowerText {c : Char} (hc : c ∈ s) (h : c.toNat < 128) :
    c.toLower ∈ lowerText s := by
  suffices ∀ before, c.toLower ∈ lowerAfter before s from this []
  induction s with
  | nil => exact absurd hc List.not_mem_nil
  | cons first rest ih =>
    intro before
    rw [lowerAfter, List.mem_append]
    rcases List.mem_cons.1 hc with rfl | hc
    · left
      rw [lowerInContext_of_ascii h, toLower_eq h]
      exact List.mem_cons_self
    · exact .inr (ih hc _)

/-- A text whose lower case consists of small ASCII letters has but ASCII letters and Kelvin
signs. -/
theorem eq_kelvinSign_or_isLower (h : ∀ c ∈ lowerText s, c.isLower = true) :
    ∀ c ∈ s, c = kelvinSign ∨ c.toNat < 128 ∧ c.toLower.isLower = true := by
  suffices ∀ before, (∀ c ∈ lowerAfter before s, c.isLower = true) →
      ∀ c ∈ s, c = kelvinSign ∨ c.toNat < 128 ∧ c.toLower.isLower = true from this [] h
  clear h
  induction s with
  | nil =>
    intro before _ c hc
    cases hc
  | cons c rest ih =>
    intro before h
    simp only [lowerAfter, List.mem_append] at h
    refine List.forall_mem_cons.2 ⟨?_, ih _ fun d hd => h d (.inr hd)⟩
    have hc : ∀ d ∈ lowerInContext before c rest, d.isLower = true := fun d hd => h d (.inl hd)
    unfold lowerInContext at hc
    split at hc
    · -- neither sigma is an ASCII letter
      split at hc
      · cases hc 'ς' List.mem_cons_self
      · cases hc 'σ' List.mem_cons_self
    · split at hc
      · cases hc '\u0307' (List.mem_cons_of_mem _ List.mem_cons_self)
      · rename_i hdotted
        have hlower := hc _ List.mem_cons_self
        rcases lt_of_lowerCode_lt (lt_of_isLower_ofNat hlower) with hlt | hcode | hcode
        · exact .inr ⟨hlt, toLower_eq hlt ▸ hlower⟩
        · refine absurd ?_ hdotted
          rw [← Char.ofNat_toNat c, hcode]
          rfl
        · left
          rw [← Char.ofNat_toNat c, hcode]
          rfl

end FileSieve.Text
