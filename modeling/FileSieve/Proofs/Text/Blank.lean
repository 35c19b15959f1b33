import FileSieve.Text.Blank
import Mathlib.Data.List.DropRight

/-!
# Blanks at the ends of a text

A text is what is left of it without the blanks at its two ends, with blanks on both sides.

* `exists_trimBlanks`: only blanks are taken away.
* `isTrimmed_trimBlanks`: what is left has no blank at an end.
* `trimBlanks_padded`: blanks around a text without any at its ends are taken away.

The first and the last hold of characters of any class (`exists_trim`, `trim_padded`), and so of the
blanks that may surround a number.
-/

namespace FileSieve.Text

variable {s text before after : List Char}

/-- The text has nothing but blanks. -/
def IsBlankText (s : List Char) : Prop := ∀ c ∈ s, isBlank c = true

instance (s : List Char) : Decidable (IsBlankText s) :=
  List.decidableBAll (fun c => isBlank c = true) s

/-- The text has no blank at an end. -/
structure IsTrimmed (s : List Char) : Prop where
  head : ∀ c, s.head? = some c → isBlank c = false
  last : ∀ c, s.getLast? = some c → isBlank c = false

theorem dropWhile_append_of_head {p : Char → Bool} {xs ys : List Char}
    (hxs : ∀ c ∈ xs, p c = true) (hys : ∀ c, ys.head? = some c → p c = false) :
    (xs ++ ys).dropWhile p = ys := by
  rw [List.dropWhile_append_of_pos hxs]
  cases ys with
  | nil => rfl
  | cons c rest => exact List.dropWhile_cons_of_neg (by simp [hys c rfl])

theorem takeWhile_append_of_head {p : Char → Bool} {xs ys : List Char}
    (hxs : ∀ c ∈ xs, p c = true) (hys : ∀ c, ys.head? = some c → p c = false) :
    (xs ++ ys).takeWhile p = xs := by
  rw [List.takeWhile_append_of_pos hxs]
  cases ys with
  | nil => simp
  | cons c rest => rw [List.takeWhile_cons_of_neg (by simp [hys c rfl]), List.append_nil]

theorem trimBlanks_eq (s : List Char) :
    trimBlanks s = (s.dropWhile isBlank).rdropWhile isBlank := rfl

theorem isTrimmed_trimBlanks (s : List Char) : IsTrimmed (trimBlanks s) := by
  rw [trimBlanks_eq]
  constructor
  · intro c hc
    obtain ⟨rest, hrest⟩ := List.rdropWhile_prefix isBlank (s.dropWhile isBlank)
    have hhead : (s.dropWhile isBlank).head? = some c := by
      rw [← hrest, List.head?_append, hc]
      rfl
    have hnot := List.head?_dropWhile_not isBlank s
    rw [hhead] at hnot
    simpa using hnot
  · intro c hc
    have hne : (s.dropWhile isBlank).rdropWhile isBlank ≠ [] := by
      rintro hnil
      rw [hnil] at hc
      cases hc
    rw [List.getLast?_eq_some_getLast hne] at hc
    cases hc
    simpa using List.rdropWhile_last_not isBlank (s.dropWhile isBlank) hne

/-! ### Taking characters away -/

section

variable {p : Char → Bool}

/-- Only characters of the class are taken away. -/
theorem exists_trim (p : Char → Bool) (s : List Char) : ∃ before after, (∀ c ∈ before, p c = true) ∧
    (∀ c ∈ after, p c = true) ∧ s = before ++ (s.dropWhile p).rdropWhile p ++ after := by
  refine ⟨s.takeWhile p, (s.dropWhile p).rtakeWhile p, fun c hc => List.mem_takeWhile_imp hc,
    fun c hc => List.mem_rtakeWhile_imp hc, ?_⟩
  rw [List.append_assoc, List.rdropWhile_append_rtakeWhile, List.takeWhile_append_dropWhile]

/-- Characters of the class around a text without any at its ends are taken away. -/
theorem trim_padded (hbefore : ∀ c ∈ before, p c = true) (hafter : ∀ c ∈ after, p c = true)
    (hhead : ∀ c, text.head? = some c → p c = false)
    (hlast : ∀ c, text.getLast? = some c → p c = false) :
    ((before ++ text ++ after).dropWhile p).rdropWhile p = text := by
  rw [List.append_assoc, List.dropWhile_append_of_pos hbefore]
  cases text with
  | nil => rw [List.nil_append, List.dropWhile_eq_nil_iff.2 hafter, List.rdropWhile_nil]
  | cons c rest =>
    rw [List.cons_append, List.dropWhile_cons_of_neg (by simp [hhead c rfl]), ← List.cons_append,
      List.rdropWhile, List.reverse_append,
      dropWhile_append_of_head (fun d hd => hafter d (List.mem_reverse.1 hd)), List.reverse_reverse]
    intro d hd
    exact hlast d (by rwa [List.head?_reverse] at hd)

end

/-- Only blanks are taken away. -/
theorem exists_trimBlanks (s : List Char) : ∃ before after, IsBlankText before ∧
    IsBlankText after ∧ s = before ++ trimBlanks s ++ after :=
  exists_trim isBlank s

/-- Blanks around a text without any at its ends are taken away. -/
theorem trimBlanks_padded (hbefore : IsBlankText before) (hafter : IsBlankText after)
    (h : IsTrimmed text) : trimBlanks (before ++ text ++ after) = text :=
  trim_padded hbefore hafter h.head h.last

end FileSieve.Text
