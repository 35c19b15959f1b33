/-!
# Cutting a text at a separator

* `joinWith_splitAtEach`: joining the pieces with the separator gives the text back.
* `splitAtEach_joinWith`: pieces without the separator are found again when they were joined.
* `not_mem_of_mem_splitAtEach`: no piece holds the separator.
* `exists_mem_splitAtEach_iff`: every other character is in a piece.
* `splitAtEach_ne_nil`: there is always at least one piece.
-/

namespace FileSieve.Text

variable {sep : Char} {s : List Char}

/-- The pieces of a text between the occurrences of a separator. -/
def splitAtEach (sep : Char) : List Char → List (List Char)
  | [] => [[]]
  | c :: rest =>
    if c = sep then [] :: splitAtEach sep rest
    else
      match splitAtEach sep rest with
      | [] => [[c]]
      | piece :: pieces => (c :: piece) :: pieces

/-- The pieces with the separator between them. -/
def joinWith (sep : List Char) : List (List Char) → List Char
  | [] => []
  | [piece] => piece
  | piece :: pieces => piece ++ sep ++ joinWith sep pieces

theorem splitAtEach_ne_nil : splitAtEach sep s ≠ [] := by
  cases s with
  | nil => simp [splitAtEach]
  | cons c rest =>
    by_cases h : c = sep
    · simp [splitAtEach, h]
    · simp only [splitAtEach, h, if_false]
      split <;> simp

theorem joinWith_cons {sep piece : List Char} {pieces : List (List Char)} (h : pieces ≠ []) :
    joinWith sep (piece :: pieces) = piece ++ sep ++ joinWith sep pieces := by
  cases pieces with
  | nil => exact absurd rfl h
  | cons => rfl

theorem joinWith_splitAtEach (sep : Char) (s : List Char) :
    joinWith [sep] (splitAtEach sep s) = s := by
  induction s with
  | nil => rfl
  | cons c rest ih =>
    by_cases h : c = sep
    · simp [splitAtEach, h, joinWith_cons splitAtEach_ne_nil, ih]
    · have hne : splitAtEach sep rest ≠ [] := splitAtEach_ne_nil
      simp only [splitAtEach, h, if_false]
      cases hs : splitAtEach sep rest with
      | nil => exact absurd hs hne
      | cons piece pieces =>
        rw [hs] at ih
        cases pieces with
        | nil => simpa [joinWith] using ih
        | cons => simpa [joinWith] using ih

theorem not_mem_of_mem_splitAtEach {piece : List Char} (h : piece ∈ splitAtEach sep s) :
    sep ∉ piece := by
  induction s generalizing piece with
  | nil => simp_all [splitAtEach]
  | cons c rest ih =>
    by_cases hc : c = sep
    · simp only [splitAtEach, hc, if_true, List.mem_cons] at h
      rcases h with rfl | h
      · simp
      · exact ih h
    · simp only [splitAtEach, hc, if_false] at h
      cases hs : splitAtEach sep rest with
      | nil => exact absurd hs splitAtEach_ne_nil
      | cons first pieces =>
        rw [hs] at h ih
        simp only [List.mem_cons] at h
        rcases h with rfl | h
        · simp only [List.mem_cons, not_or]
          exact ⟨fun e => hc e.symm, ih List.mem_cons_self⟩
        · exact ih (List.mem_cons_of_mem _ h)

theorem mem_joinWith_iff {c : Char} (hc : c ≠ sep) (pieces : List (List Char)) :
    c ∈ joinWith [sep] pieces ↔ ∃ piece ∈ pieces, c ∈ piece := by
  induction pieces with
  | nil => simp [joinWith]
  | cons piece pieces ih =>
    cases pieces with
    | nil => simp [joinWith]
    | cons next pieces =>
      rw [joinWith_cons (by simp)]
      simp [hc, ih]

theorem exists_mem_splitAtEach_iff {c : Char} (hc : c ≠ sep) :
    (∃ piece ∈ splitAtEach sep s, c ∈ piece) ↔ c ∈ s := by
  rw [← mem_joinWith_iff hc, joinWith_splitAtEach]

theorem splitAtEach_append_cons {piece rest : List Char} (h : sep ∉ piece) :
    splitAtEach sep (piece ++ sep :: rest) = piece :: splitAtEach sep rest := by
  induction piece with
  | nil => simp [splitAtEach]
  | cons c piece ih =>
    simp only [List.mem_cons, not_or] at h
    simp [splitAtEach, Ne.symm h.1, ih h.2]

theorem splitAtEach_of_not_mem (h : sep ∉ s) : splitAtEach sep s = [s] := by
  induction s with
  | nil => rfl
  | cons c s ih =>
    simp only [List.mem_cons, not_or] at h
    simp [splitAtEach, Ne.symm h.1, ih h.2]

theorem splitAtEach_joinWith {pieces : List (List Char)} (hne : pieces ≠ [])
    (h : ∀ piece ∈ pieces, sep ∉ piece) : splitAtEach sep (joinWith [sep] pieces) = pieces := by
  induction pieces with
  | nil => exact absurd rfl hne
  | cons piece pieces ih =>
    have hpiece := h piece List.mem_cons_self
    cases pieces with
    | nil => simpa [joinWith] using splitAtEach_of_not_mem hpiece
    | cons next pieces =>
      rw [joinWith_cons (by simp), List.append_assoc, List.singleton_append,
        splitAtEach_append_cons hpiece, ih (by simp) fun p hp => h p (List.mem_cons_of_mem _ hp)]

/-- Does the text begin with the given one? Then what follows it. -/
def dropStart? : List Char → List Char → Option (List Char)
  | [], s => some s
  | _ :: _, [] => none
  | p :: start, c :: rest => if p = c then dropStart? start rest else none

theorem dropStart?_eq_some_iff {start s rest : List Char} :
    dropStart? start s = some rest ↔ s = start ++ rest := by
  induction start generalizing s with
  | nil => simp [dropStart?, eq_comm]
  | cons p start ih =>
    cases s with
    | nil => simp [dropStart?]
    | cons c s =>
      by_cases h : p = c
      · simp [dropStart?, h, ih]
      · simp [dropStart?, h, Ne.symm h]

theorem dropStart?_append {start rest : List Char} :
    dropStart? start (start ++ rest) = some rest :=
  dropStart?_eq_some_iff.2 rfl

/-- Does the text end with the given one? -/
def endsWith (ending s : List Char) : Bool :=
  ending.isSuffixOf s

end FileSieve.Text
