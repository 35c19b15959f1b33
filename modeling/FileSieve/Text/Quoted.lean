import FileSieve.Text.Printable

/-!
# Quoted text

A text is shown between quotes with everything invisible escaped. Single quotes are the rule;
a text that holds a single quote and no double quote is put between double quotes.

* `quoteFor_eq_double_iff`: when double quotes are taken.
* `quoted_plain`: a plain text stands between single quotes as it is.
-/

namespace FileSieve.Text

/-- The code point in hexadecimal with at least the given number of digits. -/
def paddedHex (width code : Nat) : List Char :=
  let digits := Nat.toDigits 16 code
  List.replicate (width - digits.length) '0' ++ digits

/-- One character between quotes of the given kind. -/
def quotedChar (quote c : Char) : List Char :=
  if c == quote || c == '\\' then ['\\', c]
  else if c == '\n' then ['\\', 'n']
  else if c == '\r' then ['\\', 'r']
  else if c == '\t' then ['\\', 't']
  else if isPrintable c then [c]
  else if c.toNat < 0x100 then '\\' :: 'x' :: paddedHex 2 c.toNat
  else if c.toNat < 0x10000 then '\\' :: 'u' :: paddedHex 4 c.toNat
  else '\\' :: 'U' :: paddedHex 8 c.toNat

/-- The quotes a text is put between. -/
def quoteFor (s : List Char) : Char :=
  if s.contains '\'' && !s.contains '"' then '"' else '\''

/-- The text between quotes. -/
def quoted (s : List Char) : List Char :=
  let quote := quoteFor s
  quote :: s.flatMap (quotedChar quote) ++ [quote]

theorem quoteFor_eq_double_iff {s : List Char} :
    quoteFor s = '"' ↔ '\'' ∈ s ∧ '"' ∉ s := by
  unfold quoteFor
  split <;> rename_i h <;> simpa using h

theorem quoted_plain {s : List Char}
    (h : ∀ c ∈ s, isPrintable c = true ∧ c ≠ '\'' ∧ c ≠ '\\') :
    quoted s = '\'' :: s ++ ['\''] := by
  have hq : quoteFor s = '\'' := by
    have : '\'' ∉ s := fun hm => (h _ hm).2.1 rfl
    simp [quoteFor, this]
  have hflat : s.flatMap (quotedChar '\'') = s := by
    clear hq
    induction s with
    | nil => rfl
    | cons c rest ih =>
      obtain ⟨hp, h1, h2⟩ := h c List.mem_cons_self
      have hn : c ≠ '\n' := by rintro rfl; revert hp; decide
      have hr : c ≠ '\r' := by rintro rfl; revert hp; decide
      have ht : c ≠ '\t' := by rintro rfl; revert hp; decide
      have hc : quotedChar '\'' c = [c] := by simp [quotedChar, h1, h2, hn, hr, ht, hp]
      rw [List.flatMap_cons, hc, ih fun d hd => h d (List.mem_cons_of_mem _ hd)]
      rfl
  simp [quoted, hq, hflat]

end FileSieve.Text
