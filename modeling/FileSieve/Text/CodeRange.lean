/-!
# Tables of code points

A character class of the Unicode standard is a list of closed code point ranges.

* `inRanges_iff`: membership means lying between the ends of one of the ranges.
-/

namespace FileSieve.Text

/-- Does the code point lie in one of the closed ranges? -/
def inRanges (table : List (Nat × Nat)) (code : Nat) : Bool :=
  table.any fun range => range.1 ≤ code && code ≤ range.2

theorem inRanges_iff {table : List (Nat × Nat)} {code : Nat} :
    inRanges table code = true ↔ ∃ range ∈ table, range.1 ≤ code ∧ code ≤ range.2 := by
  simp [inRanges]

end FileSieve.Text
