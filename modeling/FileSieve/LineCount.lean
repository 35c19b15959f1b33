/-!
# Counting lines

The lines of a file's contents: every line feed ends a line, and what follows the last one is a
line too unless it is empty.

* `lineCount_append_newline`: a line feed ends the line that is open, or is a line of its own.
* `lineCount_eq_zero_iff`: only empty contents have no lines.
-/

namespace FileSieve

/-- The byte that ends a line. -/
def newline : UInt8 := 10

/-- The number of lines; `isOpen` says whether a line has been started. -/
def countLines (isOpen : Bool) : List UInt8 → Nat
  | [] => if isOpen then 1 else 0
  | b :: rest => if b = newline then countLines false rest + 1 else countLines true rest

/-- The number of lines of some contents. -/
def lineCount (contents : List UInt8) : Nat := countLines false contents

theorem countLines_append_newline {isOpen : Bool} {contents rest : List UInt8} :
    countLines isOpen (contents ++ newline :: rest) =
      countLines isOpen (contents ++ [newline]) + countLines false rest := by
  induction contents generalizing isOpen with
  | nil => simp only [List.nil_append, countLines]; simp; omega
  | cons b contents ih =>
    by_cases hb : b = newline
    · simp only [List.cons_append, countLines, hb, if_true, ih]; omega
    · simp only [List.cons_append, countLines, hb, if_false, ih]

theorem lineCount_append_newline {contents rest : List UInt8} :
    lineCount (contents ++ newline :: rest) =
      lineCount (contents ++ [newline]) + lineCount rest :=
  countLines_append_newline

theorem countLines_pos {contents : List UInt8} : 0 < countLines true contents := by
  induction contents with
  | nil => simp [countLines]
  | cons b rest ih => by_cases hb : b = newline <;> simp [countLines, hb, ih]

theorem lineCount_eq_zero_iff {contents : List UInt8} : lineCount contents = 0 ↔ contents = [] := by
  cases contents with
  | nil => simp [lineCount, countLines]
  | cons b rest =>
    have := @countLines_pos rest
    by_cases hb : b = newline
    · simp [lineCount, countLines, hb]
    · simp only [lineCount, countLines, hb, if_false, reduceCtorEq, iff_false]
      omega

end FileSieve
