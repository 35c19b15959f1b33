import FileSieve.VirtualTag.TimeWindow

/-!
# Conditions on sizes and counts

A size is empty, in a named category, or compared with a number of bytes; a count is compared with
a number. Ranges hold both their ends.

* `SizeCategory.ofWord?_word`: a category is found by its word.
-/

namespace FileSieve

open Text

/-! ### Size categories -/

/-- A named class of sizes. -/
inductive SizeCategory where
  | tiny
  | small
  | medium
  | large
  | huge
  deriving DecidableEq, Repr

namespace SizeCategory

/-- All categories, from the smallest to the largest. -/
def all : List SizeCategory := [.tiny, .small, .medium, .large, .huge]

/-- The word for a category. -/
def word : SizeCategory → String
  | .tiny => "tiny"
  | .small => "small"
  | .medium => "medium"
  | .large => "large"
  | .huge => "huge"

/-- The category with a word. -/
def ofWord? (s : List Char) : Option SizeCategory :=
  all.find? fun category => category.word.toList = s

/-- The category below. -/
def below? : SizeCategory → Option SizeCategory
  | .tiny => none
  | .small => some .tiny
  | .medium => some .small
  | .large => some .medium
  | .huge => some .large

theorem ofWord?_word (category : SizeCategory) : ofWord? category.word.toList = some category := by
  cases category <;> decide

end SizeCategory

/-! ### Counts -/

/-- A condition on a count. -/
inductive CountTest where
  | equals (count : Int)
  | above (count : Int)
  | below (count : Int)
  | range (least most : Int)
  deriving DecidableEq, Repr

namespace CountTest

/-- Does a count satisfy the condition? -/
def holds (n : Int) : CountTest → Bool
  | .equals count => n = count
  | .above count => count < n
  | .below count => n < count
  | .range least most => least ≤ n && n ≤ most

/-- The text of a condition on a count. -/
def text : CountTest → Except TextFault (List Char)
  | .equals count => numeralText count
  | .above count => do return '>' :: (← numeralText count)
  | .below count => do return '<' :: (← numeralText count)
  | .range least most => do return (← numeralText least) ++ '-' :: (← numeralText most)

end CountTest

/-! ### Sizes -/

/-- A condition on a size. -/
inductive SizeTest where
  /-- Nothing at all. -/
  | empty
  /-- In a named category. -/
  | category (category : SizeCategory)
  /-- A condition on the number of bytes. -/
  | bytes (test : CountTest)
  deriving DecidableEq, Repr

/-- The text of a condition on a size. A single number of bytes has a sign in front. -/
def SizeTest.text : SizeTest → Except TextFault (List Char)
  | .empty => .ok "empty".toList
  | .category c => .ok c.word.toList
  | .bytes (.equals n) => do return '=' :: (← numeralText n)
  | .bytes test => test.text

end FileSieve
