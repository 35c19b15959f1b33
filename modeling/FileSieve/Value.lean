import FileSieve.Number.Shortest
import FileSieve.Text.Numeral
import FileSieve.Text.Quoted
import FileSieve.Text.Split

/-!
# Values

The values that settings and log lines hold: null, truth values, numbers, texts, lists, tuples,
tables, and others such as dates, of which little is asked. A table keeps the order in which its
keys were first put.

* `Key.same_text`: text keys are the same when their texts are.
* `Table.find?_put_self`, `Table.find?_put_of_ne`: what is found after a key was put.
-/

namespace FileSieve

open Text

/-! ### Keys and values -/

/-- How a value is written. -/
structure Writing where
  /-- How it is shown, also inside other values. -/
  shown : List Char
  /-- Its text. -/
  plain : List Char
  deriving DecidableEq, Repr

/-- The kinds of values that have a form of their own. -/
def ownKinds : List String := ["NoneType", "bool", "int", "float", "str", "list", "tuple", "dict"]

/-- A value of any other kind, such as a date, a row of bytes or a set. Nothing is found in it by a
name, and nothing can be put into it under a name. -/
structure OtherValue where
  /-- What kind of value it is. -/
  kindName : String
  kindName_notMem : kindName ∉ ownKinds
  /-- Is it empty or zero? -/
  isVoid : Bool
  /-- How it is written, unless a numeral in it is too long. -/
  writing? : Option Writing
  /-- The texts among its parts, if it can be asked for a text. -/
  texts? : Option (List (List Char))
  deriving DecidableEq, Repr

/-- A key of a table. -/
inductive Key where
  | text (s : List Char)
  | null
  | bool (b : Bool)
  | int (n : Int)
  | float (x : Binary64)
  | other (x : OtherValue)
  deriving DecidableEq, Repr

/-- A value. -/
inductive Value where
  | null
  | bool (b : Bool)
  | int (n : Int)
  | float (x : Binary64)
  | text (s : List Char)
  | list (items : List Value)
  | tuple (items : List Value)
  | map (entries : List (Key × Value))
  | other (x : OtherValue)
  deriving BEq, Repr

/-- The entries of a table, in order. -/
abbrev Table := List (Key × Value)

namespace Key

/-- The value of a numeric key; truth values count as one and zero. -/
def number? : Key → Option Rat
  | .bool b => some (if b then 1 else 0)
  | .int n => some n
  | .float (.finite v) => some v
  | .float .negativeZero => some 0
  | _ => none

/-- Do two keys name the same entry? Numbers do when their values are equal. -/
def same : Key → Key → Bool
  | .text a, .text b => a = b
  | .null, .null => true
  | .float (.infinite s), .float (.infinite t) => s = t
  | .other a, .other b => a = b
  | a, b => a.number?.isSome && a.number? == b.number?

theorem same_text {a b : List Char} : same (.text a) (.text b) = decide (a = b) := rfl

end Key

/-! ### Tables -/

namespace Table

/-- The value at a key. -/
def find? (key : Key) : Table → Option Value
  | [] => none
  | (k, v) :: rest => if k.same key then some v else find? key rest

/-- The table with a value at a key: in the place of the former one, or at the end. -/
def put (key : Key) (value : Value) : Table → Table
  | [] => [(key, value)]
  | (k, v) :: rest => if k.same key then (k, value) :: rest else (k, v) :: put key value rest

variable {table : Table} {a b : List Char} {value : Value}

theorem find?_put_self : find? (.text a) (put (.text a) value table) = some value := by
  induction table with
  | nil => simp [put, find?, Key.same_text]
  | cons entry rest ih =>
    obtain ⟨k, v⟩ := entry
    by_cases h : k.same (.text a) = true
    · simp [put, find?, h]
    · simp [put, find?, h, ih]

theorem same_text_right {k : Key} : k.same (.text a) = decide (k = .text a) := by
  cases k with
  | text s => simp [Key.same_text]
  | null => simp [Key.same, Key.number?]
  | bool _ => simp [Key.same, Key.number?]
  | int _ => simp [Key.same, Key.number?]
  | float x => cases x <;> simp [Key.same, Key.number?]
  | other _ => simp [Key.same, Key.number?]

theorem find?_put_of_ne (h : a ≠ b) :
    find? (.text b) (put (.text a) value table) = find? (.text b) table := by
  induction table with
  | nil => simp [put, find?, Key.same_text, h]
  | cons entry rest ih =>
    obtain ⟨k, v⟩ := entry
    by_cases ha : k = .text a
    · subst ha
      simp [put, find?, Key.same_text, h]
    · by_cases hb : k = .text b
      · subst hb
        simp [put, find?, Key.same_text, Ne.symm h]
      · simp [put, find?, same_text_right, ha, hb, ih]

end Table

/-! ### Kinds -/

namespace Value

/-- What kind of value it is, as messages name it. -/
def kindName : Value → String
  | .null => "NoneType"
  | .bool _ => "bool"
  | .int _ => "int"
  | .float _ => "float"
  | .text _ => "str"
  | .list _ => "list"
  | .tuple _ => "tuple"
  | .map _ => "dict"
  | .other x => x.kindName

/-- Is the value null, false, zero or empty? -/
def isVoid : Value → Bool
  | .null => true
  | .bool b => !b
  | .int n => n = 0
  | .float x => x.same (.finite 0)
  | .text s => s.isEmpty
  | .list items | .tuple items => items.isEmpty
  | .map entries => entries.isEmpty
  | .other x => x.isVoid

end Value

/-! ### Text -/

/-- The text of a truth value. -/
def boolText (b : Bool) : List Char :=
  (if b then "True" else "False").toList

/-- The text of null. -/
def nullText : List Char := "None".toList

/-- How a key is shown, unless its numeral is too long. -/
def Key.shown? : Key → Option (List Char)
  | .text s => some (quoted s)
  | .null => some nullText
  | .bool b => some (boolText b)
  | .int n => signedNumeral? n
  | .float x => some x.text
  | .other x => x.writing?.map (·.shown)

/-- The text of a key, unless its numeral is too long. -/
def Key.plain? : Key → Option (List Char)
  | .text s => some s
  | .other x => x.writing?.map (·.plain)
  | k => k.shown?

/-- The text of a tuple whose items are shown in some way; a single item has a comma after it. -/
def tupleText : List (List Char) → List Char
  | [item] => '(' :: item ++ [',', ')']
  | items => '(' :: joinWith [',', ' '] items ++ [')']

namespace Value

mutual

/-- How a value is shown, unless a numeral in it is too long. -/
def shown? : Value → Option (List Char)
  | .null => some nullText
  | .bool b => some (boolText b)
  | .int n => signedNumeral? n
  | .float x => some x.text
  | .text s => some (quoted s)
  | .list items => do return '[' :: joinWith [',', ' '] (← shownItems? items) ++ [']']
  | .tuple items => do return tupleText (← shownItems? items)
  | .map entries => do
    return '\x7b' :: joinWith [',', ' '] (← shownEntries? entries) ++ ['\x7d']
  | .other x => x.writing?.map (·.shown)

/-- How the items of a list are shown. -/
def shownItems? : List Value → Option (List (List Char))
  | [] => some []
  | v :: rest => do return (← v.shown?) :: (← shownItems? rest)

/-- How the entries of a table are shown. -/
def shownEntries? : List (Key × Value) → Option (List (List Char))
  | [] => some []
  | (k, v) :: rest => do
    return ((← k.shown?) ++ ':' :: ' ' :: (← v.shown?)) :: (← shownEntries? rest)

end

/-- The text of a value, unless a numeral in it is too long. -/
def plain? : Value → Option (List Char)
  | .text s => some s
  | .other x => x.writing?.map (·.plain)
  | v => v.shown?

theorem plain?_int {n : Int} : (Value.int n).plain? = signedNumeral? n := by
  simp [plain?, shown?]

end Value

end FileSieve
