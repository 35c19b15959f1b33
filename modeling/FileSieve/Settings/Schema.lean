import FileSieve.Settings.Merge
import FileSieve.Text.Split

/-!
# Schemas

A schema says of which type the values under some names are to be. A name that has no value is
never wrong, and truth values count as whole numbers too.
-/

namespace FileSieve

open Text

/-- The types that a schema may ask for. -/
inductive TypeName where
  | bool
  | int
  | float
  | text
  | list
  | table
  /-- Another type: its word, its full name, and the kinds of values that are of it. -/
  | other (short full : String) (kinds : List String)
  deriving DecidableEq, Repr

namespace TypeName

/-- The word for a type. -/
def word : TypeName → String
  | .bool => "bool"
  | .int => "int"
  | .float => "float"
  | .text => "str"
  | .list => "list"
  | .table => "dict"
  | .other short _ _ => short

/-- The name of a type among several. -/
def fullWord : TypeName → String
  | .other _ full _ => full
  | type => type.word

/-- The type with a word. -/
def ofWord? (s : List Char) : Option TypeName :=
  [bool, int, float, text, list, table].find? fun type => type.word.toList = s

/-- Is a value of a type? -/
def holds : Value → TypeName → Bool
  | .bool _, .bool | .bool _, .int | .int _, .int | .float _, .float | .text _, .text
  | .list _, .list | .map _, .table => true
  | v, .other _ _ kinds => kinds.contains v.kindName
  | _, _ => false

end TypeName

/-- What values are to be like. -/
inductive Schema where
  /-- Of a type. -/
  | one (type : TypeName)
  /-- Of one of several types. -/
  | anyOf (types : List TypeName)
  /-- A table that has values under some names. -/
  | table (entries : List (List Char × Schema))

/-- A value that is not as the schema says. -/
structure SchemaMismatch where
  /-- What it is to be. -/
  expected : List Char
  /-- The names that lead to it, with dots between them. -/
  path : List Char
  /-- What kind of value it is. -/
  kindName : String
  deriving DecidableEq, Repr

/-- The message about a mismatch. -/
def SchemaMismatch.message (m : SchemaMismatch) : List Char :=
  "Expected ".toList ++ m.expected ++ " for ".toList ++ m.path ++ (", got " ++ m.kindName).toList

/-- How several types are named: each as a class, in parentheses. -/
def typesText (types : List TypeName) : List Char :=
  tupleText (types.map fun type => ("<class '" ++ type.fullWord ++ "'>").toList)

namespace Schema

/-- A mismatch, unless the value is as expected. -/
def mismatchUnless (ok : Bool) (expected path : List Char) (v : Value) : Option SchemaMismatch :=
  if ok then none else some ⟨expected, path, v.kindName⟩

mutual

/-- The first value that is not as the schema says, starting from a value under a dotted name. -/
def mismatch? (path : List Char) (v : Value) : Schema → Option SchemaMismatch
  | .one type => mismatchUnless (type.holds v) type.word.toList path v
  | .anyOf types => mismatchUnless (types.any (·.holds v)) (typesText types) path v
  | .table entries =>
    match v with
    | .map values => firstMismatch? (path ++ ['.']) values entries
    | _ => some ⟨TypeName.table.word.toList, path, v.kindName⟩

/-- The first mismatch of a table; `front` is put before the names. -/
def firstMismatch? (front : List Char) (values : Table) :
    List (List Char × Schema) → Option SchemaMismatch
  | [] => none
  | (name, schema) :: rest =>
    let here := match values.find? (.text name) with
      | some v => mismatch? (front ++ name) v schema
      | none => none
    match here with
    | some m => some m
    | none => firstMismatch? front values rest

end

end Schema

end FileSieve
