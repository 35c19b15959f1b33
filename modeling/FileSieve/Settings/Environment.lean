import FileSieve.Number.FloatLiteral
import FileSieve.Settings.Merge
import FileSieve.Text.IntegerLiteral
import FileSieve.Text.LetterCase

/-!
# Settings from the environment

A variable whose name starts with `TAGR_` is a setting. The rest of the name, in small letters,
is the path of the setting, with two low lines between the names; the value is a truth value, a
number or a text.
-/

namespace FileSieve.Environment

open Text

/-- The variables of a process, in order. -/
abbrev Variables := List (List Char × List Char)

/-- What the names of settings start with. -/
def namePrefix : List Char := "TAGR_".toList

/-- The pieces of a text between double low lines. -/
def splitAtDouble : List Char → List (List Char)
  | [] => [[]]
  | '_' :: '_' :: rest => [] :: splitAtDouble rest
  | c :: rest =>
    match splitAtDouble rest with
    | [] => [[c]]
    | piece :: pieces => (c :: piece) :: pieces

/-- The path of a variable that is a setting. -/
def variablePath? (name : List Char) : Option (List (List Char)) := do
  let path := splitAtDouble (lowerText (← dropStart? namePrefix name))
  if path.all (!·.isEmpty) then some path else none

/-- The value that the text of a variable stands for. -/
def readValue (s : List Char) : Value :=
  let word := lowerText s
  if word = "true".toList ∨ word = "yes".toList then .bool true
  else if word = "false".toList ∨ word = "no".toList then .bool false
  else
    match integerLiteral? s, Binary64.literal? s with
    | some n, _ => .int n
    | none, some x => .float x
    | none, none => .text s

/-- The table with a value at a path. What is no table already is left alone if the path goes
through it. -/
def insertAt (v : Value) : List (List Char) → Table → Table
  | [], table => table
  | [name], table => table.put (.text name) v
  | name :: names, table =>
    match table.find? (.text name) with
    | none => table.put (.text name) (.map (insertAt v names []))
    | some (.map inner) => table.put (.text name) (.map (insertAt v names inner))
    | some _ => table

/-- The variables with one set: in the place of a former value, or at the end. -/
def setVariable (name text : List Char) : Variables → Variables
  | [] => [(name, text)]
  | (n, old) :: rest =>
    if n = name then (n, text) :: rest else (n, old) :: setVariable name text rest

/-- The variables that are set one after the other. -/
def variablesOf (pairs : List (List Char × List Char)) : Variables :=
  pairs.foldl (fun all (name, text) => setVariable name text all) []

/-- The table of all settings in the environment. -/
def settings (all : Variables) : Table :=
  all.foldl (fun table (name, text) =>
    match variablePath? name with
    | some path => insertAt (readValue text) path table
    | none => table) []

end FileSieve.Environment
