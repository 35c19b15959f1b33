import FileSieve.Value

/-!
# Failures in a journal

A failure that is noted in a journal: what kind it is and what is said about it. Any kind will do.
Those of the standard library that are most often noted say it in ways of their own, which follow
from the remarks that they are made with.
-/

namespace FileSieve.Journal

open Text

/-- A failure. -/
structure Failure where
  /-- The name of its kind. -/
  kindName : String
  /-- What is said about it, unless that cannot be written. -/
  message? : Option (List Char)
  deriving Repr

namespace Failure

/-- The kinds of system failures that have a name of their own, by number. -/
def systemKinds : List (Int × String) :=
  [(1, "PermissionError"), (2, "FileNotFoundError"), (3, "ProcessLookupError"),
    (4, "InterruptedError"), (10, "ChildProcessError"), (11, "BlockingIOError"),
    (13, "PermissionError"), (17, "FileExistsError"), (20, "NotADirectoryError"),
    (21, "IsADirectoryError"), (32, "BrokenPipeError"), (103, "ConnectionAbortedError"),
    (104, "ConnectionResetError"), (108, "BrokenPipeError"), (110, "TimeoutError"),
    (111, "ConnectionRefusedError"), (114, "BlockingIOError"), (115, "BlockingIOError")]

/-- The kind of a system failure with a number. -/
def systemKind (number : Int) : String :=
  (systemKinds.lookup number).getD "OSError"

/-- The number of a system failure that says what happened, if it has one. -/
def systemNumber? : List Value → Option Int
  | [.int n, _] | [.int n, _, _] | [.int n, _, _, _] | [.int n, _, _, _, _] => some n
  | _ => none

/-- The text of the remarks about a failure. -/
def remarksText? : List Value → Option (List Char)
  | [] => some []
  | [v] => v.plain?
  | remarks => (Value.tuple remarks).shown?

/-- The files that a system failure is about, going by what is said after its number and its text:
one may be named there, and another one two places further. -/
def systemFiles? : List Value → Option (List Value)
  | [] | [.null] | [.null, _] | [.null, _, _] => some []
  | [file] | [file, _] | [file, _, .null] => some [file]
  | [file, _, other] => some [file, other]
  | _ => none

/-- The text of a system failure that names an error and perhaps some files. -/
def systemText? (number text : Value) (files : List Value) : Option (List Char) := do
  let front := "[Errno ".toList ++ (← number.plain?) ++ ']' :: ' ' :: (← text.plain?)
  if files.isEmpty then return front
  else return front ++ ':' :: ' ' :: joinWith " -> ".toList (← files.mapM Value.shown?)

/-- What is said about a missing key. -/
def keyText? : List Value → Option (List Char)
  | [v] => v.shown?
  | remarks => remarksText? remarks

/-- What is said about a refusal of the system. -/
def refusalText? : List Value → Option (List Char)
  | number :: text :: more =>
    match systemFiles? more with
    | some files => systemText? number text files
    | none => remarksText? (number :: text :: more)
  | remarks => remarksText? remarks

/-! ### Kinds -/

/-- A bad value. -/
def value (remarks : List Value) : Failure := ⟨"ValueError", remarksText? remarks⟩

/-- A missing key. -/
def key (remarks : List Value) : Failure := ⟨"KeyError", keyText? remarks⟩

/-- The system refused: the number of the error, its text, and perhaps files. -/
def system (remarks : List Value) : Failure :=
  ⟨((systemNumber? remarks).map systemKind).getD "OSError", refusalText? remarks⟩

end Failure

end FileSieve.Journal
