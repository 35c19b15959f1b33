import FileSieve.Path

/-!
# Files as they are given

A file is named by a text, just as it was typed, or by a path that has been read already.

* `path_spelled_text`: spelling out a path does not change which path is meant.
* `depth_of_path`: a path that has been read is as deep as it has components.
-/

namespace FileSieve

/-- A file as it is given. -/
inductive FileRef where
  /-- By the text that was typed. -/
  | spelled (s : List Char)
  /-- By a path. -/
  | ofPath (p : Path)
  deriving DecidableEq

namespace FileRef

/-- The text of the file name. -/
def text : FileRef → List Char
  | .spelled s => s
  | .ofPath p => p.text

/-- The path that is meant. -/
def path : FileRef → Path
  | .spelled s => Path.ofText s
  | .ofPath p => p

/-- Does the text start with a `.` component, which reading drops? -/
def startsHere (s : List Char) : Bool :=
  s = ['.'] || (Text.dropStart? ['.', '/'] s).isSome

/-- The number of components; a leading `.` that was typed counts too. -/
def depth : FileRef → Nat
  | .spelled s => (Path.ofText s).parts.length + if startsHere s then 1 else 0
  | .ofPath p => p.parts.length

theorem path_spelled_text (p : Path) : (spelled p.text).path = (ofPath p).path :=
  Path.ofText_text p

theorem depth_of_path {s : List Char} :
    (spelled s).depth = (ofPath (Path.ofText s)).depth + if startsHere s then 1 else 0 := rfl

end FileRef

end FileSieve
