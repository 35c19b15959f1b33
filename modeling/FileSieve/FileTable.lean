import FileSieve.LineCount
import FileSieve.Number.Binary64
import FileSieve.Text.Quoted

/-!
# File tables

What is on disk, by the text of the path: files, directories, pipes and links. Looking at a path
shows a link itself; following it goes from link to link until something else is found. A system is
not even asked for a path with a NUL in it, as its paths end at the first one.

* `follow_of_not_link`: what is no link is found at once.
* `ask_path`: a failure names the path that was asked for, not the target of a link.
* `ask_eq_nulInPath_iff`, `read_eq_nulInPath_iff`: when the system is not asked.
-/

namespace FileSieve

open Text

/-! ### Failures -/

/-- Why the system refuses. -/
structure SystemFault where
  /-- The number of the error. -/
  number : Int
  /-- What it says. -/
  text : List Char
  deriving DecidableEq, Repr

namespace SystemFault

/-- There is no such file. -/
def missing : SystemFault := ⟨2, "No such file or directory".toList⟩

/-- It is a folder. -/
def isFolder : SystemFault := ⟨21, "Is a directory".toList⟩

/-- There are too many links on the way. -/
def tooManyLinks : SystemFault := ⟨40, "Too many levels of symbolic links".toList⟩

/-- The system does not record what was asked for. -/
def notRecorded (what : String) : SystemFault := ⟨95, (what ++ " not available").toList⟩

end SystemFault

/-- A refusal of the system about a path. -/
structure FileFailure where
  /-- Why it is refused. -/
  fault : SystemFault
  /-- The path that was asked for. -/
  path : List Char
  deriving DecidableEq, Repr

/-- The message of a failure. -/
def FileFailure.message (failure : FileFailure) : List Char :=
  ("[Errno " ++ toString failure.fault.number ++ "] ").toList ++ failure.fault.text ++
    ':' :: ' ' :: quoted failure.path

/-- Why a path is not found out about. -/
inductive FileError where
  /-- The system refuses. -/
  | refused (failure : FileFailure)
  /-- The system is not asked: there is a NUL in the path. -/
  | nulInPath
  deriving DecidableEq, Repr

/-! ### Nodes -/

/-- What stands at a path. -/
inductive FileKind where
  | file
  | directory
  | link (target : List Char)
  | pipe
  deriving DecidableEq, Repr

/-- Something on disk. -/
structure FileNode where
  /-- What it is. -/
  kind : FileKind
  /-- Its mode bits. -/
  mode : Nat
  /-- Its size in bytes. -/
  size : Int
  /-- When it was modified. -/
  modified : Binary64
  /-- When it was accessed, if that is recorded. -/
  accessed : Option Binary64
  /-- When it was created, if that is recorded. -/
  created : Option Binary64
  /-- Its contents. -/
  contents : List UInt8
  /-- Why it cannot be looked at. -/
  lookFault : Option SystemFault
  /-- Why it cannot be opened. -/
  openFault : Option SystemFault
  deriving DecidableEq, Repr

/-- What is on disk. -/
structure FileTable where
  /-- The nodes by the texts of their paths. -/
  nodes : List (List Char × FileNode)
  /-- May there be a NUL in a path? Not if a system is asked, but a table in its place has no need
  to end paths there. -/
  takesNul : Bool
  deriving DecidableEq, Repr

namespace FileTable

variable (files : FileTable)

/-- The table with a node at a path. -/
def write (path : List Char) (node : FileNode) : FileTable :=
  { files with nodes := (path, node) :: files.nodes.filter (·.1 ≠ path) }

/-- The table without what stands at a path. -/
def remove (path : List Char) : FileTable :=
  { files with nodes := files.nodes.filter (·.1 ≠ path) }

/-- Does anything stand at a path? -/
def holds (path : List Char) : Bool := (files.nodes.lookup path).isSome

/-! ### Looking and opening -/

/-- What the system says that stands at a path. -/
def nodeAt (path : List Char) : Except SystemFault FileNode :=
  match files.nodes.lookup path with
  | none => .error .missing
  | some node =>
    match node.lookFault with
    | some fault => .error fault
    | none => .ok node

/-- How many links are followed. -/
def maxLinks : Nat := 40

/-- What is found at a path when at most so many links are followed. -/
def followUpTo : List Char → Nat → Except SystemFault FileNode
  | path, 0 => do
    let node ← files.nodeAt path
    match node.kind with
    | .link _ => .error .tooManyLinks
    | _ => return node
  | path, links + 1 => do
    let node ← files.nodeAt path
    match node.kind with
    | .link target => followUpTo target links
    | _ => return node

/-- Would the system take only a part of the path for it? -/
def endsEarly (path : List Char) : Bool := !files.takesNul && path.contains '\x00'

/-- An answer of the system about a path, if it is asked. -/
def ask {α : Type} (path : List Char) (answer : Except SystemFault α) : Except FileError α :=
  if files.endsEarly path then .error .nulInPath else answer.mapError (.refused ⟨·, path⟩)

/-- What stands at a path. -/
def look (path : List Char) : Except FileError FileNode := files.ask path (files.nodeAt path)

/-- What is found at a path when links are followed. -/
def follow (path : List Char) : Except FileError FileNode :=
  files.ask path (files.followUpTo path maxLinks)

/-- The contents that opening a path gives. -/
def read (path : List Char) : Except FileError (List UInt8) := do
  let node ← files.follow path
  match node.openFault with
  | some fault => .error (.refused ⟨fault, path⟩)
  | none => return node.contents

variable {files} {path : List Char} {node : FileNode}

theorem ask_eq_nulInPath_iff {α : Type} (answer : Except SystemFault α) :
    files.ask path answer = .error .nulInPath ↔ files.endsEarly path = true := by
  unfold ask
  split
  · rename_i h
    exact iff_of_true rfl h
  · rename_i h
    refine iff_of_false ?_ h
    cases answer <;> nofun

theorem read_eq_nulInPath_iff :
    files.read path = .error .nulInPath ↔ files.endsEarly path = true := by
  rw [← ask_eq_nulInPath_iff (files.followUpTo path maxLinks), read, follow]
  cases files.ask path (files.followUpTo path maxLinks) with
  | error e => simp [bind, Except.bind]
  | ok node =>
    refine iff_of_false ?_ nofun
    simp only [bind, Except.bind]
    split <;> simp [pure, Except.pure]

theorem follow_of_not_link (hlook : files.look path = .ok node)
    (hkind : ∀ target, node.kind ≠ .link target) : files.follow path = .ok node := by
  unfold look follow ask at *
  split at hlook
  · cases hlook
  · rename_i hname
    rw [if_neg hname]
    cases hnode : files.nodeAt path with
    | error fault =>
      rw [hnode] at hlook
      cases hlook
    | ok found =>
      rw [hnode] at hlook
      cases hlook
      simp only [maxLinks, followUpTo, hnode, bind, Except.bind]
      cases hk : node.kind with
      | link target => exact absurd hk (hkind target)
      | _ => rfl

theorem ask_path {α : Type} {answer : Except SystemFault α} {failure : FileFailure}
    (h : files.ask path answer = .error (.refused failure)) : failure.path = path := by
  unfold ask at h
  split at h
  · cases h
  · cases answer <;> cases h
    rfl

end FileTable

end FileSieve
