import FileSieve.FileTable

/-!
# Metadata

What is known about a file without opening it. A link is looked through, so that all but
`isLink` is about what it leads to.

* `metadata_isLink`: only a link is reported as one.
* `metadata_eq_nulInPath_iff`: the system is not asked about a path with a NUL.
-/

namespace FileSieve

/-- What is known about a file. -/
structure Metadata where
  /-- The size in bytes. -/
  size : Int
  /-- When it was modified. -/
  modified : Binary64
  /-- When it was created, if that is recorded. -/
  created : Option Binary64
  /-- When it was accessed, if that is recorded. -/
  accessed : Option Binary64
  /-- Is it a file in the narrow sense? -/
  isFile : Bool
  /-- Is it a directory? -/
  isDirectory : Bool
  /-- Was it reached through a link? -/
  isLink : Bool
  /-- The permission bits. -/
  mode : Nat
  deriving DecidableEq, Repr

/-- The metadata of a node that was reached through a link or not. -/
def FileNode.metadata (node : FileNode) (isLink : Bool) : Metadata where
  size := node.size
  modified := node.modified
  created := node.created
  accessed := node.accessed
  isFile := node.kind = .file
  isDirectory := node.kind = .directory
  isLink := isLink
  mode := node.mode &&& 0o7777

/-- Is a node a link? -/
def FileNode.isLink (node : FileNode) : Bool :=
  match node.kind with
  | .link _ => true
  | _ => false

/-- The metadata of what is found at a path. -/
def FileTable.metadata (files : FileTable) (path : List Char) : Except FileError Metadata := do
  let node ← files.look path
  if node.isLink then return (← files.follow path).metadata true
  else return node.metadata false

theorem FileTable.metadata_eq_nulInPath_iff {files : FileTable} {path : List Char} :
    files.metadata path = .error .nulInPath ↔ files.endsEarly path = true := by
  have hlooked : files.look path = .error .nulInPath ↔ files.endsEarly path = true :=
    ask_eq_nulInPath_iff _
  have hfollowed : files.follow path = .error .nulInPath ↔ files.endsEarly path = true :=
    ask_eq_nulInPath_iff _
  unfold metadata
  cases hlook : files.look path with
  | error e =>
    rw [hlook] at hlooked
    simpa [bind, Except.bind] using hlooked
  | ok node =>
    rw [hlook] at hlooked
    simp only [bind, Except.bind]
    split
    · rw [← hfollowed]
      cases files.follow path <;> simp [pure, Except.pure]
    · rw [← hlooked]
      simp [pure, Except.pure]

theorem FileTable.metadata_isLink {files : FileTable} {path : List Char} {node : FileNode}
    {m : Metadata} (hlook : files.look path = .ok node) (h : files.metadata path = .ok m) :
    m.isLink = node.isLink := by
  rw [metadata, hlook] at h
  change (if node.isLink then (files.follow path).bind fun node => .ok (node.metadata true)
    else .ok (node.metadata false)) = .ok m at h
  split at h
  · rename_i hlink
    cases hfollow : files.follow path with
    | error e => rw [hfollow] at h; cases h
    | ok target => rw [hfollow] at h; cases h; exact hlink.symm
  · rename_i hlink
    cases h
    exact (Bool.eq_false_iff.2 hlink).symm

end FileSieve
