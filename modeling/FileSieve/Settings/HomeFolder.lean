import FileSieve.Settings.Host
import FileSieve.Yaml.Node

/-!
# A host with a home folder

All files are in the home folder, which is also where relative paths start, and nobody else has
one. There are no links. Files are decoded as UTF-8, and documents are read by `Yaml.read`.
-/

namespace FileSieve

/-! ### The home folder -/

/-- What a path in the home folder leads to. -/
inductive FolderEntry where
  /-- A folder. -/
  | folder
  /-- A file with its bytes. -/
  | file (contents : List UInt8)

/-- What there is in a home folder, by path. -/
abbrev HomeFolder := List (List Char × FolderEntry)

namespace HomeFolder

/-- One name further. The name `..` leads back, in the end out of the home folder. -/
def step (p : Path) (name : List Char) (h : Path.IsName name) : Path :=
  if name ≠ ['.', '.'] then p.below [name] (by simpa using h)
  else if p.names.isEmpty then ⟨.single, [], nofun⟩
  else p.parent

/-- Some names further. -/
def climb (p : Path) : (names : List (List Char)) → (∀ name ∈ names, Path.IsName name) → Path
  | [], _ => p
  | name :: names, h =>
    climb (step p name (h name (.head _))) names fun n hn => h n (.tail _ hn)

/-- Where a path leads. What has no root counts from the home folder. -/
def follow (p : Path) : Except PathFault Path :=
  if p.names.any (·.contains '\x00') then .error .nul
  else .ok (climb ⟨if p.root = .none then .none else .single, [], nofun⟩ p.names p.isName)

/-- What there is at the end of a path. Folders above the home folder are there, but nothing else
outside; a folder is there when something is in it. -/
def look (home : HomeFolder) (p : Path) : Option FolderEntry :=
  if p.names.isEmpty then some .folder
  else if p.root = .none then
    match List.find? (fun (name, _) => (Path.ofText name).names = p.names) home with
    | some (_, entry) => some entry
    | none =>
      if home.any fun (name, _) => p.names.isPrefixOf (Path.ofText name).names then some .folder
      else none
  else none

/-- The contents of what there is at the end of a path. -/
def contents (home : HomeFolder) (p : Path) : Except SystemFault (List UInt8) :=
  match home.look p with
  | none => .error .missing
  | some .folder => .error .isFolder
  | some (.file contents) => .ok contents

end HomeFolder

/-! ### Texts -/

/-- A text with its line ends written alike. -/
def plainLineEnds : List Char → List Char
  | '\r' :: '\n' :: rest => '\n' :: plainLineEnds rest
  | '\r' :: rest => '\n' :: plainLineEnds rest
  | c :: rest => c :: plainLineEnds rest
  | [] => []

/-- The text that some bytes encode. -/
def decodeText? (bytes : List UInt8) : Option (List Char) :=
  (String.fromUTF8? ⟨bytes.toArray⟩).map fun s => plainLineEnds s.toList

/-! ### The host -/

/-- A host with nothing but a home folder. It decodes a file before it reads anything of it. -/
def HomeFolder.host (home : HomeFolder) : Host where
  homeOf? user := if user.isEmpty then some ['.'] else none
  resolve := follow
  hasPath p := .ok (home.look p).isSome
  read := home.contents
  decode? := decodeText?
  yaml := Yaml.read
  yamlBefore? _ := none

end FileSieve
