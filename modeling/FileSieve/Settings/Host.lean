import FileSieve.ErrorCode
import FileSieve.FileTable
import FileSieve.Path
import FileSieve.Settings.Environment
import FileSieve.Settings.Layers
import FileSieve.Yaml.Text

/-!
# Settings files

A settings file is a YAML document. Its path may start with the tilde of a user, and links on the
way are followed before anything else is asked. The table in a file is the layer of a source; if
there is none, the layers stay as they are.

Who has a home folder, where a path leads, what is there, how bytes are decoded and what a document
stands for is a matter of the host. Of its refusals, some are faults of the file, and the others are
passed on as they are.

* `Path.user?_eq_some_iff`: a tilde counts only at the start of a path without a root.
* `Layers.load_layer_of_ne`: loading a file leaves the layers of other sources alone.
-/

namespace FileSieve

open Text

/-! ### Hosts -/

/-- Why it is not found out where a path leads. -/
inductive PathFault where
  /-- There is a NUL in it. -/
  | nul
  /-- The links on the way lead in a circle. -/
  | linkLoop
  /-- The system refuses. -/
  | refused (fault : SystemFault)
  deriving DecidableEq, Repr

/-- What a settings file is read with: a system and a YAML library. -/
structure Host where
  /-- The home folder of a user, if it is known; a text that starts with a tilde again does not
  count. Without a name it is one's own. -/
  homeOf? : List Char → Option (List Char)
  /-- Where a path leads when links are followed, from the root on. Nothing has to be there. -/
  resolve : Path → Except PathFault Path
  /-- Is anything there? -/
  hasPath : Path → Except SystemFault Bool
  /-- The bytes of a file. -/
  read : Path → Except SystemFault (List UInt8)
  /-- The text that some bytes encode. -/
  decode? : List UInt8 → Option (List Char)
  /-- The value that a document stands for, as a tree. -/
  yaml : List Char → Except Yaml.Error Value
  /-- What the library objects to in bytes that are no text, before it comes to where they are none:
  it reads a file piece by piece. -/
  yamlBefore? : List UInt8 → Option Yaml.Error

/-! ### Faults -/

/-- What can be wrong with a settings file. -/
inductive FileFault where
  /-- It is not there. -/
  | notFound
  /-- It cannot be opened, as a folder. -/
  | cannotOpen
  /-- It is no YAML document. -/
  | malformed
  /-- It does not hold a table. -/
  | notTable
  deriving DecidableEq, Repr

namespace FileFault

/-- What is said about a fault before the path of the file. -/
def words : FileFault → String
  | .notFound => "Config file not found: "
  | .cannotOpen => "Error loading config "
  | .malformed => "YAML parse error in "
  | .notTable => "Invalid config format in "

/-- The message about a fault, without particulars. -/
def message (fault : FileFault) (path : List Char) : List Char := fault.words.toList ++ path

/-- The error code of a fault. -/
def code : FileFault → ErrorCode
  | .notFound => .notFound
  | .cannotOpen => .permissionDenied
  | .malformed | .notTable => .invalidInput

end FileFault

/-- Why a settings file is not loaded. -/
inductive LoadError where
  /-- There is something wrong with the file. -/
  | fault (f : FileFault)
  /-- Its path starts at a home folder that is not known. -/
  | unknownHome
  /-- It is not found out where its path leads, or what is there. -/
  | path (e : PathFault)
  /-- Its bytes are no text. -/
  | notText
  /-- The YAML library breaks off. -/
  | brokeOff
  deriving DecidableEq, Repr

/-- What the library objects to, as a refusal of the file. -/
def LoadError.ofYaml : Yaml.Error → LoadError
  | .malformed => .fault .malformed
  | .brokeOff => .brokeOff

/-! ### Reading -/

/-- The user whose tilde a path starts with, if it has no root and starts with one. -/
def Path.user? (p : Path) : Option (List Char) :=
  match p.root, p.names with
  | .none, ('~' :: user) :: _ => some user
  | _, _ => none

theorem Path.user?_eq_some_iff {p : Path} {user : List Char} :
    p.user? = some user ↔ p.root = .none ∧ ∃ names, p.names = ('~' :: user) :: names := by
  unfold user?
  split
  · rename_i hroot hnames
    simp [hroot, hnames]
  · rename_i hother
    refine iff_of_false nofun ?_
    rintro ⟨hroot, names, hnames⟩
    exact hother user names hroot hnames

namespace Host

variable (host : Host)

/-- The path with a tilde in front replaced by the home folder of the user behind it. -/
def expandUser (p : Path) : Except LoadError Path :=
  match p.user? with
  | none => .ok p
  | some user =>
    if '\x00' ∈ user then .error (.path .nul)
    else
      match host.homeOf? user with
      | none => .error .unknownHome
      | some home =>
        .ok ((Path.ofText home).below p.names.tail fun n hn => p.isName n (List.mem_of_mem_tail hn))

/-- Where the text of a path leads. -/
def locate (path : List Char) : Except LoadError Path := do
  (host.resolve (← host.expandUser (.ofText path))).mapError .path

/-- The value that the bytes of a file stand for. -/
def load (bytes : List UInt8) : Except LoadError Value :=
  match host.decode? bytes with
  | some text => (host.yaml text).mapError .ofYaml
  | none => .error ((host.yamlBefore? bytes).elim .notText .ofYaml)

/-- The table that is read at the end of a path. -/
def readAt (place : Path) : Except LoadError Table :=
  match host.hasPath place with
  | .error fault => .error (.path (.refused fault))
  | .ok false => .error (.fault .notFound)
  | .ok true =>
    match host.read place with
    | .error _ => .error (.fault .cannotOpen)
    | .ok bytes => do
      match ← host.load bytes with
      | .map entries => return entries
      | _ => throw (.fault .notTable)

/-- The table that a settings file holds. -/
def readFile (path : List Char) : Except LoadError Table := do
  host.readAt (← host.locate path)

end Host

/-! ### Loading -/

namespace Layers

/-- The layers with that of a source read from a file. -/
def load (layers : Layers) (host : Host) (path : List Char) (source : Source) :
    Except LoadError Layers := do
  return layers.put source (.map (← host.readFile path))

/-- The layers with what the environment says, if it says anything. -/
def loadEnvironment (layers : Layers) (environment : Environment.Variables) : Layers :=
  let table := Environment.settings environment
  if table.isEmpty then layers
  else layers.put .environment (.map [(.text rootName, .map table)])

/-- The layers that a process starts with: what is built in, the file of the user unless its path
is empty, and what the environment says. -/
def start (host : Host) (path : List Char) (environment : Environment.Variables) :
    Except LoadError Layers := do
  let layers ← if path.isEmpty then pure initial else initial.load host path .user
  return layers.loadEnvironment environment

theorem load_layer_of_ne {layers loaded : Layers} {host : Host} {path : List Char}
    {source other : Source} (h : layers.load host path source = .ok loaded)
    (hother : other ≠ source) : loaded.layer other = layers.layer other := by
  simp only [load] at h
  cases hread : host.readFile path with
  | error e => simp [hread, bind, Except.bind] at h
  | ok table =>
    simp only [hread, bind, Except.bind, pure, Except.pure, Except.ok.injEq] at h
    rw [← h]
    exact layer_put_of_ne hother

end Layers

end FileSieve
