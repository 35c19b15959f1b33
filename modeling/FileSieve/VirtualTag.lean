import FileSieve.Glob
import FileSieve.Path
import FileSieve.VirtualTag.Amount

/-!
# Virtual tags

A virtual tag says something about a file that is looked up or computed instead of being stored.
Its text is a prefix, a colon and a value.

* `prefixes_nodup`: no two kinds of tags have the same prefix.
* `text_eq`: the text of a tag is its prefix, a colon, and the text of its value.
-/

namespace FileSieve

open Text Calendar

/-! ### Words -/

/-- A family of file extensions. -/
inductive ExtensionFamily where
  | source
  | document
  | image
  | archive
  | config
  deriving DecidableEq, Repr

/-- The word for a family. -/
def ExtensionFamily.word : ExtensionFamily → String
  | .source => "source"
  | .document => "document"
  | .image => "image"
  | .archive => "archive"
  | .config => "config"

/-- The family with a word. -/
def ExtensionFamily.ofWord? (s : List Char) : Option ExtensionFamily :=
  [ExtensionFamily.source, .document, .image, .archive, .config].find? fun family =>
    family.word.toList = s

theorem ExtensionFamily.ofWord?_word (family : ExtensionFamily) :
    ofWord? family.word.toList = some family := by
  cases family <;> decide

/-- The extension with a dot in front. -/
def dottedExtension (ext : List Char) : List Char :=
  if ext.head? = some '.' then ext else '.' :: ext

/-- A condition on the permissions of a file. -/
inductive PermissionTest where
  /-- Somebody may execute it. -/
  | executable
  /-- Somebody may read it. -/
  | readable
  /-- Somebody may write it. -/
  | writable
  /-- Nobody may write it. -/
  | readonly
  deriving DecidableEq, Repr

namespace PermissionTest

/-- The word for a condition on permissions. -/
def word : PermissionTest → String
  | .executable => "executable"
  | .readable => "readable"
  | .writable => "writable"
  | .readonly => "readonly"

/-- The condition on permissions with a word. -/
def ofWord? (s : List Char) : Option PermissionTest :=
  [executable, readable, writable, readonly].find? fun test => test.word.toList = s

theorem ofWord?_word (test : PermissionTest) : ofWord? test.word.toList = some test := by
  cases test <;> decide

/-- Do the permission bits of a file satisfy the condition? -/
def holds (mode : Nat) : PermissionTest → Bool
  | .executable => mode &&& 0o111 ≠ 0
  | .readable => mode &&& 0o444 ≠ 0
  | .writable => mode &&& 0o222 ≠ 0
  | .readonly => mode &&& 0o222 = 0

end PermissionTest

/-- A state of a file in version control. -/
inductive GitState where
  | tracked
  | untracked
  | modified
  | staged
  | ignored
  | committedToday
  | neverCommitted
  | stale
  deriving DecidableEq, Repr

/-- The word for a state. -/
def GitState.word : GitState → String
  | .tracked => "tracked"
  | .untracked => "untracked"
  | .modified => "modified"
  | .staged => "staged"
  | .ignored => "ignored"
  | .committedToday => "committed-today"
  | .neverCommitted => "never-committed"
  | .stale => "stale"

/-- The state with a word. -/
def GitState.ofWord? (s : List Char) : Option GitState :=
  [GitState.tracked, .untracked, .modified, .staged, .ignored, .committedToday, .neverCommitted,
    .stale].find? fun state => state.word.toList = s

theorem GitState.ofWord?_word (state : GitState) : ofWord? state.word.toList = some state := by
  cases state <;> decide

/-! ### Kinds -/

/-- The kinds of virtual tags. -/
inductive VirtualTag.Kind where
  | modified
  | created
  | accessed
  | size
  | extension
  | extensionFamily
  | directory
  | path
  | depth
  | permission
  | lines
  | git
  deriving DecidableEq, Repr

namespace VirtualTag.Kind

/-- All kinds. -/
def all : List Kind :=
  [.modified, .created, .accessed, .size, .extension, .extensionFamily, .directory, .path,
    .depth, .permission, .lines, .git]

/-- The text before the colon. -/
def word : Kind → String
  | .modified => "modified"
  | .created => "created"
  | .accessed => "accessed"
  | .size => "size"
  | .extension => "ext"
  | .extensionFamily => "ext-type"
  | .directory => "dir"
  | .path => "path"
  | .depth => "depth"
  | .permission => "perm"
  | .lines => "lines"
  | .git => "git"

/-- The kind with a prefix. -/
def ofWord? (s : List Char) : Option Kind :=
  all.find? fun kind => kind.word.toList = s

theorem prefixes_nodup : (all.map word).Nodup := by decide

theorem ofWord?_word (kind : Kind) : ofWord? kind.word.toList = some kind := by
  cases kind <;> decide

end VirtualTag.Kind

/-! ### Tags -/

/-- A virtual tag. -/
inductive VirtualTag where
  /-- When the file was modified. -/
  | modified (window : TimeWindow)
  /-- When the file was created. -/
  | created (window : TimeWindow)
  /-- When the file was accessed. -/
  | accessed (window : TimeWindow)
  /-- How large the file is. -/
  | size (test : SizeTest)
  /-- The extension of the file. -/
  | extension (ext : List Char)
  /-- The family of the extension of the file. -/
  | extensionFamily (family : ExtensionFamily)
  /-- The directory the file lies in. -/
  | directory (path : Path)
  /-- A glob that takes the path of the file. -/
  | path (glob : Glob)
  /-- The number of components of the path of the file. -/
  | depth (test : CountTest)
  /-- The permissions of the file. -/
  | permission (test : PermissionTest)
  /-- The number of lines of the file. -/
  | lines (test : CountTest)
  /-- The state of the file in version control. -/
  | git (state : GitState)
  deriving DecidableEq

namespace VirtualTag

/-- The kind of a tag. -/
def kind : VirtualTag → Kind
  | .modified _ => .modified
  | .created _ => .created
  | .accessed _ => .accessed
  | .size _ => .size
  | .extension _ => .extension
  | .extensionFamily _ => .extensionFamily
  | .directory _ => .directory
  | .path _ => .path
  | .depth _ => .depth
  | .permission _ => .permission
  | .lines _ => .lines
  | .git _ => .git

/-- The text of the value of a tag. -/
def valueText (zone : Zone) : VirtualTag → Except TextFault (List Char)
  | .modified window | .created window | .accessed window => window.text zone
  | .size test => test.text
  | .extension ext => .ok ext
  | .extensionFamily family => .ok family.word.toList
  | .directory p => .ok p.text
  | .path glob => .ok glob.text
  | .depth test | .lines test => test.text
  | .permission test => .ok test.word.toList
  | .git state => .ok state.word.toList

/-- The text of a tag. -/
def text (zone : Zone) (tag : VirtualTag) : Except TextFault (List Char) := do
  return tag.kind.word.toList ++ ':' :: (← tag.valueText zone)

theorem text_eq {zone : Zone} {tag : VirtualTag} {value : List Char}
    (h : tag.valueText zone = .ok value) :
    tag.text zone = .ok (tag.kind.word.toList ++ ':' :: value) := by
  simp only [text, h]
  rfl

end VirtualTag

end FileSieve
