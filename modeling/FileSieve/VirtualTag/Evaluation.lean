import FileSieve.FileRef
import FileSieve.Metadata.Cache
import FileSieve.VirtualTag.Settings

/-!
# Asking whether a tag holds

Some tags hold because of the name of a file alone, the others because of its metadata, which a
cache may have, and for a number of lines also because of its contents.

* `holds_of_named`: a tag about the name leaves the cache and the disk alone.
* `holds_of_unnamed`: any other tag asks the cache for the metadata of the file, once.
* `verdict_of_ok`: what comes out is what was found.
-/

namespace FileSieve

open Text Calendar Journal

/-! ### Conditions -/

/-- The threshold of a category when its literal is no size. -/
def SizeCategory.fallback? : SizeCategory → Option Nat
  | .tiny => some 1024
  | .small => some 102400
  | .medium => some 1048576
  | .large => some 10485760
  | .huge => none

namespace VirtualTag

/-- Why it cannot be said whether a tag holds. -/
inductive EvalError where
  /-- The system refuses to tell about the file. -/
  | file (failure : FileFailure)
  /-- There is a NUL in the path of the file. -/
  | nulInPath
  /-- A time cannot be worked out. -/
  | time (fault : TimeFault)
  /-- A size is too large to be worked out. -/
  | sizeTooLarge
  /-- A category has no threshold. -/
  | noThreshold
  /-- The tag has no text. -/
  | text (fault : TextFault)
  /-- The tag is of a kind that is not offered. -/
  | unsupported (name : List Char)
  deriving DecidableEq, Repr

/-- An error about a file, where a tag is asked for. -/
def EvalError.ofFile : FileError → EvalError
  | .refused failure => .file failure
  | .nulInPath => .nulInPath

/-- What is said about a kind of tags that is not offered. -/
def unsupportedMessage (name : List Char) : List Char :=
  "Unsupported virtual tag: ".toList ++ name

/-- The threshold of a size category in bytes. -/
def threshold (settings : TagSettings) (category : SizeCategory) : Except EvalError Nat :=
  match settings.sizes.bytes? category with
  | .error _ => .error .sizeTooLarge
  | .ok (some bytes) => .ok bytes
  | .ok none =>
    match category.fallback? with
    | some bytes => .ok bytes
    | none => .error .noThreshold

/-- Is a size in a category? A category starts where the one below it ends, and the last one has
no end. -/
def isInCategory (settings : TagSettings) (size : Int) (category : SizeCategory) :
    Except EvalError Bool := do
  let least : Nat ← match category.below? with
    | some below => threshold settings below
    | none => pure 0
  -- the threshold above is asked for only where it decides
  if size < least then return false
  else if category = .huge then return true
  else return size < (← threshold settings category)

/-- Does a size satisfy a condition? -/
def checkSize (settings : TagSettings) (size : Int) : SizeTest → Except EvalError Bool
  | .empty => .ok (size = 0)
  | .category category => isInCategory settings size category
  | .bytes test => .ok (test.holds size)

/-! ### Checks -/

/-- What a check depends on beside the file and the tag. -/
structure Surroundings (τ : Type) where
  /-- The local zone. -/
  zone : Zone
  /-- The settings. -/
  settings : TagSettings
  /-- What is on disk. -/
  files : FileTable
  /-- The date and the time of day. -/
  now : Reading
  /-- The reading of the clock of the cache. -/
  tick : τ

variable {τ : Type}

/-- Does the tag hold because of the name of the file? Nothing, if that does not decide. -/
def holdsByName? (settings : TagSettings) (file : FileRef) : VirtualTag → Option Bool
  | .extension ext =>
    let suffix := file.path.suffix
    some (!suffix.isEmpty && suffix = dottedExtension ext)
  | .extensionFamily family =>
    let suffix := file.path.suffix
    some (!suffix.isEmpty &&
      ((settings.extensionsOf? family.word.toList).any fun extensions =>
        extensions.contains suffix))
  | .directory wanted => some (file.path.liesIn wanted)
  | .path glob => some (glob.takes file.text)
  | .depth test => some (test.holds file.depth)
  | .git _ => some false
  | _ => none

/-- Does a recorded time lie in a window? -/
def checkTime (env : Surroundings τ) (t : Binary64) (window : TimeWindow) :
    Except EvalError Bool :=
  (window.covers env.zone env.now t).mapError .time

/-- Does the tag hold because of the metadata of the file? -/
def holdsByMetadata (env : Surroundings τ) (path : List Char) (m : Metadata) :
    VirtualTag → Except EvalError Bool
  | .modified window => checkTime env m.modified window
  | .created window =>
    match m.created with
    | some t => checkTime env t window
    | none => .error (.file ⟨.notRecorded "Created time", path⟩)
  | .accessed window =>
    match m.accessed with
    | some t => checkTime env t window
    | none => .error (.file ⟨.notRecorded "Accessed time", path⟩)
  | .size test => checkSize env.settings m.size test
  | .permission test => .ok (test.holds m.mode)
  | .lines test =>
    if m.isFile then
      match env.files.read path with
      | .ok contents => .ok (test.holds (lineCount contents))
      | .error e => .error (.ofFile e)
    else .ok false
  | _ => .ok false

variable [Clock τ]

/-- Does the tag hold? The cache may be used and filled on the way. -/
def holds (env : Surroundings τ) (cache : MetadataCache τ) (file : FileRef) (tag : VirtualTag) :
    MetadataCache τ × Except EvalError Bool :=
  match tag.holdsByName? env.settings file with
  | some b => (cache, .ok b)
  | none =>
    let (cache, m) := cache.get env.files file.text env.tick
    match m with
    | .ok m => (cache, tag.holdsByMetadata env file.text m)
    | .error e => (cache, .error (.ofFile e))

/-! ### Verdicts -/

/-- What is noted about a tag that was found to hold or not. -/
def foundEvent (text path : List Char) (b : Bool) : Event :=
  .of "Evaluated virtual tag" [("tag", .text text), ("path", .text path), ("result", .bool b)]

/-- What is noted about a tag when the file cannot be asked. -/
def failedEvent (text path : List Char) (failure : FileFailure) : Event :=
  .of "Virtual tag evaluation failed"
    [("tag", .text text), ("path", .text path), ("error", .text failure.message)]

/-- The verdict on a tag, and what is noted about it: for that the tag must have a text. -/
def verdict (zone : Zone) (path : List Char) (tag : VirtualTag) (found : Except EvalError Bool) :
    Except EvalError Bool × List Event :=
  match found, tag.text zone with
  | .ok b, .ok text => (.ok b, [foundEvent text path b])
  | .error (.file failure), .ok text =>
    (.error (.file failure), [failedEvent text path failure])
  | .ok _, .error fault | .error (.file _), .error fault => (.error (.text fault), [])
  | .error other, _ => (.error other, [])

/-- The verdict on a tag, and the cache afterwards. -/
def evaluate (env : Surroundings τ) (cache : MetadataCache τ) (file : FileRef)
    (tag : VirtualTag) : MetadataCache τ × Except EvalError Bool :=
  let (cache, found) := tag.holds env cache file
  (cache, (tag.verdict env.zone file.text found).1)

/-- What the cache notes during a check. -/
def cacheEvents (env : Surroundings τ) (cache : MetadataCache τ) (file : FileRef)
    (tag : VirtualTag) : List Event :=
  match tag.holdsByName? env.settings file with
  | some _ => []
  | none => cache.getEvents env.files file.text env.tick

/-- What is noted about the verdict of a check. -/
def verdictEvents (env : Surroundings τ) (cache : MetadataCache τ) (file : FileRef)
    (tag : VirtualTag) : List Event :=
  (tag.verdict env.zone file.text (tag.holds env cache file).2).2

/-! ### Laws -/

variable {env : Surroundings τ} {cache : MetadataCache τ} {file : FileRef} {tag : VirtualTag}
  {b : Bool} {text path : List Char} {zone : Zone}

theorem holds_of_named (h : tag.holdsByName? env.settings file = some b) :
    tag.holds env cache file = (cache, .ok b) := by
  simp [holds, h]

theorem holds_of_unnamed (h : tag.holdsByName? env.settings file = none) :
    tag.holds env cache file =
      ((cache.get env.files file.text env.tick).1,
        match (cache.get env.files file.text env.tick).2 with
        | .ok m => tag.holdsByMetadata env file.text m
        | .error e => .error (.ofFile e)) := by
  rcases hget : cache.get env.files file.text env.tick with ⟨after, e | m⟩ <;>
    simp only [holds, h, hget]

omit [Clock τ] in
theorem verdict_of_ok (h : tag.text zone = .ok text) :
    (tag.verdict zone path (.ok b)).1 = .ok b := by
  simp [verdict, h]

end VirtualTag

end FileSieve
