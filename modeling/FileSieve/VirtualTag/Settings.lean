import FileSieve.ByteSize
import FileSieve.Value
import FileSieve.VirtualTag

/-!
# Settings of virtual tags

What a table of settings says about virtual tags: size categories, families of extensions, the
metadata cache. A key that is missing keeps its default, and a value that makes no sense is
refused.

* `ofValue_null`: without a table everything keeps its default.
* `readFlag_of_bool`: a truth value is taken as it is.
-/

namespace FileSieve

open Text

/-! ### Refusals -/

/-- Why settings are refused. -/
inductive RejectedSetting where
  /-- The settings are no table. -/
  | notTable (kindName : String)
  /-- A setting is no truth value. -/
  | notFlag (key : String) (shown : List Char)
  /-- A setting is no positive number. -/
  | notPositive (key : String) (shown : List Char)
  /-- A setting is no count. -/
  | notCount (key : String) (shown : List Char)
  /-- A section is no table. -/
  | sectionNotTable (key kindName : String)
  /-- There are no such size categories. -/
  | unknownCategories (names : List (List Char))
  /-- A size category has no size for a threshold. -/
  | badThreshold (name shown : List Char)
  /-- The families of extensions are no table. -/
  | familiesNotTable
  /-- A family is no list of texts. -/
  | badFamily (name : List Char)
  deriving DecidableEq, Repr

/-- The message of a refusal. -/
def RejectedSetting.message : RejectedSetting → List Char
  | .notTable kindName => ("virtual_tags must be a mapping, got " ++ kindName).toList
  | .notFlag key shown => (key ++ " must be a boolean: ").toList ++ shown
  | .notPositive key shown => (key ++ " must be a positive integer: ").toList ++ shown
  | .notCount key shown => (key ++ " must be a non-negative integer: ").toList ++ shown
  | .sectionNotTable key kindName => (key ++ " must be a mapping, got " ++ kindName).toList
  | .unknownCategories names =>
    "Unknown size categories: ".toList ++ joinWith [',', ' '] names
  | .badThreshold name shown =>
    "Invalid size threshold for ".toList ++ name ++ ':' :: ' ' :: shown
  | .familiesNotTable => "extension_types must be a mapping".toList
  | .badFamily name =>
    "Extensions for ".toList ++ name ++ " must be a list of strings".toList

/-- What can go wrong when settings are read. -/
inductive SettingsError where
  /-- The settings are refused. -/
  | rejected (reason : RejectedSetting)
  /-- A size category is not named by a text. -/
  | nameNotText
  /-- A numeral is too long to be written. -/
  | numeralTooLong
  /-- A size is too large to be worked out. -/
  | sizeTooLarge
  deriving DecidableEq, Repr

/-! ### Settings -/

/-- The upper threshold of each size category, as a size literal. -/
structure SizeThresholds where
  tiny : List Char
  small : List Char
  medium : List Char
  large : List Char
  huge : List Char
  deriving DecidableEq, Repr

namespace SizeThresholds

/-- The thresholds that are used if none are given. -/
def default : SizeThresholds :=
  ⟨"1KB".toList, "100KB".toList, "1MB".toList, "10MB".toList, "100MB".toList⟩

/-- The literal of a category. -/
def literal (t : SizeThresholds) : SizeCategory → List Char
  | .tiny => t.tiny
  | .small => t.small
  | .medium => t.medium
  | .large => t.large
  | .huge => t.huge

/-- The thresholds with another literal for a category. -/
def set (t : SizeThresholds) (s : List Char) : SizeCategory → SizeThresholds
  | .tiny => { t with tiny := s }
  | .small => { t with small := s }
  | .medium => { t with medium := s }
  | .large => { t with large := s }
  | .huge => { t with huge := s }

/-- The threshold of a category in bytes, if its literal is a size. -/
def bytes? (t : SizeThresholds) (category : SizeCategory) :
    Except ByteSize.TooLarge (Option Nat) :=
  ByteSize.bytes? (t.literal category)

theorem literal_set {t : SizeThresholds} {s : List Char} {category : SizeCategory} :
    (t.set s category).literal category = s := by
  cases category <;> rfl

end SizeThresholds

/-- The extensions of each family, by its name. -/
abbrev ExtensionTable := List (List Char × List (List Char))

/-- The settings of virtual tags. -/
structure TagSettings where
  /-- Are virtual tags in use? -/
  enabled : Bool
  /-- Is metadata kept for a while? -/
  cacheMetadata : Bool
  /-- For how many seconds metadata is kept. -/
  cacheSeconds : Int
  /-- The thresholds of the size categories. -/
  sizes : SizeThresholds
  /-- The families of extensions. -/
  families : ExtensionTable
  /-- For how many days a file counts as recent. -/
  recentDays : Int
  /-- After how many days a file counts as stale. -/
  staleDays : Int
  /-- Is version control in use? -/
  gitEnabled : Bool
  /-- Are repositories looked for? -/
  detectRepo : Bool
  deriving DecidableEq, Repr

namespace TagSettings

/-- The families of extensions that are used if none are given. -/
def defaultFamilies : ExtensionTable :=
  [("source", [".rs", ".py", ".js", ".go", ".cpp", ".c", ".java", ".ts"]),
    ("document", [".md", ".txt", ".pdf", ".doc", ".docx", ".org"]),
    ("config", [".toml", ".yaml", ".yml", ".json", ".ini", ".conf"]),
    ("image", [".png", ".jpg", ".jpeg", ".gif", ".svg", ".webp"]),
    ("archive", [".zip", ".tar", ".gz", ".7z", ".rar", ".bz2"])].map
      fun (name, extensions) => (String.toList name, extensions.map String.toList)

/-- The settings that are used if none are given. -/
def default : TagSettings where
  enabled := true
  cacheMetadata := true
  cacheSeconds := 300
  sizes := .default
  families := defaultFamilies
  recentDays := 7
  staleDays := 180
  gitEnabled := true
  detectRepo := true

/-- The extensions of a family. -/
def extensionsOf? (settings : TagSettings) (name : List Char) : Option (List (List Char)) :=
  settings.families.lookup name

/-! ### Single values -/

/-- Refuses a value that is shown in the message. -/
def refuse {α : Type} (reason : List Char → RejectedSetting) (v : Value) :
    Except SettingsError α :=
  match v.shown? with
  | some shown => .error (.rejected (reason shown))
  | none => .error .numeralTooLong

/-- The truth value at a key. -/
def readFlag (table : Table) (key : String) (default : Bool) : Except SettingsError Bool :=
  match table.find? (.text key.toList) with
  | none => .ok default
  | some (.bool b) => .ok b
  | some v => refuse (.notFlag key) v

/-- The positive number at a key. -/
def readPositive (table : Table) (key : String) (default : Int) : Except SettingsError Int :=
  match table.find? (.text key.toList) with
  | none => .ok default
  | some (.int n) => if 0 < n then .ok n else refuse (.notPositive key) (.int n)
  | some v => refuse (.notPositive key) v

/-- The count at a key. -/
def readCount (table : Table) (key : String) (default : Int) : Except SettingsError Int :=
  match table.find? (.text key.toList) with
  | none => .ok default
  | some (.int n) => if 0 ≤ n then .ok n else refuse (.notCount key) (.int n)
  | some v => refuse (.notCount key) v

/-- The section at a key; one that is null, false, zero or empty counts as an empty one. -/
def readSection (table : Table) (key : String) : Except SettingsError Table :=
  match table.find? (.text key.toList) with
  | none => .ok []
  | some (.map entries) => .ok entries
  | some v =>
    if v.isVoid then .ok [] else .error (.rejected (.sectionNotTable key v.kindName))

/-! ### Size categories -/

/-- The text of a key that is a text. -/
def keyText? : Key → Option (List Char)
  | .text s => some s
  | _ => none

/-- Puts a text into an ascending list of texts. -/
def insertText (s : List Char) : List (List Char) → List (List Char)
  | [] => [s]
  | t :: rest => if t < s then t :: insertText s rest else s :: t :: rest

/-- The category that a key names. -/
def categoryOf? : Key → Option SizeCategory
  | .text s => SizeCategory.ofWord? s
  | _ => none

/-- Refuses keys that name no size category. -/
def checkCategories (categories : Table) : Except SettingsError Unit :=
  let unknown := (categories.map Prod.fst).filter fun key => (categoryOf? key).isNone
  if unknown.isEmpty then .ok ()
  else
    match unknown.mapM keyText? with
    | none => .error .nameNotText
    | some names => .error (.rejected (.unknownCategories (names.foldr insertText [])))

/-- The literal of a threshold: a text or a number that is a size. -/
def readThreshold (name : List Char) (v : Value) : Except SettingsError (List Char) :=
  let literal? := match v with
    | .text _ | .int _ | .bool _ => some v.plain?
    | _ => none
  match literal? with
  | none => refuse (.badThreshold name) v
  | some none => .error .numeralTooLong
  | some (some s) =>
    match ByteSize.bytes? s with
    | .error _ => .error .sizeTooLarge
    | .ok none => refuse (.badThreshold name) v
    | .ok (some _) => .ok s

/-- The thresholds of a section. -/
def readThresholds (categories : Table) : Except SettingsError SizeThresholds := do
  checkCategories categories
  categories.foldlM (fun sizes (key, v) =>
    match categoryOf? key with
    | some category => return sizes.set (← readThreshold category.word.toList v) category
    | none => return sizes) .default

/-! ### Families of extensions -/

/-- An extension of a family, if it is a text and not empty. -/
def readExtension? : Value → Option (List Char)
  | .text (c :: s) => some (dottedExtension (c :: s))
  | _ => none

/-- The extensions of a family. -/
def readExtensions? : Value → Option (List (List Char))
  | .list items | .tuple items => items.mapM readExtension?
  | _ => none

/-- The table with the extensions of a family: in the place of former ones, or at the end. -/
def putFamily (name : List Char) (extensions : List (List Char)) :
    ExtensionTable → ExtensionTable
  | [] => [(name, extensions)]
  | (n, old) :: rest =>
    if n = name then (n, extensions) :: rest else (n, old) :: putFamily name extensions rest

/-- The families of a section. -/
def readFamilies (table : Table) : Except SettingsError ExtensionTable :=
  match table.find? (.text "extension_types".toList) with
  | none | some .null => .ok defaultFamilies
  | some (.map entries) =>
    entries.foldlM (fun families (key, v) =>
      match key.plain?, readExtensions? v with
      | none, _ => .error .numeralTooLong
      | some name, some extensions => .ok (putFamily name extensions families)
      | some name, none => .error (.rejected (.badFamily name))) []
  | some _ => .error (.rejected .familiesNotTable)

/-! ### Tables -/

/-- The settings of a table. -/
def ofTable (table : Table) : Except SettingsError TagSettings := do
  let enabled ← readFlag table "enabled" true
  let cacheMetadata ← readFlag table "cache_metadata" true
  let cacheSeconds ← readPositive table "cache_ttl_seconds" 300
  let sizes ← readThresholds (← readSection table "size_categories")
  let families ← readFamilies table
  let time ← readSection table "time"
  let recentDays ← readCount time "recent" 7
  let staleDays ← readCount time "stale" 180
  let git ← readSection table "git"
  let gitEnabled ← readFlag git "enabled" true
  let detectRepo ← readFlag git "detect_repo" true
  return ⟨enabled, cacheMetadata, cacheSeconds, sizes, families, recentDays, staleDays, gitEnabled,
    detectRepo⟩

/-- The settings of a value: a table, or null for the defaults. -/
def ofValue : Value → Except SettingsError TagSettings
  | .null => ofTable []
  | .map entries => ofTable entries
  | v => .error (.rejected (.notTable v.kindName))

theorem ofValue_null : ofValue .null = .ok default := rfl

theorem readFlag_of_bool {table : Table} {key : String} {d b : Bool}
    (h : table.find? (.text key.toList) = some (.bool b)) : readFlag table key d = .ok b := by
  simp [readFlag, h]

end TagSettings

end FileSieve
