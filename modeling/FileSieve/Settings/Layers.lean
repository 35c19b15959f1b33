import FileSieve.Settings.Merge
import FileSieve.VirtualTag.Settings

/-!
# Layers of settings

Settings come from several sources, each of which has a layer of its own. To look something up,
the layers are laid over each other in the order of their precedence.

* `layer_put_self`, `layer_put_of_ne`: loading a layer leaves the others alone.
* `set?_layer_of_ne`: setting a value in one layer leaves the others alone.
-/

namespace FileSieve

open Text

/-! ### Sources -/

/-- Where settings come from, the later ones taking precedence. -/
inductive Source where
  /-- What is built in. -/
  | builtIn
  /-- The settings of the system. -/
  | system
  /-- The settings of the user. -/
  | user
  /-- The environment of the process. -/
  | environment
  /-- The arguments of the process. -/
  | arguments
  /-- What was changed since. -/
  | runtime
  deriving DecidableEq, Repr

/-- All sources, in the order of their precedence. -/
def Source.all : List Source := [.builtIn, .system, .user, .environment, .arguments, .runtime]

/-- The layers of settings that there are. -/
structure Layers where
  /-- The layer of a source. -/
  layer : Source → Option Value

/-! ### What is built in -/

/-- A table whose keys are known beforehand. -/
def Table.of (entries : List (String × Value)) : Table :=
  entries.map fun (name, v) => (.text name.toList, v)

/-- The table that says the same as some settings of virtual tags. -/
def TagSettings.table (s : TagSettings) : Table :=
  Table.of [("enabled", .bool s.enabled), ("cache_metadata", .bool s.cacheMetadata),
    ("cache_ttl_seconds", .int s.cacheSeconds),
    ("size_categories", .map (Table.of (SizeCategory.all.map fun category =>
      (category.word, .text (s.sizes.literal category))))),
    ("extension_types", .map (s.families.map fun (name, extensions) =>
      (.text name, .list (extensions.map .text)))),
    ("time", .map (Table.of [("recent", .int s.recentDays), ("stale", .int s.staleDays)])),
    ("git", .map (Table.of [("enabled", .bool s.gitEnabled), ("detect_repo", .bool s.detectRepo)]))]

/-- The name of the section that holds all settings. -/
def rootName : List Char := "tagr".toList

/-- The settings that are built in. -/
def builtInTable : Table :=
  [(.text rootName, .map (Table.of [("virtual_tags", .map TagSettings.default.table),
    ("logging", .map (Table.of [("level", .text "INFO".toList), ("file", .null)]))]))]

namespace Layers

/-- The layers at the start. -/
def initial : Layers :=
  ⟨fun source => if source = .builtIn then some (.map builtInTable) else none⟩

variable (layers : Layers)

/-! ### Changing layers -/

/-- The layers with that of a source replaced. -/
def put (source : Source) (v : Value) : Layers :=
  ⟨fun s => if s = source then some v else layers.layer s⟩

/-- The layers without that of a source; what is built in stays. -/
def clearSource (source : Source) : Layers :=
  ⟨fun s => if s = source ∧ s ≠ .builtIn then none else layers.layer s⟩

/-- Only the layer that is built in. -/
def clear : Layers := ⟨fun s => if s = .builtIn then layers.layer s else none⟩

/-- The layers with a value set under a dotted name in one of them, unless something on the way
is no table. -/
def set? (key : List Char) (v : Value) (source : Source) : Option Layers := do
  let old := (layers.layer source).getD (.map [])
  return layers.put source (← Value.setAt? v (splitAtEach '.' key) old)

/-! ### Looking up -/

/-- A table with a layer laid over it, unless the layer is no table. -/
def overlay? (table : Table) : Option Value → Option Table
  | none => some table
  | some (.map entries) => some (mergeEntries table entries)
  | some _ => none

/-- All layers laid over each other, unless one is no table. -/
def merged? : Option Table :=
  Source.all.foldlM (fun table source => overlay? table (layers.layer source)) []

/-- The value under a dotted name: the default if there is none, or if it is null. Nothing comes
out if some layer is no table. -/
def get? (key : List Char) (default : Value) : Option Value := do
  let table ← layers.merged?
  match Value.at? (splitAtEach '.' key) (.map table) with
  | none | some .null => return default
  | some v => return v

/-- The section about virtual tags. -/
def tagSection : List Char := rootName ++ ".virtual_tags".toList

/-- The settings of virtual tags, unless some layer is no table. -/
def tagSettings? : Option (Except SettingsError TagSettings) := do
  return TagSettings.ofValue (← layers.get? tagSection (.map []))

/-! ### Laws -/

variable {layers} {source other : Source} {v : Value} {key : List Char}

theorem layer_put_self : (layers.put source v).layer source = some v := by simp [put]

theorem layer_put_of_ne (h : other ≠ source) :
    (layers.put source v).layer other = layers.layer other := by simp [put, h]

theorem set?_layer_of_ne {changed : Layers} (hset : layers.set? key v source = some changed)
    (h : other ≠ source) : changed.layer other = layers.layer other := by
  obtain ⟨_, -, heq⟩ := Option.bind_eq_some_iff.1 hset
  cases heq
  exact layer_put_of_ne h

theorem overlay?_eq_none_iff {table : Table} {layer : Option Value} :
    overlay? table layer = none ↔ ∃ v, layer = some v ∧ v.isTable = false := by
  match layer with
  | none => simp [overlay?]
  | some (.map _) => simp [overlay?, Value.isTable]
  | some .null | some (.bool _) | some (.int _) | some (.float _) | some (.text _)
  | some (.list _) | some (.tuple _) | some (.other _) => simp [overlay?, Value.isTable]

end Layers

end FileSieve
