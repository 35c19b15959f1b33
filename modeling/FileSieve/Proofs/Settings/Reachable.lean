import FileSieve.Proofs.Outcome
import FileSieve.Proofs.Settings.Keyed
import FileSieve.Settings.HomeFolder

/-!
# Layers that can come about

Layers change one step at a time: tables and files are loaded, the environment is read, values are
set, and layers are cleared. A step that fails changes nothing.

* `Yaml.isKeyed_read`, `HomeFolder.keepsKeys_host`: the tables that `Yaml.read` gives have no
  repeated keys.
* `Host.KeepsKeys.isKeyed_readFile`: on a host whose tables have none, this is true of settings
  files.
* `Layers.Reachable`: the layers that some steps lead to.
* `Layers.Reachable.keyed`: every layer that can come about is a table without repeated keys.
-/

namespace FileSieve

open Text

/-! ### Files -/

namespace Yaml

theorem isTable_ofPlain {s : List Char} {v : Value} (h : ofPlain s = .ok v) :
    v.isTable = false := by
  unfold ofPlain at h
  simp only at h
  split at h
  · cases h; rfl
  split at h
  · cases h; rfl
  split at h
  · cases h; rfl
  split at h
  · cases h
  split at h
  · cases h; rfl
  · obtain ⟨n, -, h⟩ := bind_eq_ok_iff.1 h
    cases h; rfl
  · cases h; rfl

namespace Node

mutual

theorem isKeyed_value : ∀ {node : Node} {v : Value}, node.value = .ok v → v.isKeyed = true
  | .scalar _ true, _, h => by
    rw [value] at h
    exact Value.isKeyed_of_not_table (isTable_ofPlain h)
  | .scalar _ false, _, h => by
    rw [value] at h
    cases h
    exact Value.isKeyed_of_not_table rfl
  | .list _, _, h => by
    rw [value] at h
    obtain ⟨items, -, h⟩ := bind_eq_ok_iff.1 h
    cases h
    exact Value.isKeyed_of_not_table rfl
  | .mapping entries, _, h => by
    rw [value] at h
    obtain ⟨t, ht, h⟩ := bind_eq_ok_iff.1 h
    cases h
    rw [Value.isKeyed_map]
    exact isKeyed_table Table.isKeyed_nil ht

theorem isKeyed_table : ∀ {entries : List (Node × Node)} {old t : Table},
    Table.isKeyed old = true → table old entries = .ok t → Table.isKeyed t = true
  | [], _, _, hold, h => by
    rw [table] at h
    cases h
    exact hold
  | (_, _) :: _, _, _, hold, h => by
    rw [table.eq_def] at h
    simp only at h
    -- however the key is read, one value is put into the table
    obtain ⟨key, w, hw, h⟩ : ∃ key w, value _ = .ok w ∧ table (Table.put key w _) _ = .ok _ := by
      split at h
      · obtain ⟨key, -, h⟩ := bind_eq_ok_iff.1 h
        obtain ⟨w, hw, h⟩ := bind_eq_ok_iff.1 h
        exact ⟨key, w, hw, h⟩
      · obtain ⟨_, -, h⟩ := bind_eq_ok_iff.1 h
        obtain ⟨key, -, h⟩ := bind_eq_ok_iff.1 h
        obtain ⟨w, hw, h⟩ := bind_eq_ok_iff.1 h
        exact ⟨key, w, hw, h⟩
    exact isKeyed_table (Table.isKeyed_put hold (isKeyed_value hw)) h

end

end Node

/-- The tables of a document have no repeated keys. -/
theorem isKeyed_read {s : List Char} {v : Value} (h : read s = .ok v) : v.isKeyed = true := by
  unfold read at h
  split at h
  · obtain ⟨tokens, -, h⟩ := bind_eq_ok_iff.1 h
    obtain ⟨node, -, h⟩ := bind_eq_ok_iff.1 h
    exact Node.isKeyed_value h
  · cases h

end Yaml

/-- The tables that documents stand for have no repeated keys. -/
def Host.KeepsKeys (host : Host) : Prop :=
  ∀ text v, host.yaml text = .ok v → v.isKeyed = true

theorem HomeFolder.keepsKeys_host (home : HomeFolder) : home.host.KeepsKeys :=
  fun _ _ h => Yaml.isKeyed_read h

theorem Host.KeepsKeys.isKeyed_load {host : Host} (hhost : host.KeepsKeys) {bytes : List UInt8}
    {v : Value} (h : host.load bytes = .ok v) : v.isKeyed = true := by
  unfold load at h
  split at h
  · rename_i text _
    cases hread : host.yaml text with
    | error e =>
      rw [hread] at h
      cases h
    | ok w =>
      rw [hread] at h
      cases h
      exact hhost text _ hread
  · cases h

theorem Host.KeepsKeys.isKeyed_readFile {host : Host} (hhost : host.KeepsKeys) {path : List Char}
    {t : Table} (h : host.readFile path = .ok t) : Table.isKeyed t = true := by
  obtain ⟨place, -, h⟩ := bind_eq_ok_iff.1 h
  unfold readAt at h
  split at h
  · cases h
  · cases h
  split at h
  · cases h
  obtain ⟨v, hv, h⟩ := bind_eq_ok_iff.1 h
  cases v with
  | map entries =>
    cases h
    rw [← Value.isKeyed_map]
    exact hhost.isKeyed_load hv
  | _ => cases h

/-! ### Steps -/

namespace Layers

/-- The layers that some steps lead to. Steps that fail are left out, as they change nothing. -/
inductive Reachable : Layers → Prop
  /-- Only what is built in. -/
  | initial : Reachable .initial
  /-- A table is loaded. -/
  | loadTable {layers : Layers} {t : Table} (source : Source) :
      Reachable layers → Table.isKeyed t = true → Reachable (layers.put source (.map t))
  /-- A file is loaded. -/
  | loadFile {layers loaded : Layers} {host : Host} {path : List Char} {source : Source} :
      Reachable layers → host.KeepsKeys → layers.load host path source = .ok loaded →
        Reachable loaded
  /-- The environment is read. -/
  | loadEnvironment {layers : Layers} (environment : Environment.Variables) :
      Reachable layers → Reachable (layers.loadEnvironment environment)
  /-- A value is set. -/
  | set {layers changed : Layers} {key : List Char} {v : Value} {source : Source} :
      Reachable layers → v.isKeyed = true → layers.set? key v source = some changed →
        Reachable changed
  /-- The layer of a source is cleared. -/
  | clearSource {layers : Layers} (source : Source) :
      Reachable layers → Reachable (layers.clearSource source)
  /-- All layers are cleared. -/
  | clear {layers : Layers} : Reachable layers → Reachable layers.clear

/-- Every layer is a table without repeated keys. -/
def Keyed (layers : Layers) : Prop :=
  ∀ source v, layers.layer source = some v → ∃ t, v = .map t ∧ Table.isKeyed t = true

variable {layers changed : Layers} {source : Source} {t : Table}

/-- What a process starts with can come about. -/
theorem Reachable.of_start {host : Host} (hhost : host.KeepsKeys) {path : List Char}
    {environment : Environment.Variables} (h : start host path environment = .ok layers) :
    layers.Reachable := by
  unfold start at h
  split at h
  · cases h; exact .loadEnvironment environment .initial
  · obtain ⟨loaded, hloaded, h⟩ := bind_eq_ok_iff.1 h
    cases h
    exact .loadEnvironment environment (.loadFile .initial hhost hloaded)

theorem Keyed.isKeyed_layer (h : layers.Keyed) {v : Value} (hlayer : layers.layer source = some v) :
    v.isKeyed = true := by
  obtain ⟨t, rfl, ht⟩ := h source v hlayer
  rw [Value.isKeyed_map]
  exact ht

theorem keyed_initial : Keyed .initial := by
  intro source v h
  change (if source = .builtIn then some (.map builtInTable) else none) = some v at h
  split at h
  · cases h
    exact ⟨builtInTable, rfl, by decide⟩
  · cases h

theorem Keyed.put (h : layers.Keyed) (ht : Table.isKeyed t = true) :
    (layers.put source (.map t)).Keyed := by
  intro other v hv
  by_cases hother : other = source
  · rw [hother, layer_put_self] at hv
    cases hv
    exact ⟨t, rfl, ht⟩
  · rw [layer_put_of_ne hother] at hv
    exact h other v hv

theorem Keyed.load (h : layers.Keyed) {host : Host} (hhost : host.KeepsKeys) {path : List Char}
    (hload : layers.load host path source = .ok changed) : changed.Keyed := by
  obtain ⟨t, ht, hload⟩ := bind_eq_ok_iff.1 hload
  cases hload
  exact h.put (hhost.isKeyed_readFile ht)

theorem Keyed.loadEnvironment (h : layers.Keyed) (environment : Environment.Variables) :
    (layers.loadEnvironment environment).Keyed := by
  unfold Layers.loadEnvironment
  simp only
  split
  · exact h
  · refine h.put (Table.isKeyed_cons.2 ⟨by simp, ?_, Table.isKeyed_nil⟩)
    rw [Value.isKeyed_map]
    exact Environment.isKeyed_settings environment

theorem Keyed.set (h : layers.Keyed) {key : List Char} {v : Value} (hv : v.isKeyed = true)
    (hset : layers.set? key v source = some changed) : changed.Keyed := by
  obtain ⟨new, hnew, hset⟩ := Option.bind_eq_some_iff.1 hset
  cases hset
  have hold : ∃ t, (layers.layer source).getD (.map []) = .map t ∧ Table.isKeyed t = true := by
    cases hlayer : layers.layer source with
    | none => exact ⟨[], rfl, Table.isKeyed_nil⟩
    | some old => exact h source old hlayer
  obtain ⟨t, ht, hkeyed⟩ := hold
  rw [ht] at hnew
  have hkeep : new.isKeyed = true :=
    Value.isKeyed_setAt? (by rw [Value.isKeyed_map]; exact hkeyed) hv hnew
  -- a dotted name has a first part, so what is set lies inside a table
  cases hparts : splitAtEach '.' key with
  | nil => exact absurd hparts splitAtEach_ne_nil
  | cons name names =>
    rw [hparts] at hnew
    obtain ⟨inner, -, rfl⟩ := Option.map_eq_some_iff.1 hnew
    rw [Value.isKeyed_map] at hkeep
    exact h.put hkeep

theorem Keyed.clearSource (h : layers.Keyed) (source : Source) :
    (layers.clearSource source).Keyed := by
  intro other v hv
  change (if other = source ∧ other ≠ .builtIn then none else layers.layer other) = some v at hv
  split at hv
  · cases hv
  · exact h other v hv

theorem Keyed.clear (h : layers.Keyed) : layers.clear.Keyed := by
  intro other v hv
  change (if other = .builtIn then layers.layer other else none) = some v at hv
  split at hv
  · exact h other v hv
  · cases hv

/-- **Every layer that can come about is a table without repeated keys.** -/
theorem Reachable.keyed (h : layers.Reachable) : layers.Keyed := by
  induction h with
  | initial => exact keyed_initial
  | loadTable source _ ht ih => exact ih.put ht
  | loadFile _ hhost hload ih => exact ih.load hhost hload
  | loadEnvironment environment _ ih => exact ih.loadEnvironment environment
  | set _ hv hset ih => exact ih.set hv hset
  | clearSource source _ ih => exact ih.clearSource source
  | clear _ ih => exact ih.clear

end Layers

end FileSieve
