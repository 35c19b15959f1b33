import FileSieve.Value

/-!
# Merging tables

A table is laid over another: where both have a table at a key, these are merged, and everywhere
else the upper value stands. Values inside tables are reached along a list of names.

* `mergeValue_table`, `mergeValue_of_not_table`: only two tables are merged.
* `at?_setAt?`: what was set at the end of a path is found there.
-/

namespace FileSieve

/-! ### Merging -/

mutual

/-- A value laid over what was there before. -/
def mergeValue (old : Option Value) : Value → Value
  | .map entries =>
    match old with
    | some (.map base) => .map (mergeEntries base entries)
    | _ => .map entries
  | v => v

/-- A table with entries laid over it, one after the other. -/
def mergeEntries (base : Table) : List (Key × Value) → Table
  | [] => base
  | (k, v) :: rest => mergeEntries (base.put k (mergeValue (base.find? k) v)) rest

end

theorem mergeValue_table {base entries : Table} :
    mergeValue (some (.map base)) (.map entries) = .map (mergeEntries base entries) := by
  simp [mergeValue]

theorem mergeValue_none {v : Value} : mergeValue none v = v := by
  cases v <;> simp [mergeValue]

theorem mergeValue_of_not_table {old : Option Value} {v : Value}
    (h : ∀ entries, v ≠ .map entries) : mergeValue old v = v := by
  cases v with
  | map entries => exact absurd rfl (h entries)
  | _ => simp [mergeValue]

theorem mergeEntries_nil {base : Table} : mergeEntries base [] = base := by
  simp [mergeEntries]

theorem mergeEntries_cons {base : Table} {k : Key} {v : Value} {rest : Table} :
    mergeEntries base ((k, v) :: rest) =
      mergeEntries (base.put k (mergeValue (base.find? k) v)) rest := by
  simp [mergeEntries]

/-! ### Paths -/

namespace Value

/-- The value at the end of a path of names. -/
def at? : List (List Char) → Value → Option Value
  | [], v => some v
  | name :: names, .map entries => (Table.find? (.text name) entries).bind (at? names)
  | _ :: _, _ => none

/-- The value with another one at the end of a path of names. Tables that are missing on the way
are made; nothing comes out if something on the way is no table. -/
def setAt? (new : Value) : List (List Char) → Value → Option Value
  | [], _ => some new
  | name :: names, .map entries =>
    -- what is missing on the way is made
    let old := (Table.find? (.text name) entries).getD
      (if names.isEmpty then .null else .map [])
    (setAt? new names old).map fun v => .map (Table.put (.text name) v entries)
  | _ :: _, _ => none

/-- Is the value a table? -/
def isTable : Value → Bool
  | .map _ => true
  | _ => false

variable {v new : Value}

theorem at?_setAt? {names : List (List Char)} {changed : Value}
    (h : setAt? new names v = some changed) : at? names changed = some new := by
  induction names generalizing v changed with
  | nil => cases h; rfl
  | cons name names ih =>
    cases v with
    | map entries =>
      simp only [setAt?, Option.map_eq_some_iff] at h
      obtain ⟨inner, hinner, rfl⟩ := h
      simp [at?, Table.find?_put_self, ih hinner]
    | _ => cases h

end Value

end FileSieve
