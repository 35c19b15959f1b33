import FileSieve.Proofs.Settings.Precedence
import FileSieve.Proofs.Settings.Variables
import FileSieve.Settings.Change
import FileSieve.Settings.HomeFolder

/-!
# Changes that fail

Setting a value goes down a layer name by name, and makes what is missing on the way. Below a table
that was just made nothing is in the way, so a value that cannot be set stops before anything was
made: a change that fails leaves no trace.

* `Value.assign_nothing`: below a table that was just made, every value can be set.
* `Value.assign_faults_iff`: setting a value fails if something that is no table is on the way.
* `Value.assign_of_fault`: a value in which nothing could be set is left as it was.
* `Layers.set?_eq_some_iff`, `Layers.load_eq_ok_iff`: what a change leaves if it does not fail.
* `Layers.unchanged_of_failure`: a change that fails leaves all layers as they were.
-/

namespace FileSieve

open Text

/-! ### Values -/

theorem Table.put_put {table : Table} {a : List Char} {v w : Value} :
    put (.text a) v (put (.text a) w table) = put (.text a) v table := by
  induction table with
  | nil => simp [put, Key.same_text]
  | cons first rest ih =>
    obtain ⟨k, old⟩ := first
    by_cases hk : k.same (.text a) = true
    · simp [put, hk]
    · simp [put, hk, ih]

namespace Value

variable {new v : Value} {name : List Char} {names : List (List Char)} {entries : Table}

/-- The value that the way down goes on in, below a name: the one that is there or, if there is
none, a new table, as long as further names follow. -/
def nextPart (name : List Char) (names : List (List Char)) (entries : Table) : Value :=
  (Table.find? (.text name) entries).getD (if names.isEmpty then .null else .map [])

/-- The way down through a table goes on below the first name, and what is left there stays. -/
theorem assign_table : assign new (name :: names) (.map entries) =
    (.map (Table.put (.text name) (assign new names (nextPart name names entries)).1 entries),
      (assign new names (nextPart name names entries)).2) := by
  unfold nextPart
  cases hfind : Table.find? (.text name) entries with
  | some w =>
    simp only [assign, hfind, Option.isSome_some, Bool.or_true, if_true, Option.getD_some]
  | none =>
    cases names with
    | nil => simp only [assign, List.isEmpty_nil, Bool.true_or, if_true]
    | cons next names =>
      -- the new table is put in first, and then what is left of it
      simp only [assign, hfind, List.isEmpty_cons, Option.isSome_none, Bool.or_self,
        Bool.false_eq_true, if_false, Table.find?_put_self, Option.getD_some, Option.getD_none,
        Table.put_put]

/-- Below a table that was just made, every value can be set. -/
theorem assign_nothing (names : List (List Char)) : (assign new names (.map [])).2 = none := by
  induction names with
  | nil => rfl
  | cons name names ih =>
    rw [assign_table]
    cases names with
    | nil => rfl
    | cons next names => exact ih

theorem assign_of_missing (h : Table.find? (.text name) entries = none) :
    (assign new names (nextPart name names entries)).2 = none := by
  rw [nextPart, h]
  cases names with
  | nil => rfl
  | cons next names => exact assign_nothing (next :: names)

/-- **Setting a value fails if something that is no table is on the way.** -/
theorem assign_faults_iff : (assign new names v).2.isSome ↔ v.Shadows names := by
  induction names generalizing v with
  | nil => exact iff_of_false (by simp [assign]) not_shadows_nil
  | cons name names ih =>
    cases hshape : v.isTable with
    | false =>
      rw [assign_of_not_table hshape]
      exact iff_of_true rfl (shadows_cons_of_not_table hshape)
    | true =>
      obtain ⟨entries, rfl⟩ := exists_of_isTable hshape
      rw [shadows_cons, assign_table]
      cases hfind : Table.find? (.text name) entries with
      | none => simp [assign_of_missing hfind]
      | some w =>
        rw [ih, nextPart, hfind]
        simp

/-- **A value in which nothing could be set is left as it was.** -/
theorem assign_of_fault {fault : AssignFault} (h : (assign new names v).2 = some fault) :
    (assign new names v).1 = v := by
  induction names generalizing v with
  | nil => cases h
  | cons name names ih =>
    cases hshape : v.isTable with
    | false => rw [assign_of_not_table hshape]
    | true =>
      obtain ⟨entries, rfl⟩ := exists_of_isTable hshape
      rw [assign_table] at h ⊢
      cases hfind : Table.find? (.text name) entries with
      | none =>
        -- nothing is in the way of the tables that are made, so none of them is left behind
        rw [assign_of_missing hfind] at h
        cases h
      | some w =>
        have hnext : nextPart name names entries = w := by rw [nextPart, hfind]; rfl
        rw [ih h, hnext, Table.put_of_find? hfind]

/-- What comes of setting a value is what the way down leaves, if it comes to its end. -/
theorem setAt?_eq_some_iff {changed : Value} :
    setAt? new names v = some changed ↔ assign new names v = (changed, none) := by
  induction names generalizing v changed with
  | nil => simp [setAt?, assign]
  | cons name names ih =>
    cases hshape : v.isTable with
    | false =>
      rw [assign_of_not_table hshape]
      cases v with
      | map entries => cases hshape
      | _ => simp [setAt?]
    | true =>
      obtain ⟨entries, rfl⟩ := exists_of_isTable hshape
      rw [assign_table, setAt?, Prod.mk.injEq, Option.map_eq_some_iff]
      constructor
      · rintro ⟨inner, hinner, rfl⟩
        have hassign := ih.1 hinner
        rw [nextPart, hassign]
        exact ⟨rfl, rfl⟩
      · rintro ⟨hleft, hnone⟩
        exact ⟨_, ih.2 (Prod.ext rfl hnone), hleft⟩

end Value

/-! ### Layers -/

namespace Layers

variable {layers changed : Layers} {key path : List Char} {v : Value} {source : Source}
  {host : Host}

/-- The layers with a value set are those that the change leaves. -/
theorem set?_eq_some_iff :
    layers.set? key v source = some changed ↔
      (assign key v source).apply layers = (.ok (), changed) := by
  have hset : layers.set? key v source =
      (Value.setAt? v (splitAtEach '.' key) (layers.tableOf source)).map
        (layers.put source) := by
    rw [set?, Option.map_eq_bind]
    rfl
  rw [hset, apply_assign, Option.map_eq_some_iff]
  simp only [Value.setAt?_eq_some_iff]
  rcases Value.assign v (splitAtEach '.' key) (layers.tableOf source)
    with ⟨left, _ | fault⟩ <;> simp

/-- The layers with a file loaded are those that the change leaves. -/
theorem load_eq_ok_iff :
    layers.load host path source = .ok changed ↔
      (install host path source).apply layers = (.ok (), changed) := by
  rw [apply_install, load, bind_eq_ok_iff]
  cases host.readFile path with
  | ok table => simp [pure, Except.pure]
  | error fault => simp

/-- The layer of a source is in the way of a dotted name when it holds something that is no table
on the way to its end. -/
def Blocks (layers : Layers) (names : List (List Char)) (source : Source) : Prop :=
  ∃ v, layers.layer source = some v ∧ v.Shadows names

/-- A layer that is missing is in the way of nothing. -/
theorem assign_faults_iff :
    (Value.assign v (splitAtEach '.' key) (layers.tableOf source)).2.isSome ↔
      layers.Blocks (splitAtEach '.' key) source := by
  unfold Blocks
  cases hlayer : layers.layer source with
  | none => simp [tableOf, hlayer, Value.assign_nothing]
  | some old => simp [tableOf_of_layer hlayer, Value.assign_faults_iff]

/-- Where setting a value fails, the layer was there before, and it is left as it was. -/
theorem apply_assign_eq_error {fault : AssignFault}
    (h : (assign key v source).apply layers = (.error fault, changed)) : changed = layers := by
  rw [apply_assign] at h
  cases hfault :
    (Value.assign v (splitAtEach '.' key) (layers.tableOf source)).2 with
  | none =>
    rw [hfault] at h
    cases h
  | some other =>
    obtain ⟨old, hlayer, -⟩ := assign_faults_iff.1 (Option.isSome_of_eq_some hfault)
    obtain ⟨-, hchanged⟩ := Prod.mk.inj h
    rw [← hchanged, Value.assign_of_fault hfault, tableOf_of_layer hlayer, put_of_layer hlayer]

theorem apply_install_eq_error {fault : LoadError}
    (h : (install host path source).apply layers = (.error fault, changed)) :
    changed = layers := by
  rw [apply_install] at h
  cases hread : host.readFile path with
  | ok table =>
    rw [hread] at h
    cases h
  | error fault =>
    rw [hread] at h
    cases h
    rfl

/-- **A change that fails leaves all layers as they were.** A value cannot be set if and only if the
layer holds something that is no table on the way to it, and a file becomes no layer if and only if
it cannot be read; in both cases there is not even a trace of what was begun. -/
theorem unchanged_of_failure (layers : Layers) :
    (∀ key v source,
      ((∃ fault, ((assign key v source).apply layers).1 = .error fault) ↔
        layers.Blocks (splitAtEach '.' key) source) ∧
      ∀ fault after, (assign key v source).apply layers = (.error fault, after) →
        after = layers) ∧
    ∀ host path source,
      (∀ fault, ((install host path source).apply layers).1 = .error fault ↔
        host.readFile path = .error fault) ∧
      ∀ fault after, (install host path source).apply layers = (.error fault, after) →
        after = layers := by
  refine ⟨fun key v source => ⟨?_, fun fault after h => ?_⟩,
    fun host path source => ⟨fun fault => ?_, fun fault after h => ?_⟩⟩
  · rw [← assign_faults_iff (v := v), apply_assign]
    cases (Value.assign v (splitAtEach '.' key) (layers.tableOf source)).2 with
    | none => simp
    | some fault => simp
  · exact apply_assign_eq_error h
  · rw [apply_install]
    cases host.readFile path <;> simp
  · exact apply_install_eq_error h

/-- A text is in the way, and a file is no text: nothing is set, and nothing is loaded. -/
theorem unchanged_of_text :
    let layers := Layers.initial.put .user (.map [(.text ['a'], .text "bc".toList)])
    let host := HomeFolder.host [("c.yaml".toList, .file [255])]
    layers.Blocks (splitAtEach '.' "a.b.c".toList) .user ∧
      (assign "a.b.c".toList .null .user).apply layers = (.error .notLookedUp, layers) ∧
      (install host "c.yaml".toList .user).apply layers = (.error .notText, layers) := by
  intro layers host
  have hset : ((assign "a.b.c".toList .null .user).apply layers).1 = .error .notLookedUp := rfl
  have hload : ((install host "c.yaml".toList .user).apply layers).1 = .error .notText := by
    rfl
  obtain ⟨hassign, hinstall⟩ := unchanged_of_failure layers
  refine ⟨(hassign _ _ _).1.1 ⟨_, hset⟩, Prod.ext hset ?_, Prod.ext hload ?_⟩
  · exact (hassign _ _ _).2 _ _ (Prod.ext hset rfl)
  · exact (hinstall _ _ _).2 _ _ (Prod.ext hload rfl)

end Layers

end FileSieve
