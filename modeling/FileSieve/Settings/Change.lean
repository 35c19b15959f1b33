import FileSieve.Settings.Host

/-!
# Changing layers in place

A change of the layers may fail on the way, and what was done until then is not taken back. A value
is set by going down a layer name by name: a layer or a table that is missing is made as soon as it
is needed, and only then it may turn out that what comes next is no table. A file becomes a layer
after it was read to its end.

* `Value.assign_of_not_table`: where the way ends.
* `Layers.put_of_layer`: a layer that is put where it is already changes nothing.
* `Layers.apply_assign`, `Layers.apply_install`: what a change comes to.
-/

namespace FileSieve

open Text

/-! ### Values -/

/-- Why nothing is set under a name in a value that is no table. -/
inductive AssignFault where
  /-- The value has no parts, so it cannot be asked for a name. -/
  | notSearchable
  /-- The name is among the parts, but these are not found by names. -/
  | notLookedUp
  /-- Nothing can be put under a name. -/
  | notAssignable
  deriving DecidableEq, Repr

/-- Does a text occur in another one? -/
def occursIn (part : List Char) : List Char → Bool
  | [] => part.isEmpty
  | c :: rest => part.isPrefixOf (c :: rest) || occursIn part rest

namespace Value

/-- Is a name among the parts of a value? Nothing, if the value has no parts. -/
def hasPart? (name : List Char) : Value → Option Bool
  | .text s => some (occursIn name s)
  | .list items | .tuple items => some (items.any fun
    | .text s => s = name
    | _ => false)
  | .map entries => some (Table.find? (.text name) entries).isSome
  | .other x => x.texts?.map (·.contains name)
  | _ => none

/-- Why nothing is set under a name in a value that is no table. If further names follow, the value
is first asked for the name, and what is found or made there would be gone on with. -/
def assignFault (v : Value) (name : List Char) (isLast : Bool) : AssignFault :=
  if isLast then .notAssignable
  else
    match v.hasPart? name with
    | none => .notSearchable
    | some true => .notLookedUp
    | some false => .notAssignable

/-- What is left of a value when another one is set in it at the end of a path of names, and why
that failed if it did. -/
def assign (new : Value) : List (List Char) → Value → Value × Option AssignFault
  | [], _ => (new, none)
  | name :: names, .map entries =>
    -- a table that is missing on the way is made, and stays whatever comes of it
    let made :=
      if names.isEmpty || (Table.find? (.text name) entries).isSome then entries
      else Table.put (.text name) (.map []) entries
    let (inner, fault?) := assign new names ((Table.find? (.text name) made).getD .null)
    (.map (Table.put (.text name) inner made), fault?)
  | name :: names, v => (v, some (v.assignFault name names.isEmpty))

variable {v new : Value} {name : List Char} {names : List (List Char)}

theorem assign_of_not_table (h : v.isTable = false) :
    assign new (name :: names) v = (v, some (v.assignFault name names.isEmpty)) := by
  cases v with
  | map entries => cases h
  | _ => rfl

end Value

/-! ### Layers -/

/-- A change of the layers that may fail. What was changed before a failure stays changed. -/
abbrev Change (ε : Type) := ExceptT ε (StateM Layers)

/-- What comes of a change: whether it failed, and the layers afterwards. -/
def Change.apply {ε : Type} (change : Change ε Unit) (layers : Layers) : Except ε Unit × Layers :=
  Id.run (StateT.run (ExceptT.run change) layers)

namespace Layers

/-- The layer of a source; one that is missing counts as a table without entries. -/
def tableOf (layers : Layers) (source : Source) : Value := (layers.layer source).getD (.map [])

/-- Makes what is left of a value the layer of a source, and fails if setting it did. -/
def leave (source : Source) : Value × Option AssignFault → Change AssignFault Unit
  | (left, none) => modify (·.put source left)
  | (left, some fault) => do
    modify (·.put source left)
    throw fault

/-- Sets a value under a dotted name in the layer of a source. -/
def assign (key : List Char) (v : Value) (source : Source) : Change AssignFault Unit := do
  let old := (← get).tableOf source
  -- from here on there is a layer, even if nothing can be set in it
  modify (·.put source old)
  leave source (Value.assign v (splitAtEach '.' key) old)

/-- Makes the table in a file the layer of a source. -/
def install (host : Host) (path : List Char) (source : Source) : Change LoadError Unit := do
  match host.readFile path with
  | .ok table => modify (·.put source (.map table))
  | .error fault => throw fault

/-! ### Laws -/

variable {layers : Layers} {source : Source} {v w : Value} {key path : List Char}
  {host : Host}

theorem tableOf_of_layer (h : layers.layer source = some v) : layers.tableOf source = v := by
  rw [tableOf, h]
  rfl

theorem put_put : (layers.put source v).put source w = layers.put source w := by
  simp only [put, mk.injEq]
  funext other
  split <;> rfl

/-- A layer that is put where it is already changes nothing. -/
theorem put_of_layer (h : layers.layer source = some v) : layers.put source v = layers := by
  unfold put
  congr
  funext other
  split
  · rename_i heq
    rw [heq, h]
  · rfl

/-- Setting a value fails where the way down ends, and the layer is left as that left it. -/
theorem apply_assign : (assign key v source).apply layers =
    ((Value.assign v (splitAtEach '.' key) (layers.tableOf source)).2.elim (.ok ()) .error,
      layers.put source (Value.assign v (splitAtEach '.' key) (layers.tableOf source)).1) := by
  have hleave : (assign key v source).apply layers =
      (leave source (Value.assign v (splitAtEach '.' key) (layers.tableOf source))).apply
        (layers.put source (layers.tableOf source)) := rfl
  rw [hleave]
  rcases Value.assign v (splitAtEach '.' key) (layers.tableOf source) with ⟨left, _ | fault⟩
  · exact congrArg (Except.ok (), ·) put_put
  · exact congrArg (Except.error fault, ·) put_put

theorem apply_install : (install host path source).apply layers =
    match host.readFile path with
    | .ok table => (.ok (), layers.put source (.map table))
    | .error fault => (.error fault, layers) := by
  unfold install Change.apply
  cases host.readFile path <;> rfl

end Layers

end FileSieve
