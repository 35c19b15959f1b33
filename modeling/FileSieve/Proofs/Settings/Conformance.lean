import FileSieve.Proofs.Settings.Precedence
import FileSieve.Settings.Schema

/-!
# Settings that are as a schema says

A schema is checked against a table by going through both at once, and the check stops where the
table has nothing, where a table should be and is not, and at the first mismatch. What it comes to
can be said by the paths of the schema alone: the settings are as the schema says if at every path
where there is a value, the value is of a kind that is admitted there.

* `TypeName.holds_iff`: the kinds of values that are of a type.
* `Schema.mem_walk_iff`: the walk through a schema goes along all of its paths.
* `Schema.firstMismatch?_eq_findSome?`: the mismatch that is found is the first one of the walk.
* `Layers.firstMismatch?_of_reachable`: what the merged settings are checked for, and which mismatch
  is told.
-/

namespace FileSieve

open Text

/-! ### Kinds of values -/

/-- The kinds of values that are of a type: truth values are whole numbers too. -/
def TypeName.kinds : TypeName → List String
  | .int => ["bool", "int"]
  | .other _ _ kinds => kinds
  | type => [type.word]

theorem TypeName.holds_iff {type : TypeName} {v : Value} :
    type.holds v = true ↔ v.kindName ∈ type.kinds := by
  cases v with
  | other x =>
    have hother := x.kindName_notMem
    simp only [ownKinds, List.mem_cons, not_or] at hother
    cases type <;> simp [holds, TypeName.kinds, word, Value.kindName, hother]
  | _ => cases type <;> simp [holds, TypeName.kinds, word, Value.kindName]

namespace Schema

/-- The kinds of values that a schema admits where it stands. -/
def kinds : Schema → List String
  | .one type => type.kinds
  | .anyOf types => types.flatMap (·.kinds)
  | .table _ => TypeName.table.kinds

/-- The value is of a kind that the schema admits. -/
def Admits (schema : Schema) (v : Value) : Prop := v.kindName ∈ schema.kinds

instance (schema : Schema) (v : Value) : Decidable (schema.Admits v) :=
  inferInstanceAs (Decidable (_ ∈ _))

/-- How messages say what is expected. -/
def expected : Schema → List Char
  | .one type => type.word.toList
  | .anyOf types => typesText types
  | .table _ => TypeName.table.word.toList

/-! ### Paths -/

/-- Following a path of names in a schema leads to another one. -/
inductive Leads : List (List Char × Schema) → List (List Char) → Schema → Prop
  /-- To an entry. -/
  | here {entries : List (List Char × Schema)} {name : List Char} {schema : Schema}
      (h : (name, schema) ∈ entries) : Leads entries [name] schema
  /-- Into a table and on from there. -/
  | inside {entries inner : List (List Char × Schema)} {name : List Char}
      {path : List (List Char)} {schema : Schema} (h : (name, .table inner) ∈ entries)
      (hpath : Leads inner path schema) : Leads entries (name :: path) schema

mutual

/-- The paths below a schema and what they lead to, depth first. -/
def walkBelow : Schema → List (List (List Char) × Schema)
  | .one _ => []
  | .anyOf _ => []
  | .table entries => walk entries

/-- The paths of some entries and what they lead to, depth first and in the order of the entries:
first each entry itself, then what is below it. -/
def walk : List (List Char × Schema) → List (List (List Char) × Schema)
  | [] => []
  | (name, schema) :: rest =>
    ([name], schema) :: schema.walkBelow.map (fun (path, inner) => (name :: path, inner)) ++
      walk rest

end

variable {entries rest : List (List Char × Schema)} {name front path : List Char}
  {names : List (List Char)} {schema : Schema} {v : Value} {values : Table}

theorem mem_walk_cons {other : Schema} : (names, schema) ∈ walk ((name, other) :: rest) ↔
    names = [name] ∧ schema = other ∨
      (∃ inner, (inner, schema) ∈ other.walkBelow ∧ name :: inner = names) ∨
      (names, schema) ∈ walk rest := by
  rw [walk]
  simp only [List.cons_append, List.mem_cons, List.mem_append, List.mem_map, Prod.mk.injEq,
    Prod.exists, exists_eq_right_right]

mutual

theorem leads_of_mem_walkBelow : ∀ {schema : Schema} {entry : List (List Char) × Schema},
    entry ∈ schema.walkBelow → ∃ entries, schema = .table entries ∧ Leads entries entry.1 entry.2
  | .table entries, _, h => by
    rw [walkBelow] at h
    exact ⟨entries, rfl, leads_of_mem_walk h⟩
  | .one _, _, h | .anyOf _, _, h => by
    simp [walkBelow] at h

theorem leads_of_mem_walk : ∀ {entries : List (List Char × Schema)}
    {entry : List (List Char) × Schema}, entry ∈ walk entries → Leads entries entry.1 entry.2
  | [], _, h => by
    simp [walk] at h
  | (name, other) :: rest, (names, schema), h => by
    rcases mem_walk_cons.1 h with ⟨rfl, rfl⟩ | ⟨inner, hinner, rfl⟩ | hrest
    · exact .here List.mem_cons_self
    · obtain ⟨entries, rfl, hleads⟩ := leads_of_mem_walkBelow hinner
      exact .inside List.mem_cons_self hleads
    · cases leads_of_mem_walk hrest with
      | here hmem => exact .here (List.mem_cons_of_mem _ hmem)
      | inside hmem hpath => exact .inside (List.mem_cons_of_mem _ hmem) hpath

end

theorem mem_walk_of_mem {other : Schema} (h : (name, other) ∈ entries)
    (hpath : names = [name] ∧ schema = other ∨
      ∃ inner, (inner, schema) ∈ other.walkBelow ∧ name :: inner = names) :
    (names, schema) ∈ walk entries := by
  induction entries with
  | nil => cases h
  | cons first rest ih =>
    obtain ⟨first, schema'⟩ := first
    rw [mem_walk_cons]
    rcases List.mem_cons.1 h with heq | hrest
    · cases heq
      rcases hpath with hhere | hinside
      · exact .inl hhere
      · exact .inr (.inl hinside)
    · exact .inr (.inr (ih hrest))

/-- **The walk goes along all paths of a schema**, and along nothing else. -/
theorem mem_walk_iff : (names, schema) ∈ walk entries ↔ Leads entries names schema := by
  refine ⟨leads_of_mem_walk, fun h => ?_⟩
  induction h with
  | here hmem => exact mem_walk_of_mem hmem (.inl ⟨rfl, rfl⟩)
  | inside hmem _ ih => exact mem_walk_of_mem hmem (.inr ⟨_, by rwa [walkBelow], rfl⟩)

theorem Leads.ne_nil (h : Leads entries names schema) : names ≠ [] := by
  cases h <;> exact List.cons_ne_nil _ _

/-! ### The first mismatch -/

/-- What is wrong at a path of a schema in a value: nothing if there is no value, or one of a kind
that is admitted. -/
def fault? (front : List Char) (v : Value) (entry : List (List Char) × Schema) :
    Option SchemaMismatch :=
  (v.at? entry.1).bind fun w =>
    if entry.2.Admits w then none
    else some ⟨entry.2.expected, front ++ joinWith ['.'] entry.1, w.kindName⟩

theorem fault?_eq_none_iff : fault? front v (names, schema) = none ↔
    ∀ w, v.at? names = some w → schema.Admits w := by
  unfold fault?
  cases v.at? names with
  | none => simp
  | some w => simp

theorem fault?_eq_some_iff {m : SchemaMismatch} : fault? front v (names, schema) = some m ↔
    ∃ w, v.at? names = some w ∧ ¬ schema.Admits w ∧
      m = ⟨schema.expected, front ++ joinWith ['.'] names, w.kindName⟩ := by
  unfold fault?
  cases v.at? names with
  | none => simp
  | some w => by_cases h : schema.Admits w <;> simp [h, eq_comm]

/-- A path that goes on is judged by what is under its first name. -/
theorem fault?_cons (hnames : names ≠ []) :
    fault? front (.map values) (name :: names, schema) =
      (values.find? (.text name)).bind fun v =>
        fault? (front ++ name ++ ['.']) v (names, schema) := by
  unfold fault?
  rw [Value.at?, joinWith_cons hnames]
  cases values.find? (.text name) with
  | none => rfl
  | some v => simp only [Option.bind_some, List.append_assoc]

theorem fault?_single : fault? front (.map values) ([name], schema) =
    (values.find? (.text name)).bind fun v =>
      if schema.Admits v then none else some ⟨schema.expected, front ++ name, v.kindName⟩ := by
  unfold fault?
  rw [Value.at?]
  cases values.find? (.text name) <;> rfl

/-- What is below an entry is judged by what is at the entry. -/
theorem findSome?_walkBelow :
    (schema.walkBelow.map fun (path, inner) => (name :: path, inner)).findSome?
        (fault? front (.map values)) =
      (values.find? (.text name)).bind fun v =>
        schema.walkBelow.findSome? (fault? (front ++ name ++ ['.']) v) := by
  have hfault : ∀ entry ∈ schema.walkBelow, fault? front (.map values) (name :: entry.1, entry.2) =
      (values.find? (.text name)).bind fun v => fault? (front ++ name ++ ['.']) v entry := by
    intro entry hentry
    obtain ⟨_, -, hleads⟩ := leads_of_mem_walkBelow hentry
    exact fault?_cons hleads.ne_nil
  generalize schema.walkBelow = entries at hfault ⊢
  induction entries with
  | nil => cases values.find? (.text name) <;> rfl
  | cons entry rest ih =>
    obtain ⟨hentry, hrest⟩ := List.forall_mem_cons.1 hfault
    rw [List.map_cons, List.findSome?_cons, hentry, ih hrest]
    cases values.find? (.text name) <;> rfl

theorem mismatch?_of_not_table (h : v.isTable = false) :
    mismatch? path v (.table entries) = some ⟨TypeName.table.word.toList, path, v.kindName⟩ := by
  cases v with
  | map values => cases h
  | _ => simp only [mismatch?]

theorem admits_table_iff : (Schema.table entries).Admits v ↔ v.isTable = true := by
  rw [Admits, kinds, ← TypeName.holds_iff]
  cases v <;> simp [TypeName.holds, Value.isTable]

mutual

/-- A value is checked before what is below it. -/
theorem mismatch?_eq : ∀ (schema : Schema) (path : List Char) (v : Value),
    mismatch? path v schema =
      (if schema.Admits v then none else some ⟨schema.expected, path, v.kindName⟩).or
        (schema.walkBelow.findSome? (fault? (path ++ ['.']) v))
  | .one type, path, v => by
    rw [mismatch?, mismatchUnless, walkBelow, List.findSome?_nil, Option.or_none]
    simp only [TypeName.holds_iff]
    rfl
  | .anyOf types, path, v => by
    rw [mismatch?, mismatchUnless, walkBelow, List.findSome?_nil, Option.or_none]
    simp only [List.any_eq_true, TypeName.holds_iff, ← List.mem_flatMap]
    rfl
  | .table entries, path, v => by
    cases hv : v.isTable with
    | true =>
      obtain ⟨values, rfl⟩ := Value.exists_of_isTable hv
      rw [mismatch?, walkBelow, firstMismatch?_eq_findSome? entries, if_pos (admits_table_iff.2 hv)]
      rfl
    | false =>
      rw [mismatch?_of_not_table hv, if_neg (by simp [admits_table_iff, hv])]
      rfl

/-- **The mismatch that is found is the first one of the walk.** -/
theorem firstMismatch?_eq_findSome? : ∀ (entries : List (List Char × Schema)) (front : List Char)
    (values : Table), firstMismatch? front values entries =
      (walk entries).findSome? (fault? front (.map values))
  | [], _, _ => by
    rw [firstMismatch?, walk, List.findSome?_nil]
  | (name, schema) :: rest, front, values => by
    rw [firstMismatch?, walk, List.cons_append, List.findSome?_cons, List.findSome?_append,
      findSome?_walkBelow, fault?_single, firstMismatch?_eq_findSome? rest]
    cases values.find? (.text name) with
    | none => rfl
    | some v =>
      simp only [Option.bind_some, mismatch?_eq schema]
      by_cases hadmits : schema.Admits v
      · rw [if_pos hadmits, Option.none_or]
        cases schema.walkBelow.findSome? (fault? (front ++ name ++ ['.']) v) <;> rfl
      · rw [if_neg hadmits]
        rfl

end

end Schema

/-! ### Merged settings -/

namespace Layers

open Schema

variable {layers : Layers}

/-- **The merged settings are as a schema says when every value at one of its paths is admitted
there**, and otherwise the mismatch that is told is that of the first path of the walk at which a
value is not: what is expected there, the names that lead there, and what kind of value it is. -/
theorem firstMismatch?_of_reachable (h : layers.Reachable)
    (entries : List (List Char × Schema)) :
    ∃ table, layers.merged? = some table ∧
      (firstMismatch? [] table entries = none ↔ ∀ path schema v, Leads entries path schema →
        (Value.map table).at? path = some v → schema.Admits v) ∧
      ∀ m, firstMismatch? [] table entries = some m → ∃ before path schema after v,
        walk entries = before ++ (path, schema) :: after ∧
          (∀ earlier ∈ before, ∀ w, (Value.map table).at? earlier.1 = some w →
            earlier.2.Admits w) ∧
          (Value.map table).at? path = some v ∧ ¬ schema.Admits v ∧
          m = ⟨schema.expected, joinWith ['.'] path, v.kindName⟩ := by
  obtain ⟨table, htable, -⟩ := merged?_eq_overlaid h.keyed
  refine ⟨table, htable, ?_, fun m hm => ?_⟩
  · rw [firstMismatch?_eq_findSome?, List.findSome?_eq_none_iff]
    constructor
    · intro hnone path schema v hleads
      exact fault?_eq_none_iff.1 (hnone _ (mem_walk_iff.2 hleads)) v
    · intro hadmits entry hentry
      exact fault?_eq_none_iff.2 fun w => hadmits _ _ w (mem_walk_iff.1 hentry)
  · rw [firstMismatch?_eq_findSome?, List.findSome?_eq_some_iff] at hm
    obtain ⟨before, ⟨path, schema⟩, after, hwalk, hfault, hbefore⟩ := hm
    obtain ⟨v, hv, hnot, rfl⟩ := fault?_eq_some_iff.1 hfault
    exact ⟨before, path, schema, after, v, hwalk,
      fun earlier hmem => fault?_eq_none_iff.1 (hbefore earlier hmem), hv, hnot, rfl⟩

/-- A truth value is taken for a number, a text is not, and what is wrong after it is not told. -/
theorem firstMismatch?_of_text_for_number :
    let layers := Layers.initial.put .user (.map (Table.of [("tagr", .map (Table.of
      [("virtual_tags", .map (Table.of [("cache_ttl_seconds", .bool true),
        ("time", .map (Table.of [("recent", .text "7".toList)])), ("git", .int 0)]))]))]))
    let entries := [("tagr".toList, Schema.table [("virtual_tags".toList, .table
      [("cache_ttl_seconds".toList, .one .int), ("depth".toList, .one .int),
        ("time".toList, .table [("recent".toList, .anyOf [.int, .float])]),
        ("git".toList, .table [])])])]
    layers.Reachable ∧ ∃ table, layers.merged? = some table ∧
      firstMismatch? [] table entries = some ⟨"(<class 'int'>, <class 'float'>)".toList,
        "tagr.virtual_tags.time.recent".toList, "str"⟩ ∧
      ∃ path schema v, Leads entries path schema ∧ (Value.map table).at? path = some v ∧
        ¬ schema.Admits v ∧ joinWith ['.'] path = "tagr.virtual_tags.time.recent".toList := by
  intro layers entries
  have h : layers.Reachable := .loadTable _ .initial (by decide)
  obtain ⟨table, htable, -, hfirst⟩ := firstMismatch?_of_reachable h entries
  have hm : (layers.merged?.bind fun t => firstMismatch? [] t entries) =
      some ⟨"(<class 'int'>, <class 'float'>)".toList, "tagr.virtual_tags.time.recent".toList,
        "str"⟩ := by
    decide +kernel
  rw [htable, Option.bind_some] at hm
  obtain ⟨before, path, schema, after, v, hwalk, -, hv, hnot, heq⟩ := hfirst _ hm
  have hleads : Leads entries path schema := mem_walk_iff.1 (by rw [hwalk]; simp)
  exact ⟨h, table, htable, hm, path, schema, v, hleads, hv, hnot,
    (congrArg SchemaMismatch.path heq).symm⟩

end Layers

end FileSieve
