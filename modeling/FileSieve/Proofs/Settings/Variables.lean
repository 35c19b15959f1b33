import FileSieve.Proofs.Settings.Keyed
import FileSieve.Settings.Host
import Mathlib.Data.List.Infix

/-!
# Settings of variables

The variables of a process come in no particular order, and the path of one may go on below that of
another. Whatever the order, a variable counts unless there is another one on the way to its place,
and the layer of the environment holds what counts and nothing else.

* `Environment.lowerText_eq_of_variablePath?`: variables of the same path are named alike but for
  capitals.
* `placeAt_insertAt`, `insertAt_of_blocked`: what a table holds after a value was put at a path.
* `Holds.insertAt`: with one more binding, the table holds the bindings that stand.
* `Layers.place_loadEnvironment_of_perm`: the layer of the environment holds the variables that
  count, in whatever order they come.
-/

namespace FileSieve

open Text

/-! ### Names of variables -/

namespace Text

variable {s before : List Char}

theorem caseFollows_append_lowLine (before rest : List Char) :
    caseFollows (before ++ '_' :: rest) = caseFollows before := by
  have hmark : inRanges caseIgnorableRanges '_'.toNat = false := by decide +kernel
  have hletter : inRanges casedRanges '_'.toNat = false := by decide +kernel
  induction before with
  | nil => simp only [List.nil_append, caseFollows, hmark, hletter, Bool.false_eq_true, if_false]
  | cons c before ih => simp only [List.cons_append, caseFollows, ih]

/-- What is before a low line has no say in the letters after it. -/
theorem lowerAfter_append_lowLine (before rest : List Char) :
    lowerAfter (before ++ '_' :: rest) s = lowerAfter before s := by
  induction s generalizing before with
  | nil => rfl
  | cons c s ih =>
    have hcontext : lowerInContext (before ++ '_' :: rest) c s = lowerInContext before c s := by
      simp only [lowerInContext, caseFollows_append_lowLine]
    rw [lowerAfter, lowerAfter, hcontext, ← List.cons_append, ih]

end Text

namespace Environment

variable {s name other : List Char} {path : List (List Char)}

theorem splitAtDouble_ne_nil : splitAtDouble s ≠ [] := by
  fun_cases splitAtDouble s <;> simp_all

/-- The pieces between double low lines, joined again. -/
theorem joinWith_splitAtDouble (s : List Char) : joinWith ['_', '_'] (splitAtDouble s) = s := by
  fun_induction splitAtDouble s with
  | case1 => rfl
  | case2 rest ih =>
    rw [joinWith_cons splitAtDouble_ne_nil, ih]
    rfl
  | case3 c rest _ hnil => exact absurd hnil splitAtDouble_ne_nil
  | case4 c rest _ piece pieces hsplit ih =>
    rw [hsplit] at ih
    rw [← ih]
    cases pieces <;> rfl

theorem lowerText_namePrefix_append (s : List Char) :
    lowerText (namePrefix ++ s) = "tagr_".toList ++ lowerText s := by
  -- the prefix ends with a low line
  have hlower : lowerText (namePrefix ++ s) = "tagr_".toList ++ lowerAfter "_RGAT".toList s := rfl
  rw [hlower, lowerText]
  exact congrArg ("tagr_".toList ++ ·) (lowerAfter_append_lowLine [] _)

theorem variablePath?_eq_some (h : variablePath? name = some path) :
    ∃ rest, name = namePrefix ++ rest ∧ path = splitAtDouble (lowerText rest) := by
  obtain ⟨rest, hrest, h⟩ := Option.bind_eq_some_iff.1 h
  refine ⟨rest, dropStart?_eq_some_iff.1 hrest, ?_⟩
  simp only at h
  split at h
  · cases h
    rfl
  · cases h

theorem variablePath?_ne_nil (h : variablePath? name = some path) : path ≠ [] := by
  obtain ⟨rest, -, rfl⟩ := variablePath?_eq_some h
  exact splitAtDouble_ne_nil

/-- Variables of the same path are named alike but for capitals. -/
theorem lowerText_eq_of_variablePath? (h : variablePath? name = some path)
    (hother : variablePath? other = some path) : lowerText name = lowerText other := by
  obtain ⟨a, rfl, ha⟩ := variablePath?_eq_some h
  obtain ⟨b, rfl, hb⟩ := variablePath?_eq_some hother
  rw [lowerText_namePrefix_append, lowerText_namePrefix_append, ← joinWith_splitAtDouble
    (lowerText a), ← ha, hb, joinWith_splitAtDouble]

end Environment

/-! ### Places -/

/-- What stands at a place: nothing, a table, or another value. -/
inductive Place where
  | empty
  | table
  | plain (v : Value)

/-- What stands at a place is known from which value it is, if any, and whether it is a table. -/
theorem Place.eq_of_iff {a b : Place} (hplain : ∀ v, a = .plain v ↔ b = .plain v)
    (htable : a = .table ↔ b = .table) : a = b := by
  cases b with
  | table => exact htable.2 rfl
  | plain v => exact (hplain v).2 rfl
  | empty =>
    cases a with
    | empty => rfl
    | table => cases htable.1 rfl
    | plain v => cases (hplain v).1 rfl

/-- What stands at the end of a row of keys. -/
def Value.placeAt : List Key → Value → Place
  | [], .map _ => .table
  | [], v => .plain v
  | key :: keys, .map entries =>
    match Table.find? key entries with
    | none => .empty
    | some v => placeAt keys v
  | _ :: _, _ => .empty

variable {table : Table} {v w : Value} {key : Key} {keys : List Key} {name : List Char}
  {path : List (List Char)}

namespace Value

theorem placeAt_nil (h : v.isTable = false) : v.placeAt [] = .plain v := by
  cases v with
  | map entries => cases h
  | _ => rfl

theorem placeAt_cons_of_not_table (h : v.isTable = false) : v.placeAt (key :: keys) = .empty := by
  cases v with
  | map entries => cases h
  | _ => rfl

theorem placeAt_nothing_cons : (map []).placeAt (key :: keys) = .empty := rfl

theorem placeAt_cons : (map table).placeAt (key :: keys) =
    match table.find? key with
    | none => .empty
    | some v => v.placeAt keys := rfl

end Value

namespace Table

theorem find?_put_text : find? key (put (.text name) v table) =
    if key = .text name then some v else find? key table := by
  split
  · rename_i hkey
    rw [hkey, find?_put_self]
  · rename_i hkey
    induction table with
    | nil => simp [put, find?, Key.text_same_of_ne hkey]
    | cons first rest ih =>
      obtain ⟨k, old⟩ := first
      by_cases hname : k = .text name
      · subst hname
        simp [put, find?, Key.same_text, Key.text_same_of_ne hkey]
      · simp [put, find?, same_text_right, hname, ih]

/-- Putting in what is there already changes nothing. -/
theorem put_of_find? (h : find? key table = some v) : put key v table = table := by
  induction table with
  | nil => cases h
  | cons first rest ih =>
    obtain ⟨k, old⟩ := first
    rw [find?] at h
    rw [put]
    split
    · rename_i hsame
      rw [if_pos hsame] at h
      cases h
      rfl
    · rename_i hsame
      rw [if_neg hsame] at h
      rw [ih h]

end Table

/-! ### Putting a value at a path -/

/-- The keys of a path of names. -/
def keysOf (path : List (List Char)) : List Key := path.map .text

/-- Something that is no table stands on the way to the end of the keys. -/
def Table.Blocks (table : Table) (keys : List Key) : Prop :=
  ∃ front, front <+: keys ∧ front ≠ keys ∧ ∃ w, (Value.map table).placeAt front = .plain w

namespace Environment

theorem blocks_cons {inner : Table} (hfind : table.find? key = some (.map inner)) :
    table.Blocks (key :: keys) ↔ inner.Blocks keys := by
  constructor
  · rintro ⟨front, hfront, hne, w, hw⟩
    cases front with
    | nil => cases hw
    | cons first front =>
      obtain ⟨rfl, hrest⟩ := List.cons_prefix_cons.1 hfront
      rw [Value.placeAt_cons, hfind] at hw
      exact ⟨front, hrest, fun heq => hne (by rw [heq]), w, hw⟩
  · rintro ⟨front, hfront, hne, w, hw⟩
    refine ⟨key :: front, List.cons_prefix_cons.2 ⟨rfl, hfront⟩, ?_, w, ?_⟩
    · intro heq
      exact hne (List.cons.inj heq).2
    · rw [Value.placeAt_cons, hfind]
      exact hw

theorem not_blocks_nothing : ¬ Table.Blocks [] keys := by
  rintro ⟨front, -, -, w, hw⟩
  cases front <;> cases hw

/-- **Where something else stands on the way, nothing is put.** -/
theorem insertAt_of_blocked (h : table.Blocks (keysOf path)) : insertAt v path table = table := by
  fun_induction insertAt v path table with
  | case1 => rfl
  | case2 name table =>
    -- on the way there is only the table itself
    obtain ⟨front, hfront, hne, w, hw⟩ := h
    cases front with
    | nil => cases hw
    | cons first front =>
      obtain ⟨rfl, hnil⟩ := List.cons_prefix_cons.1 hfront
      exact absurd (by rw [List.prefix_nil.1 hnil]; rfl) hne
  | case3 name names table hnames hfind ih =>
    obtain ⟨front, hfront, hne, w, hw⟩ := h
    cases front with
    | nil => cases hw
    | cons first front =>
      obtain ⟨rfl, -⟩ := List.cons_prefix_cons.1 hfront
      rw [Value.placeAt_cons, hfind] at hw
      cases hw
  | case4 name names table hnames inner hfind ih =>
    rw [ih ((blocks_cons hfind).1 h), Table.put_of_find? hfind]
  | case5 => rfl

/-- The first key leads to what was put under it, and any other one to what was there before. -/
theorem placeAt_put : (Value.map (table.put (.text name) v)).placeAt (key :: keys) =
    if key = .text name then v.placeAt keys else (Value.map table).placeAt (key :: keys) := by
  rw [Value.placeAt_cons, Table.find?_put_text]
  by_cases hkey : key = .text name
  · rw [if_pos hkey, if_pos hkey]
  · rw [if_neg hkey, if_neg hkey, Value.placeAt_cons]

theorem keysOf_cons : keysOf (name :: path) = .text name :: keysOf path := rfl

/-- **What stands at the end of some keys after a value was put at a path.** -/
theorem placeAt_insertAt (hv : v.isTable = false) (hpath : path ≠ [])
    (h : ¬ table.Blocks (keysOf path)) :
    (Value.map (insertAt v path table)).placeAt keys =
      if keysOf path <+: keys then (if keys = keysOf path then .plain v else .empty)
      else if keys <+: keysOf path then .table
      else (Value.map table).placeAt keys := by
  fun_induction insertAt v path table generalizing keys with
  | case1 => exact absurd rfl hpath
  | case2 name table =>
    cases keys with
    | nil => simp [keysOf, Value.placeAt]
    | cons key rest =>
      rw [placeAt_put]
      by_cases hkey : key = .text name
      · subst hkey
        cases rest with
        | nil => simp [keysOf, Value.placeAt_nil hv]
        | cons next rest => simp [keysOf, Value.placeAt_cons_of_not_table hv]
      · simp [keysOf, hkey, Ne.symm hkey]
  | case3 name names table hnames hfind ih =>
    cases keys with
    | nil => simp [keysOf, Value.placeAt]
    | cons key rest =>
      rw [placeAt_put]
      by_cases hkey : key = .text name
      · subst hkey
        rw [if_pos rfl, ih hnames not_blocks_nothing, keysOf_cons, Value.placeAt_cons, hfind]
        -- in a table that was missing there is nothing else
        cases rest with
        | nil => simp
        | cons next rest => simp [Value.placeAt_nothing_cons]
      · simp [keysOf_cons, hkey, Ne.symm hkey]
  | case4 name names table hnames inner hfind ih =>
    cases keys with
    | nil => simp [keysOf, Value.placeAt]
    | cons key rest =>
      rw [placeAt_put]
      by_cases hkey : key = .text name
      · subst hkey
        rw [if_pos rfl, ih hnames fun hb => h ((blocks_cons hfind).2 hb), keysOf_cons,
          Value.placeAt_cons, hfind]
        simp
      · simp [keysOf_cons, hkey, Ne.symm hkey]
  | case5 name names table hnames w hother hfind =>
    -- what stands at the name is no table, so it blocks the way
    have hplain : w.isTable = false := by
      cases w with
      | map inner => exact absurd rfl (hother inner)
      | _ => rfl
    refine absurd ⟨[.text name], List.cons_prefix_cons.2 ⟨rfl, List.nil_prefix⟩, ?_, w, ?_⟩ h
    · intro heq
      exact hnames (List.map_eq_nil_iff.1 (List.cons.inj heq).2.symm)
    · rw [Value.placeAt_cons, hfind]
      exact Value.placeAt_nil hplain

/-! ### Bindings -/

/-- The binding counts: none of the bindings is on the way to its place. -/
def Stands (bindings : List (List Key × Value)) (keys : List Key) (v : Value) : Prop :=
  (keys, v) ∈ bindings ∧ ∀ other ∈ bindings, other.1 <+: keys → other.1 = keys

/-- The table holds the bindings that stand, in tables that are not empty, and nothing else. -/
structure Holds (bindings : List (List Key × Value)) (table : Table) : Prop where
  /-- A value is held when its binding stands. -/
  plain : ∀ {keys v}, (Value.map table).placeAt keys = .plain v ↔ Stands bindings keys v
  /-- There is a table on the way to a binding that stands, and there is one to begin with. -/
  table : ∀ {keys}, (Value.map table).placeAt keys = .table ↔
    keys = [] ∨ ∃ below v, Stands bindings below v ∧ keys <+: below ∧ keys ≠ below

variable {bindings : List (List Key × Value)} {below : List Key}

/-- On the way to a binding, or at its place, there is one that stands. -/
theorem exists_stands (h : (keys, v) ∈ bindings) :
    ∃ front w, Stands bindings front w ∧ front <+: keys := by
  -- on the length of the keys: a binding that does not stand has another one on the way
  induction hlength : keys.length using Nat.strongRecOn generalizing keys v with
  | ind n ih =>
    by_cases hstands : ∀ other ∈ bindings, other.1 <+: keys → other.1 = keys
    · exact ⟨keys, v, ⟨h, hstands⟩, List.prefix_rfl⟩
    · push Not at hstands
      obtain ⟨⟨front, w⟩, hmem, hfront, hne⟩ := hstands
      have hshorter : front.length < n := by
        rw [← hlength]
        exact Nat.lt_of_le_of_ne hfront.length_le fun heq => hne (hfront.eq_of_length heq)
      obtain ⟨first, u, hfirst, hfore⟩ := ih _ hshorter hmem rfl
      exact ⟨first, u, hfirst, hfore.trans hfront⟩

theorem holds_nil : Holds [] [] where
  plain := by
    intro keys v
    refine iff_of_false ?_ fun h => by cases h.1
    cases keys with
    | nil => rw [Value.placeAt]; exact fun h => by cases h
    | cons key keys => rw [Value.placeAt_nothing_cons]; exact fun h => by cases h
  table := by
    intro keys
    cases keys with
    | nil => exact iff_of_true rfl (.inl rfl)
    | cons key keys =>
      refine iff_of_false (fun h => by cases h) ?_
      rintro (h | ⟨_, _, h, -⟩)
      · cases h
      · cases h.1

/-- Something stands in the way of new keys when there is a binding on the way. -/
theorem Holds.blocks_iff (h : Holds bindings table) (hnew : ∀ other ∈ bindings, other.1 ≠ keys) :
    table.Blocks keys ↔ ∃ other ∈ bindings, other.1 <+: keys := by
  constructor
  · rintro ⟨front, hfront, -, w, hw⟩
    exact ⟨(front, w), (h.plain.1 hw).1, hfront⟩
  · rintro ⟨⟨other, u⟩, hmem, hfore⟩
    obtain ⟨front, w, hstands, hfront⟩ := exists_stands hmem
    exact ⟨front, hfront.trans hfore, hnew _ hstands.1, w, h.plain.2 hstands⟩

/-- A new binding below another one changes nothing. -/
theorem stands_append_of_below {other : List Key × Value} (hmem : other ∈ bindings)
    (hfore : other.1 <+: keys) (hne : other.1 ≠ keys) :
    Stands (bindings ++ [(keys, v)]) below w ↔ Stands bindings below w := by
  constructor
  · rintro ⟨hbelow, hfirst⟩
    refine ⟨?_, fun o ho => hfirst o (List.mem_append_left _ ho)⟩
    rcases List.mem_append.1 hbelow with hold | hnew
    · exact hold
    · cases List.mem_singleton.1 hnew
      exact absurd (hfirst other (List.mem_append_left _ hmem) hfore) hne
  · rintro ⟨hbelow, hfirst⟩
    refine ⟨List.mem_append_left _ hbelow, fun o ho hfront => ?_⟩
    rcases List.mem_append.1 ho with hold | hnew
    · exact hfirst o hold hfront
    · cases List.mem_singleton.1 hnew
      -- what is on the way to the new binding would be on the way to the one below as well
      have heq : other.1 = below := hfirst other hmem (hfore.trans hfront)
      rw [heq] at hfore
      exact hfront.eq_of_length_le hfore.length_le

/-- A new binding that nothing is on the way to stands, and drops what is below it. -/
theorem stands_append_of_above (hnone : ∀ other ∈ bindings, ¬ other.1 <+: keys) :
    Stands (bindings ++ [(keys, v)]) below w ↔
      below = keys ∧ w = v ∨ Stands bindings below w ∧ ¬ keys <+: below := by
  constructor
  · rintro ⟨hbelow, hfirst⟩
    rcases List.mem_append.1 hbelow with hold | hnew
    · refine .inr ⟨⟨hold, fun o ho => hfirst o (List.mem_append_left _ ho)⟩, fun hfore => ?_⟩
      have heq : keys = below :=
        hfirst (keys, v) (List.mem_append_right _ (List.mem_singleton_self _)) hfore
      exact hnone _ hold (heq ▸ List.prefix_rfl)
    · cases List.mem_singleton.1 hnew
      exact .inl ⟨rfl, rfl⟩
  · rintro (⟨rfl, rfl⟩ | ⟨⟨hold, hfirst⟩, hnot⟩)
    · refine ⟨List.mem_append_right _ (List.mem_singleton_self _), fun o ho hfront => ?_⟩
      rcases List.mem_append.1 ho with hold | hnew
      · exact absurd hfront (hnone o hold)
      · rw [List.mem_singleton.1 hnew]
    · refine ⟨List.mem_append_left _ hold, fun o ho hfront => ?_⟩
      rcases List.mem_append.1 ho with hother | hnew
      · exact hfirst o hother hfront
      · cases List.mem_singleton.1 hnew
        exact absurd hfront hnot

/-- On the way to a place there is a binding that stands, or one that a new binding drops: then the
new one is further on. -/
theorem exists_below_append_iff (hnone : ∀ other ∈ bindings, ¬ other.1 <+: keys)
    {front : List Key} (hfront : ¬ keys <+: front) :
    (∃ below w, Stands (bindings ++ [(keys, v)]) below w ∧ front <+: below ∧ front ≠ below) ↔
      front <+: keys ∨ ∃ below w, Stands bindings below w ∧ front <+: below ∧ front ≠ below := by
  simp only [stands_append_of_above hnone]
  constructor
  · rintro ⟨below, w, ⟨rfl, rfl⟩ | ⟨hstands, -⟩, hfore, hne⟩
    · exact .inl hfore
    · exact .inr ⟨below, w, hstands, hfore, hne⟩
  · rintro (hfore | ⟨below, w, hstands, hfore, hne⟩)
    · exact ⟨keys, v, .inl ⟨rfl, rfl⟩, hfore, fun heq => hfront (heq ▸ List.prefix_rfl)⟩
    · by_cases habove : keys <+: below
      -- two fronts of the same keys: one is a front of the other
      · rcases List.prefix_or_prefix_of_prefix hfore habove with h | h
        · exact ⟨keys, v, .inl ⟨rfl, rfl⟩, h, fun heq => hfront (heq ▸ List.prefix_rfl)⟩
        · exact absurd h hfront
      · exact ⟨below, w, .inr ⟨hstands, habove⟩, hfore, hne⟩

/-- **With one more binding, the table holds the bindings that stand.** -/
theorem Holds.insertAt (h : Holds bindings table) (hv : v.isTable = false) (hpath : path ≠ [])
    (hnew : ∀ other ∈ bindings, other.1 ≠ keysOf path) :
    Holds (bindings ++ [(keysOf path, v)]) (Environment.insertAt v path table) := by
  by_cases hblocks : table.Blocks (keysOf path)
  · obtain ⟨other, hmem, hfore⟩ := (h.blocks_iff hnew).1 hblocks
    rw [insertAt_of_blocked hblocks]
    constructor
    · intro keys w
      rw [stands_append_of_below hmem hfore (hnew other hmem)]
      exact h.plain
    · intro keys
      simp only [stands_append_of_below hmem hfore (hnew other hmem)]
      exact h.table
  · have hnone : ∀ other ∈ bindings, ¬ other.1 <+: keysOf path := by
      intro other hmem hfore
      exact hblocks ((h.blocks_iff hnew).2 ⟨other, hmem, hfore⟩)
    constructor
    · intro keys w
      rw [placeAt_insertAt hv hpath hblocks, stands_append_of_above hnone]
      split_ifs with habove heq hbefore
      · simp [heq, eq_comm]
      · simp [heq, habove]
      · have hne : keys ≠ keysOf path := fun heq => habove (heq ▸ List.prefix_rfl)
        simp only [hne, false_and, false_or, false_iff, not_and, not_not]
        intro hstands
        exact absurd hbefore (hnone _ hstands.1)
      · have hne : keys ≠ keysOf path := fun heq => habove (heq ▸ List.prefix_rfl)
        simp only [hne, false_and, false_or, habove, not_false_eq_true, and_true]
        exact h.plain
    · intro keys
      rw [placeAt_insertAt hv hpath hblocks]
      by_cases habove : keysOf path <+: keys
      · -- at the new binding and below it there is no table
        rw [if_pos habove]
        refine iff_of_false (by split_ifs <;> simp) ?_
        rintro (rfl | ⟨below, w, hstands, hfore, hne⟩)
        · exact hpath (List.map_eq_nil_iff.1 (List.prefix_nil.1 habove))
        · rcases (stands_append_of_above hnone).1 hstands with ⟨rfl, -⟩ | ⟨-, hnot⟩
          · exact hne (hfore.eq_of_length_le habove.length_le)
          · exact hnot (habove.trans hfore)
      · rw [if_neg habove, exists_below_append_iff hnone habove]
        split_ifs with hbefore
        · exact iff_of_true rfl (.inr (.inl hbefore))
        · simp only [hbefore, false_or]
          exact h.table

/-! ### Variables -/

variable {all other : Variables} {text : List Char}

/-- No two settings are named alike but for capitals. -/
def DistinctNames (all : Variables) : Prop :=
  (all.filter fun entry => (dropStart? namePrefix entry.1).isSome).Pairwise fun a b =>
    lowerText a.1 ≠ lowerText b.1

instance : Decidable (DistinctNames all) := inferInstanceAs (Decidable (List.Pairwise _ _))

/-- Some variable has the value at the path, and no variable has a path that ends on the way. -/
def Counts (all : Variables) (path : List (List Char)) (v : Value) : Prop :=
  (∃ name text, (name, text) ∈ all ∧ variablePath? name = some path ∧ v = readValue text) ∧
    ∀ name text front, (name, text) ∈ all → variablePath? name = some front → front <+: path →
      front = path

/-- The bindings that some variables make. -/
def bindingsOf (all : Variables) : List (List Key × Value) :=
  all.filterMap fun (name, text) =>
    (variablePath? name).map fun path => (keysOf path, readValue text)

theorem keysOf_inj {a b : List (List Char)} (h : keysOf a = keysOf b) : a = b :=
  List.map_injective_iff.2 (fun _ _ heq => Key.text.inj heq) h

theorem keysOf_prefix_iff {a b : List (List Char)} : keysOf a <+: keysOf b ↔ a <+: b :=
  List.prefix_map_iff_of_injective fun _ _ heq => Key.text.inj heq

theorem mem_bindingsOf {binding : List Key × Value} : binding ∈ bindingsOf all ↔
    ∃ name text path, (name, text) ∈ all ∧ variablePath? name = some path ∧
      binding = (keysOf path, readValue text) := by
  unfold bindingsOf
  rw [List.mem_filterMap]
  constructor
  · rintro ⟨⟨name, text⟩, hmem, h⟩
    obtain ⟨path, hpath, rfl⟩ := Option.map_eq_some_iff.1 h
    exact ⟨name, text, path, hmem, hpath, rfl⟩
  · rintro ⟨name, text, path, hmem, hpath, rfl⟩
    exact ⟨(name, text), hmem, Option.map_eq_some_iff.2 ⟨path, hpath, rfl⟩⟩

theorem stands_bindingsOf_iff : Stands (bindingsOf all) keys v ↔
    ∃ path, keys = keysOf path ∧ Counts all path v := by
  constructor
  · rintro ⟨hmem, hfirst⟩
    obtain ⟨name, text, path, hvar, hpath, heq⟩ := mem_bindingsOf.1 hmem
    obtain ⟨rfl, rfl⟩ := Prod.mk.inj heq
    refine ⟨path, rfl, ⟨name, text, hvar, hpath, rfl⟩, ?_⟩
    intro other t front hother hfront hfore
    exact keysOf_inj (hfirst _ (mem_bindingsOf.2 ⟨other, t, front, hother, hfront, rfl⟩)
      (keysOf_prefix_iff.2 hfore))
  · rintro ⟨path, rfl, ⟨name, text, hvar, hpath, rfl⟩, hfirst⟩
    refine ⟨mem_bindingsOf.2 ⟨name, text, path, hvar, hpath, rfl⟩, fun o ho hfore => ?_⟩
    obtain ⟨other, t, front, hother, hfront, rfl⟩ := mem_bindingsOf.1 ho
    rw [hfirst other t front hother hfront (keysOf_prefix_iff.1 hfore)]

theorem isTable_readValue (s : List Char) : (readValue s).isTable = false := by
  unfold readValue
  simp only
  split
  · rfl
  · split
    · rfl
    · split <;> rfl

theorem isSome_dropStart?_of_variablePath? (h : variablePath? name = some path) :
    (dropStart? namePrefix name).isSome = true := by
  obtain ⟨rest, rfl, -⟩ := variablePath?_eq_some h
  rw [dropStart?_append]
  rfl

theorem DistinctNames.perm (h : DistinctNames all) (hperm : all.Perm other) :
    DistinctNames other :=
  List.Pairwise.perm h (hperm.filter _) fun hne heq => hne heq.symm

theorem settings_append : settings (all ++ [(name, text)]) =
    match variablePath? name with
    | some path => insertAt (readValue text) path (settings all)
    | none => settings all := by
  unfold settings
  rw [List.foldl_append]
  rfl

theorem bindingsOf_append : bindingsOf (all ++ [(name, text)]) =
    match variablePath? name with
    | some path => bindingsOf all ++ [(keysOf path, readValue text)]
    | none => bindingsOf all := by
  unfold bindingsOf
  rw [List.filterMap_append]
  cases h : variablePath? name <;> simp [h]

/-- **The table of the environment holds the bindings of the variables that stand**, whatever their
order. -/
theorem holds_settings (h : DistinctNames all) : Holds (bindingsOf all) (settings all) := by
  -- on the variables, the last one first: it meets the table that the others made
  induction all using List.reverseRecOn with
  | nil => exact holds_nil
  | append_singleton all entry ih =>
    obtain ⟨name, text⟩ := entry
    rw [DistinctNames, List.pairwise_filter, List.pairwise_append] at h
    obtain ⟨hall, -, hlast⟩ := h
    have hholds := ih (by rw [DistinctNames, List.pairwise_filter]; exact hall)
    rw [settings_append, bindingsOf_append]
    cases hpath : variablePath? name with
    | none => exact hholds
    | some path =>
      refine hholds.insertAt (isTable_readValue text) (variablePath?_ne_nil hpath) ?_
      intro binding hbinding heq
      obtain ⟨other, t, front, hother, hfront, rfl⟩ := mem_bindingsOf.1 hbinding
      obtain rfl : front = path := keysOf_inj heq
      exact hlast _ hother _ (List.mem_singleton_self _) (isSome_dropStart?_of_variablePath? hfront)
        (isSome_dropStart?_of_variablePath? hpath) (lowerText_eq_of_variablePath? hfront hpath)

theorem settings_eq_nil (h : bindingsOf all = []) : settings all = [] := by
  induction all using List.reverseRecOn with
  | nil => rfl
  | append_singleton all entry ih =>
    obtain ⟨name, text⟩ := entry
    rw [bindingsOf_append] at h
    rw [settings_append]
    cases hpath : variablePath? name with
    | none =>
      rw [hpath] at h
      exact ih h
    | some path =>
      rw [hpath] at h
      exact absurd h (List.append_ne_nil_of_right_ne_nil _ (by simp))

/-- There are settings when a variable counts. -/
theorem isEmpty_settings_iff (h : DistinctNames all) :
    (settings all).isEmpty = true ↔ ∀ path v, ¬ Counts all path v := by
  rw [List.isEmpty_iff]
  constructor
  · intro hnil path v hcounts
    have hplace := (holds_settings h).plain.2 (stands_bindingsOf_iff.2 ⟨path, rfl, hcounts⟩)
    rw [hnil] at hplace
    cases path <;> cases hplace
  · intro hnone
    refine settings_eq_nil (List.eq_nil_iff_forall_not_mem.2 fun binding hmem => ?_)
    obtain ⟨keys, v, hstands, -⟩ := exists_stands hmem
    obtain ⟨path, -, hcounts⟩ := stands_bindingsOf_iff.1 hstands
    exact hnone path v hcounts

theorem Counts.ne_nil (h : Counts all path v) : path ≠ [] := by
  obtain ⟨⟨name, text, -, hpath, -⟩, -⟩ := h
  exact variablePath?_ne_nil hpath

theorem counts_perm_iff (hperm : all.Perm other) : Counts all path v ↔ Counts other path v := by
  simp only [Counts, hperm.mem_iff]

end Environment

/-! ### The layer of the environment -/

namespace Layers

open Environment

variable {layers : Layers} {all other : Variables} {source : Source}

/-- What stands at the end of a row of keys in the layer of a source. -/
def place (layers : Layers) (source : Source) (keys : List Key) : Place :=
  match layers.layer source with
  | none => .empty
  | some v => v.placeAt keys

theorem place_eq (h : layers.layer source = some v) :
    layers.place source keys = v.placeAt keys := by
  rw [place, h]

theorem place_eq_empty (h : layers.layer source = none) :
    layers.place source keys = .empty := by
  rw [place, h]

/-- There is a single key at the top. -/
theorem placeAt_rootName : (Value.map [(.text rootName, .map table)]).placeAt (key :: keys) =
    if key = .text rootName then (Value.map table).placeAt keys else .empty :=
  @placeAt_put [] (.map table) key keys rootName

theorem place_loadEnvironment_cons (h : (settings all).isEmpty = false) :
    (layers.loadEnvironment all).place .environment (key :: keys) =
      if key = .text rootName then (Value.map (settings all)).placeAt keys else .empty := by
  rw [place_eq (v := .map [(.text rootName, .map (settings all))]), placeAt_rootName]
  simp only [loadEnvironment, h, Bool.false_eq_true, if_false, layer_put_self]

theorem place_loadEnvironment_nil (h : (settings all).isEmpty = false) :
    (layers.loadEnvironment all).place .environment [] = .table := by
  rw [place_eq (v := .map [(.text rootName, .map (settings all))])]
  · rfl
  · simp only [loadEnvironment, h, Bool.false_eq_true, if_false, layer_put_self]

theorem plain_loadEnvironment_iff (hnone : layers.layer .environment = none)
    (h : DistinctNames all) :
    (layers.loadEnvironment all).place .environment keys = .plain v ↔
      ∃ path, keys = keysOf (rootName :: path) ∧ Counts all path v := by
  cases hempty : (settings all).isEmpty with
  | true =>
    have hcounts := (isEmpty_settings_iff h).1 hempty
    simp [loadEnvironment, hempty, place_eq_empty hnone, hcounts]
  | false =>
    cases keys with
    | nil => simp [place_loadEnvironment_nil hempty, keysOf_cons]
    | cons key keys =>
      rw [place_loadEnvironment_cons hempty]
      by_cases hkey : key = .text rootName
      · rw [if_pos hkey, (holds_settings h).plain, stands_bindingsOf_iff]
        simp [keysOf_cons, hkey]
      · simp [keysOf_cons, hkey]

theorem table_loadEnvironment_iff (hnone : layers.layer .environment = none)
    (h : DistinctNames all) :
    (layers.loadEnvironment all).place .environment keys = .table ↔
      ∃ path v, Counts all path v ∧ keys <+: keysOf (rootName :: path) ∧
        keys ≠ keysOf (rootName :: path) := by
  cases hempty : (settings all).isEmpty with
  | true =>
    have hcounts := (isEmpty_settings_iff h).1 hempty
    simp [loadEnvironment, hempty, place_eq_empty hnone, hcounts]
  | false =>
    obtain ⟨path, v, hcounts⟩ : ∃ path v, Counts all path v := by
      by_contra! hcounts
      rw [(isEmpty_settings_iff h).2 hcounts] at hempty
      cases hempty
    cases keys with
    | nil =>
      rw [place_loadEnvironment_nil hempty]
      exact iff_of_true rfl ⟨path, v, hcounts, List.nil_prefix, by simp [keysOf_cons]⟩
    | cons key keys =>
      rw [place_loadEnvironment_cons hempty]
      by_cases hkey : key = .text rootName
      · rw [if_pos hkey, (holds_settings h).table]
        constructor
        · rintro (rfl | ⟨below, w, hstands, hfore, hne⟩)
          · refine ⟨path, v, hcounts, ?_⟩
            simpa [keysOf, hkey, eq_comm] using hcounts.ne_nil
          · obtain ⟨path, rfl, hcounts⟩ := stands_bindingsOf_iff.1 hstands
            exact ⟨path, w, hcounts, by simpa [keysOf_cons, hkey] using ⟨hfore, hne⟩⟩
        · rintro ⟨path, w, hcounts, hfore, hne⟩
          refine .inr ⟨keysOf path, w, stands_bindingsOf_iff.2 ⟨path, rfl, hcounts⟩, ?_⟩
          simpa [keysOf_cons, hkey] using And.intro hfore hne
      · simp [keysOf_cons, hkey]

/-- **The layer of the environment holds the variables that count**, whatever order they come in:
every one of them under the root, with no other value anywhere and no table that is not on the way
to one of them. -/
theorem place_loadEnvironment_of_perm (hnone : layers.layer .environment = none)
    (h : DistinctNames all) (hperm : all.Perm other) :
    (∀ keys, (layers.loadEnvironment all).place .environment keys =
      (layers.loadEnvironment other).place .environment keys) ∧
    (∀ keys v, (layers.loadEnvironment all).place .environment keys = .plain v ↔
      ∃ path, keys = keysOf (rootName :: path) ∧ Counts all path v) ∧
    (∀ keys, (layers.loadEnvironment all).place .environment keys = .table ↔
      ∃ path v, Counts all path v ∧ keys <+: keysOf (rootName :: path) ∧
        keys ≠ keysOf (rootName :: path)) := by
  refine ⟨fun keys => Place.eq_of_iff (fun v => ?_) ?_,
    fun keys v => plain_loadEnvironment_iff hnone h, fun keys => table_loadEnvironment_iff hnone h⟩
  · rw [plain_loadEnvironment_iff hnone h, plain_loadEnvironment_iff hnone (h.perm hperm)]
    simp only [counts_perm_iff hperm]
  · rw [table_loadEnvironment_iff hnone h, table_loadEnvironment_iff hnone (h.perm hperm)]
    simp only [counts_perm_iff hperm]

/-- The one on the way counts, in the order in which it replaces a table as well as in the other. -/
theorem place_loadEnvironment_of_late_name :
    (∀ keys, (initial.loadEnvironment [("TAGR_A__B".toList, "1".toList),
        ("TAGR_A".toList, "2".toList)]).place .environment keys =
      (initial.loadEnvironment [("TAGR_A".toList, "2".toList),
        ("TAGR_A__B".toList, "1".toList)]).place .environment keys) ∧
    (initial.loadEnvironment [("TAGR_A__B".toList, "1".toList),
        ("TAGR_A".toList, "2".toList)]).place .environment [.text rootName, .text ['a']] =
      .plain (.int 2) := by
  have hlong : variablePath? "TAGR_A__B".toList = some [['a'], ['b']] := by decide +kernel
  have hshort : variablePath? "TAGR_A".toList = some [['a']] := by decide +kernel
  have hdistinct : DistinctNames
      [("TAGR_A__B".toList, "1".toList), ("TAGR_A".toList, "2".toList)] := by decide +kernel
  obtain ⟨hsame, hplain, -⟩ :=
    @place_loadEnvironment_of_perm initial _ _ rfl hdistinct (.swap _ _ _)
  refine ⟨hsame, (hplain _ _).2 ⟨[['a']], rfl, ⟨_, "2".toList, by simp, hshort, by rfl⟩, ?_⟩⟩
  rintro name text front hmem hfront hfore
  rcases List.mem_cons.1 hmem with heq | hmem
  · cases heq
    cases hlong.symm.trans hfront
    exact absurd hfore.length_le (by decide)
  · cases List.mem_singleton.1 hmem
    cases hshort.symm.trans hfront
    rfl

end Layers

end FileSieve
