import FileSieve.Settings.Environment
import FileSieve.Settings.Merge

/-!
# Tables without repeated keys

A table has one entry for each of its keys, and so have the tables inside it. Every change that
is made to settings keeps it so.

* `Table.isKeyed_put`, `isKeyed_at?`, `isKeyed_setAt?`: tables stay without repeated keys.
* `Table.find?_mergeEntries`: what is found after a table was laid over another.
* `mergeEntries_nil_left`: a table laid over nothing stays as it is.
-/

namespace FileSieve

/-! ### Keys -/

mutual

/-- Do all tables in a value have their keys once each? Lists are not looked into. -/
def Value.isKeyed : Value → Bool
  | .map entries => Table.isKeyed entries
  | _ => true

/-- Does a table have its keys once each, and so all tables in it? -/
def Table.isKeyed : List (Key × Value) → Bool
  | [] => true
  | (k, v) :: rest => rest.all (fun entry => !k.same entry.1) && v.isKeyed && Table.isKeyed rest

end

variable {table base entries : Table} {k : Key} {v new : Value} {a name : List Char}

theorem Value.isKeyed_map : (Value.map entries).isKeyed = Table.isKeyed entries := by
  rw [Value.isKeyed]

theorem Value.isKeyed_of_not_table (h : v.isTable = false) : v.isKeyed = true := by
  cases v with
  | map entries => cases h
  | _ => rw [Value.isKeyed]; exact fun _ h => by cases h

theorem Value.exists_of_isTable (h : v.isTable = true) : ∃ entries, v = .map entries := by
  cases v with
  | map entries => exact ⟨entries, rfl⟩
  | _ => cases h

theorem Key.text_same_of_ne (h : k ≠ .text a) : (Key.text a).same k = false := by
  cases k with
  | text b =>
    rw [Key.same_text, decide_eq_false_iff_not]
    rintro rfl
    exact h rfl
  | _ => rfl

namespace Table

theorem isKeyed_nil : isKeyed [] = true := by
  rw [isKeyed]

theorem isKeyed_cons : isKeyed ((k, v) :: table) = true ↔
    (∀ entry ∈ table, k.same entry.1 = false) ∧ v.isKeyed = true ∧ isKeyed table = true := by
  rw [isKeyed]
  simp [and_assoc]

/-- The keys of a table with a value put into it: no key is new but the one that is put. -/
theorem mem_put {entry : Key × Value} (h : entry ∈ put k v table) :
    entry.1 = k ∨ ∃ old ∈ table, old.1 = entry.1 := by
  induction table with
  | nil => exact .inl (by rw [List.mem_singleton.1 h])
  | cons first rest ih =>
    obtain ⟨key, old⟩ := first
    rw [put] at h
    split at h
    · rcases List.mem_cons.1 h with rfl | h
      · exact .inr ⟨_, List.mem_cons_self, rfl⟩
      · exact .inr ⟨entry, List.mem_cons_of_mem _ h, rfl⟩
    · rcases List.mem_cons.1 h with rfl | h
      · exact .inr ⟨_, List.mem_cons_self, rfl⟩
      · rcases ih h with h | ⟨old, hold, h⟩
        · exact .inl h
        · exact .inr ⟨old, List.mem_cons_of_mem _ hold, h⟩

theorem isKeyed_put (ht : isKeyed table = true) (hv : v.isKeyed = true) :
    isKeyed (put k v table) = true := by
  induction table with
  | nil => exact isKeyed_cons.2 ⟨by simp, hv, isKeyed_nil⟩
  | cons first rest ih =>
    obtain ⟨key, old⟩ := first
    obtain ⟨hnew, hold, hrest⟩ := isKeyed_cons.1 ht
    rw [put]
    split
    · exact isKeyed_cons.2 ⟨hnew, hv, hrest⟩
    · rename_i hkey
      refine isKeyed_cons.2 ⟨fun entry hentry => ?_, hold, ih hrest⟩
      rcases mem_put hentry with h | ⟨other, hother, h⟩
      · rw [h]; exact Bool.eq_false_iff.2 hkey
      · rw [← h]; exact hnew other hother

theorem isKeyed_of_find? (ht : isKeyed table = true) (h : find? k table = some v) :
    v.isKeyed = true := by
  induction table with
  | nil => cases h
  | cons first rest ih =>
    obtain ⟨key, old⟩ := first
    obtain ⟨-, hold, hrest⟩ := isKeyed_cons.1 ht
    rw [find?] at h
    split at h
    · cases h; exact hold
    · exact ih hrest h

/-! ### Merged tables -/

theorem find?_of_new (h : ∀ entry ∈ table, entry.1.same k = false) : find? k table = none := by
  induction table with
  | nil => rfl
  | cons first rest ih =>
    obtain ⟨key, old⟩ := first
    rw [find?, h _ List.mem_cons_self]
    exact ih fun entry hentry => h entry (List.mem_cons_of_mem _ hentry)

theorem put_of_new (h : ∀ entry ∈ table, entry.1.same k = false) :
    put k v table = table ++ [(k, v)] := by
  induction table with
  | nil => rfl
  | cons first rest ih =>
    obtain ⟨key, old⟩ := first
    rw [put, h _ List.mem_cons_self]
    exact congrArg ((key, old) :: ·)
      (ih fun entry hentry => h entry (List.mem_cons_of_mem _ hentry))

theorem find?_put_of_ne_text (h : k ≠ .text a) :
    find? (.text a) (put k v table) = find? (.text a) table := by
  induction table with
  | nil => simp [put, find?, same_text_right, h]
  | cons first rest ih =>
    obtain ⟨key, old⟩ := first
    rw [put]
    split
    · rename_i hkey
      -- the entry keeps its own key, which is not the text when it is the same as another key
      have hne : key ≠ .text a := by
        rintro rfl
        rw [Key.text_same_of_ne h] at hkey
        cases hkey
      simp [find?, same_text_right, hne]
    · rw [find?, find?, ih]

/-- At each name, the upper table counts where it has an entry, merged with what was below. -/
theorem find?_mergeEntries (h : isKeyed entries = true) :
    find? (.text a) (mergeEntries base entries) =
      match find? (.text a) entries with
      | none => find? (.text a) base
      | some v => some (mergeValue (find? (.text a) base) v) := by
  induction entries generalizing base with
  | nil => rw [mergeEntries_nil]; rfl
  | cons first rest ih =>
    obtain ⟨key, w⟩ := first
    obtain ⟨hnew, -, hrest⟩ := isKeyed_cons.1 h
    rw [mergeEntries_cons, ih hrest]
    by_cases hkey : key = .text a
      -- the name is not below, as it is there only once
    · subst hkey
      have hnone : find? (.text a) rest = none := by
        refine find?_of_new fun entry hentry => ?_
        have hne := hnew entry hentry
        rw [same_text_right, decide_eq_false_iff_not]
        intro heq
        rw [heq, Key.same_text] at hne
        simp at hne
      rw [hnone, find?, Key.same_text]
      simp [find?_put_self]
    · have hskip : find? (.text a) ((key, w) :: rest) = find? (.text a) rest := by
        rw [find?, same_text_right]
        simp [hkey]
      rw [hskip, find?_put_of_ne_text hkey]

end Table

theorem mergeEntries_of_new (h : Table.isKeyed entries = true)
    (hnew : ∀ below ∈ base, ∀ above ∈ entries, below.1.same above.1 = false) :
    mergeEntries base entries = base ++ entries := by
  induction entries generalizing base with
  | nil => rw [mergeEntries_nil, List.append_nil]
  | cons first rest ih =>
    obtain ⟨key, w⟩ := first
    obtain ⟨hfirst, -, hrest⟩ := Table.isKeyed_cons.1 h
    have hkey : ∀ below ∈ base, below.1.same key = false :=
      fun below hbelow => hnew below hbelow _ List.mem_cons_self
    rw [mergeEntries_cons, Table.find?_of_new hkey, mergeValue_none, Table.put_of_new hkey,
      ih hrest, List.append_assoc, List.singleton_append]
    intro below hbelow above habove
    rcases List.mem_append.1 hbelow with hbelow | hbelow
    · exact hnew below hbelow above (List.mem_cons_of_mem _ habove)
    · rw [List.mem_singleton.1 hbelow]
      exact hfirst above habove

/-- A table laid over nothing stays as it is. -/
theorem mergeEntries_nil_left (h : Table.isKeyed entries = true) :
    mergeEntries [] entries = entries :=
  mergeEntries_of_new h fun _ hbelow => by cases hbelow

/-! ### Paths -/

namespace Value

variable {names : List (List Char)}

theorem isKeyed_at? (hv : v.isKeyed = true) {w : Value} (h : v.at? names = some w) :
    w.isKeyed = true := by
  induction names generalizing v with
  | nil => cases h; exact hv
  | cons name names ih =>
    cases v with
    | map entries =>
      rw [isKeyed_map] at hv
      obtain ⟨inner, hinner, h⟩ := Option.bind_eq_some_iff.1 h
      exact ih (Table.isKeyed_of_find? hv hinner) h
    | _ => cases h

theorem isKeyed_setAt? (hv : v.isKeyed = true) (hnew : new.isKeyed = true) {changed : Value}
    (h : setAt? new names v = some changed) : changed.isKeyed = true := by
  induction names generalizing v changed with
  | nil => cases h; exact hnew
  | cons name names ih =>
    cases v with
    | map entries =>
      rw [isKeyed_map] at hv
      obtain ⟨inner, hinner, rfl⟩ := Option.map_eq_some_iff.1 h
      rw [isKeyed_map]
      refine Table.isKeyed_put hv (ih ?_ hinner)
      cases hold : Table.find? (.text name) entries with
      | none => split <;> rfl
      | some old => exact Table.isKeyed_of_find? hv hold
    | _ => cases h

end Value

/-! ### The environment -/

namespace Environment

theorem isKeyed_readValue (s : List Char) : (readValue s).isKeyed = true := by
  unfold readValue
  simp only
  split
  · rfl
  · split
    · rfl
    · split <;> rfl

theorem isKeyed_insertAt (hv : v.isKeyed = true) {path : List (List Char)}
    (ht : Table.isKeyed table = true) : Table.isKeyed (insertAt v path table) = true := by
  fun_induction insertAt v path table with
  | case1 => exact ht
  | case2 => exact Table.isKeyed_put ht hv
  | case3 _ _ _ _ _ ih =>
    exact Table.isKeyed_put ht (by rw [Value.isKeyed_map]; exact ih Table.isKeyed_nil)
  | case4 _ _ _ _ inner hfind ih =>
    refine Table.isKeyed_put ht ?_
    rw [Value.isKeyed_map]
    exact ih (by rw [← Value.isKeyed_map]; exact Table.isKeyed_of_find? ht hfind)
  | case5 => exact ht

theorem isKeyed_settings (all : Variables) : Table.isKeyed (settings all) = true := by
  refine List.foldlRecOn (motive := fun table => Table.isKeyed table = true) all _
    Table.isKeyed_nil fun table ht entry _ => ?_
  simp only
  split
  · exact isKeyed_insertAt (isKeyed_readValue _) ht
  · exact ht

end Environment

end FileSieve
