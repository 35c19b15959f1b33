import FileSieve.Proofs.ByteSize.Precision
import FileSieve.Proofs.VirtualTag.Validation

/-!
# Sections of the wrong type

Four of the settings are sections: tables of their own. A section may be missing or null, and then
its settings keep their defaults; what is neither null nor a table is no section. The families of
extensions are refused then. The other three are refused only unless what stands there is false,
zero or empty, which is passed over as if it were a table without entries.

* `failsOnly_ofTable`: a table that can be checked is refused, or its settings come out.
* `ofTable_of_isPassedOver`: what is passed over counts as a section without entries.
* `isPassedOver_of_ofTable`: where something is no section, settings come out only if it is passed
  over.
* `rejects_mistyped_iff`: when a table with something that is no section is refused.
* `not_rejects_false_section`: a section that is false is not refused.
-/

namespace FileSieve

open Text

/-! ### Values that can be written -/

namespace Value

/-- Every numeral in the value is short enough to be written. -/
def IsWritten (v : Value) : Prop := ∃ s, v.shown? = some s

/-- What a table holds can be written if the table can. -/
theorem isWritten_of_mem {entries : Table} {entry : Key × Value} (h : (map entries).IsWritten)
    (hmem : entry ∈ entries) : (∃ s, entry.1.shown? = some s) ∧ entry.2.IsWritten := by
  obtain ⟨all, hall⟩ : ∃ all, shownEntries? entries = some all := by
    obtain ⟨s, hs⟩ := h
    rw [shown?] at hs
    obtain ⟨all, hall, -⟩ := Option.bind_eq_some_iff.1 hs
    exact ⟨all, hall⟩
  clear h
  induction entries generalizing all with
  | nil => cases hmem
  | cons first rest ih =>
    rw [shownEntries?] at hall
    obtain ⟨name, hname, hall⟩ := Option.bind_eq_some_iff.1 hall
    obtain ⟨shown, hshown, hall⟩ := Option.bind_eq_some_iff.1 hall
    obtain ⟨others, hothers, -⟩ := Option.bind_eq_some_iff.1 hall
    rcases List.mem_cons.1 hmem with rfl | hmem
    · exact ⟨⟨name, hname⟩, shown, hshown⟩
    · exact ih hmem others hothers

end Value

theorem Table.exists_mem_of_find? {table : Table} {key : Key} {v : Value}
    (h : table.find? key = some v) : ∃ k, (k, v) ∈ table := by
  induction table with
  | nil => cases h
  | cons first rest ih =>
    rw [Table.find?] at h
    split at h
    · cases h
      exact ⟨first.1, List.mem_cons_self⟩
    · obtain ⟨k, hk⟩ := ih h
      exact ⟨k, List.mem_cons_of_mem _ hk⟩

theorem Value.isWritten_of_find? {table : Table} {key : Key} {v : Value}
    (h : (map table).IsWritten) (hfind : table.find? key = some v) : v.IsWritten := by
  obtain ⟨k, hmem⟩ := Table.exists_mem_of_find? hfind
  exact (isWritten_of_mem h hmem).2

namespace TagSettings

variable {table other entries : Table} {key : String} {v : Value} {name : List Char}

/-! ### Settings that are refused -/

/-- The settings are refused. -/
def IsRefusal (e : SettingsError) : Prop := ∃ reason, e = .rejected reason

theorem failsOnly_refuse {α : Type} {reason : List Char → RejectedSetting} (h : v.IsWritten) :
    FailsOnly IsRefusal (refuse reason v : Except SettingsError α) := by
  obtain ⟨s, hs⟩ := h
  rw [refuse, hs]
  exact ends_error_iff.2 ⟨_, rfl⟩

/-- A key that can be shown has a text. -/
theorem exists_plain?_of_shown? {k : Key} {shown : List Char} (h : k.shown? = some shown) :
    ∃ name, k.plain? = some name := by
  cases k with
  | text s => exact ⟨s, rfl⟩
  | other x =>
    obtain ⟨writing, hwriting, -⟩ := Option.map_eq_some_iff.1 h
    exact ⟨writing.plain, congrArg (Option.map _) hwriting⟩
  | _ => exact ⟨shown, h⟩

section

variable (hwritten : (Value.map table).IsWritten)

include hwritten

theorem failsOnly_readFlag {d : Bool} : FailsOnly IsRefusal (readFlag table key d) := by
  unfold readFlag
  split
  · exact failsOnly_ok
  · exact failsOnly_ok
  · exact failsOnly_refuse (Value.isWritten_of_find? hwritten ‹_›)

theorem failsOnly_readPositive {d : Int} : FailsOnly IsRefusal (readPositive table key d) := by
  unfold readPositive
  split
  · exact failsOnly_ok
  · split
    · exact failsOnly_ok
    · exact failsOnly_refuse (Value.isWritten_of_find? hwritten ‹_›)
  · exact failsOnly_refuse (Value.isWritten_of_find? hwritten ‹_›)

theorem failsOnly_readCount {d : Int} : FailsOnly IsRefusal (readCount table key d) := by
  unfold readCount
  split
  · exact failsOnly_ok
  · split
    · exact failsOnly_ok
    · exact failsOnly_refuse (Value.isWritten_of_find? hwritten ‹_›)
  · exact failsOnly_refuse (Value.isWritten_of_find? hwritten ‹_›)

theorem isWritten_of_readSection (h : readSection table key = .ok entries) :
    (Value.map entries).IsWritten := by
  unfold readSection at h
  split at h
  · cases h
    exact ⟨_, rfl⟩
  · cases h
    exact Value.isWritten_of_find? hwritten ‹_›
  · split at h
    · cases h
      exact ⟨_, rfl⟩
    · cases h

theorem failsOnly_readFamilies : FailsOnly IsRefusal (readFamilies table) := by
  unfold readFamilies
  split
  · exact failsOnly_ok
  · exact failsOnly_ok
  · rename_i hfind
    refine failsOnly_foldlM fun families entry hentry => ?_
    obtain ⟨⟨shown, hshown⟩, -⟩ :=
      Value.isWritten_of_mem (Value.isWritten_of_find? hwritten hfind) hentry
    obtain ⟨name, hname⟩ := exists_plain?_of_shown? hshown
    simp only [hname]
    split
    · cases ‹_ = none›
    · exact failsOnly_ok
    · exact ends_error_iff.2 ⟨_, rfl⟩
  · exact ends_error_iff.2 ⟨_, rfl⟩

end

theorem failsOnly_readSection : FailsOnly IsRefusal (readSection table key) := by
  unfold readSection
  split
  · exact failsOnly_ok
  · exact failsOnly_ok
  · split
    · exact failsOnly_ok
    · exact ends_error_iff.2 ⟨_, rfl⟩

/-! ### Size categories -/

theorem exists_mapM_keyText? {keys : List Key} (h : ∀ k ∈ keys, ∃ name, k = .text name) :
    ∃ names, keys.mapM keyText? = some names := by
  induction keys with
  | nil => exact ⟨[], rfl⟩
  | cons k keys ih =>
    obtain ⟨⟨name, rfl⟩, hkeys⟩ := List.forall_mem_cons.1 h
    obtain ⟨names, hnames⟩ := ih hkeys
    exact ⟨name :: names, by rw [List.mapM_cons, hnames]; rfl⟩

theorem failsOnly_checkCategories (h : ∀ entry ∈ entries, ∃ name, entry.1 = .text name) :
    FailsOnly IsRefusal (checkCategories entries) := by
  have hkeys : ∀ k ∈ (entries.map Prod.fst).filter fun k => (categoryOf? k).isNone,
      ∃ name, k = .text name := by
    intro k hk
    obtain ⟨entry, hentry, rfl⟩ := List.mem_map.1 (List.mem_filter.1 hk).1
    exact h entry hentry
  obtain ⟨names, hnames⟩ := exists_mapM_keyText? hkeys
  unfold checkCategories
  simp only [hnames]
  split
  · exact failsOnly_ok
  · exact ends_error_iff.2 ⟨_, rfl⟩

theorem exists_plain?_of_isWritten (h : v.IsWritten) : ∃ s, v.plain? = some s := by
  cases v with
  | text s => exact ⟨s, rfl⟩
  | other x =>
    obtain ⟨shown, hshown⟩ := h
    rw [Value.shown?] at hshown
    obtain ⟨writing, hwriting, -⟩ := Option.map_eq_some_iff.1 hshown
    exact ⟨writing.plain, congrArg (Option.map _) hwriting⟩
  | _ => exact h

theorem failsOnly_readThreshold (h : v.IsWritten)
    (hsmall : ∀ literal, v.plain? = some literal → ¬ ByteSize.IsTooLarge literal) :
    FailsOnly IsRefusal (readThreshold name v) := by
  obtain ⟨literal, hliteral⟩ := exists_plain?_of_isWritten h
  obtain ⟨size?, hsize⟩ := ByteSize.exists_bytes?_iff.2 (hsmall literal hliteral)
  unfold readThreshold
  cases v with
  | text _ | int _ | bool _ =>
    simp only [hliteral, hsize]
    cases size? with
    | none => exact failsOnly_refuse h
    | some bytes => exact failsOnly_ok
  | _ => exact failsOnly_refuse h

/-! ### Tables -/

/-- The table can be checked: its numerals can be written into messages, its size categories are
named by texts, and their thresholds can be worked out. -/
structure IsCheckable (table : Table) : Prop where
  /-- Every numeral is short enough to be written. -/
  written : (Value.map table).IsWritten
  /-- Size categories are named by texts. -/
  named : ∀ categories, table.find? (.text "size_categories".toList) = some (.map categories) →
    ∀ entry ∈ categories, ∃ name, entry.1 = .text name
  /-- No threshold is too large to be worked out. -/
  measured : ∀ categories, table.find? (.text "size_categories".toList) = some (.map categories) →
    ∀ entry ∈ categories, ∀ literal, entry.2.plain? = some literal → ¬ ByteSize.IsTooLarge literal

theorem find?_of_readSection (h : readSection table key = .ok entries) :
    entries = [] ∨ table.find? (.text key.toList) = some (.map entries) := by
  unfold readSection at h
  split at h
  · cases h
    exact .inl rfl
  · cases h
    exact .inr ‹_›
  · split at h
    · cases h
      exact .inl rfl
    · cases h

theorem failsOnly_readThresholds (hcheck : IsCheckable table)
    (h : readSection table "size_categories" = .ok entries) :
    FailsOnly IsRefusal (readThresholds entries) := by
  rcases find?_of_readSection h with rfl | hfind
  · exact failsOnly_ok
  · have hwritten := Value.isWritten_of_find? hcheck.written hfind
    refine (failsOnly_checkCategories (hcheck.named _ hfind)).bind fun _ _ => ?_
    refine failsOnly_foldlM fun sizes entry hentry => ?_
    simp only
    split
    · exact (failsOnly_readThreshold (Value.isWritten_of_mem hwritten hentry).2
        (hcheck.measured _ hfind entry hentry)).bind fun _ _ => failsOnly_ok
    · exact failsOnly_ok

/-- **A table that can be checked is refused, or its settings come out.** -/
theorem failsOnly_ofTable (h : IsCheckable table) : FailsOnly IsRefusal (ofTable table) := by
  have hw := h.written
  refine (failsOnly_readFlag hw).bind fun _ _ => (failsOnly_readFlag hw).bind fun _ _ =>
    (failsOnly_readPositive hw).bind fun _ _ => failsOnly_readSection.bind fun _ hcategories =>
    (failsOnly_readThresholds h hcategories).bind fun _ _ =>
    (failsOnly_readFamilies hw).bind fun _ _ => ?_
  refine failsOnly_readSection.bind fun time htime => ?_
  have htime := isWritten_of_readSection hw htime
  refine (failsOnly_readCount htime).bind fun _ _ => (failsOnly_readCount htime).bind fun _ _ => ?_
  refine failsOnly_readSection.bind fun git hgit => ?_
  have hgit := isWritten_of_readSection hw hgit
  exact (failsOnly_readFlag hgit).bind fun _ _ => (failsOnly_readFlag hgit).bind fun _ _ =>
    failsOnly_ok

/-! ### Sections that are passed over -/

/-- The keys of the settings that are sections. -/
def sectionKeys : List String := ["size_categories", "extension_types", "time", "git"]

/-- There is something at the key of a section that is neither null nor a table. -/
structure IsMistyped (table : Table) (key : String) (v : Value) : Prop where
  /-- The key is that of a section. -/
  isSection : key ∈ sectionKeys
  /-- The value is found there. -/
  found : table.find? (.text key.toList) = some v
  /-- It does not stand for a section that is left out. -/
  ne_null : v ≠ .null
  /-- It is no section. -/
  not_table : v.isTable = false

/-- What is no section is passed over in its place: it is false, zero or empty, and the section is
not that of the families of extensions. -/
def IsPassedOver (key : String) (v : Value) : Prop := key ≠ "extension_types" ∧ v.isVoid = true

/-- The table with a section without entries. -/
def emptied (table : Table) (key : String) : Table := table.put (.text key.toList) (.map [])

theorem find?_emptied_of_ne {another : String} (h : key ≠ another) :
    (emptied table key).find? (.text another.toList) = table.find? (.text another.toList) :=
  Table.find?_put_of_ne fun heq => h (String.toList_inj.1 heq)

theorem readSection_emptied : readSection (emptied table key) key = .ok [] := by
  unfold readSection emptied
  rw [Table.find?_put_self]

theorem readSection_of_void (hfind : table.find? (.text key.toList) = some v)
    (htable : v.isTable = false) (hvoid : v.isVoid = true) : readSection table key = .ok [] := by
  unfold readSection
  rw [hfind]
  cases v with
  | map entries => cases htable
  | _ => exact if_pos hvoid

theorem readSection_of_not_void (hfind : table.find? (.text key.toList) = some v)
    (htable : v.isTable = false) (hvoid : v.isVoid = false) :
    readSection table key = .error (.rejected (.sectionNotTable key v.kindName)) := by
  unfold readSection
  rw [hfind]
  cases v with
  | map entries => cases htable
  | _ => exact if_neg (by rw [hvoid]; decide)

/-- Two tables have the same settings when they say the same of the single ones and have the same
sections. -/
theorem ofTable_congr
    (hsame : ∀ key ∈ ["enabled", "cache_metadata", "cache_ttl_seconds", "extension_types"],
      other.find? (.text key.toList) = table.find? (.text key.toList))
    (hsections : ∀ key ∈ ["size_categories", "time", "git"],
      readSection other key = readSection table key) : ofTable other = ofTable table := by
  simp only [List.forall_mem_cons, List.not_mem_nil, false_imp_iff, implies_true, and_true]
    at hsame hsections
  obtain ⟨henabled, hmetadata, hseconds, hfamilies⟩ := hsame
  obtain ⟨hcategories, htime, hgit⟩ := hsections
  have hflag {key : String} (h : other.find? (.text key.toList) = table.find? (.text key.toList)) :
      readFlag other key true = readFlag table key true := by simp only [readFlag, h]
  simp only [ofTable, hflag henabled, hflag hmetadata, readPositive, hseconds, hcategories,
    readFamilies, hfamilies, htime, hgit]

/-- **What is passed over counts as a section without entries.** -/
theorem ofTable_of_isPassedOver (h : IsMistyped table key v) (hpassed : IsPassedOver key v) :
    ofTable table = ofTable (emptied table key) := by
  obtain ⟨hkey, hfind, -, htable⟩ := h
  obtain ⟨hfamilies, hvoid⟩ := hpassed
  have hsection := readSection_of_void hfind htable hvoid
  refine (ofTable_congr (fun another hanother => ?_) fun another hanother => ?_).symm
  · refine find?_emptied_of_ne ?_
    rintro rfl
    have hapart : ∀ key ∈ sectionKeys, key ≠ "extension_types" →
        key ∉ ["enabled", "cache_metadata", "cache_ttl_seconds", "extension_types"] := by decide
    exact hapart key hkey hfamilies hanother
  · by_cases hsame : key = another
    · rw [← hsame, readSection_emptied, hsection]
    · simp only [readSection, find?_emptied_of_ne hsame]

/-- **Where something is no section, settings come out only if it is passed over.** -/
theorem isPassedOver_of_ofTable {s : TagSettings} (h : IsMistyped table key v)
    (hs : ofTable table = .ok s) : IsPassedOver key v := by
  obtain ⟨hkey, hfind, hnull, htable⟩ := h
  obtain ⟨categories, time, git, hread⟩ := ofTable_eq_ok_iff.1 hs
  have hvoid {entries : Table} (h : readSection table key = .ok entries) : v.isVoid = true := by
    by_contra hnot
    rw [readSection_of_not_void hfind htable (Bool.eq_false_iff.2 hnot)] at h
    cases h
  simp only [sectionKeys, List.mem_cons, List.not_mem_nil, or_false] at hkey
  rcases hkey with rfl | rfl | rfl | rfl
  · exact ⟨by decide, hvoid hread.categoriesSection⟩
  · -- the families are refused without a look at what they are
    have hfamilies := hread.families
    unfold readFamilies at hfamilies
    rw [hfind] at hfamilies
    cases v with
    | null => exact absurd rfl hnull
    | map entries => cases htable
    | _ => cases hfamilies
  · exact ⟨by decide, hvoid hread.timeSection⟩
  · exact ⟨by decide, hvoid hread.gitSection⟩

/-- **When a table with something that is no section is refused.** Settings never come out of it
unless what is no section is passed over; then it makes no difference to a section without entries.
So a table that can be checked is refused, unless what is no section is passed over and the table
with an empty section in its place is not refused either. -/
theorem rejects_mistyped_iff (h : IsMistyped table key v) :
    ((∃ s, ofValue (.map table) = .ok s) → IsPassedOver key v) ∧
      (IsPassedOver key v → ofValue (.map table) = ofValue (.map (emptied table key))) ∧
      (IsCheckable table →
        ((∃ reason, ofValue (.map table) = .error (.rejected reason)) ↔
          (IsPassedOver key v →
            ∃ reason, ofValue (.map (emptied table key)) = .error (.rejected reason)))) := by
  have hempty (hpassed : IsPassedOver key v) :
      ofValue (.map table) = ofValue (.map (emptied table key)) :=
    ofTable_of_isPassedOver h hpassed
  refine ⟨fun ⟨s, hs⟩ => isPassedOver_of_ofTable h hs, hempty, fun hcheck => ⟨?_, fun hrest => ?_⟩⟩
  · intro hreason hpassed
    rwa [← hempty hpassed]
  · by_cases hpassed : IsPassedOver key v
    · rw [hempty hpassed]
      exact hrest hpassed
    · cases houtcome : ofValue (.map table) with
      | ok s => exact absurd (isPassedOver_of_ofTable h houtcome) hpassed
      | error e =>
        have hends := failsOnly_ofTable hcheck
        rw [ofValue] at houtcome
        rw [houtcome] at hends
        obtain ⟨reason, rfl⟩ := hends
        exact ⟨reason, rfl⟩

/-- A text where the section on time should be, after a zero where that on version control
should be. -/
theorem rejects_mistyped_of_text :
    let table : Table := Table.of [("git", .int 0), ("time", .text "7".toList),
      ("size_categories", .map (Table.of [("tiny", .text "2KB".toList)]))]
    IsMistyped table "git" (.int 0) ∧ IsPassedOver "git" (.int 0) ∧
      IsMistyped table "time" (.text "7".toList) ∧ ¬ IsPassedOver "time" (.text "7".toList) ∧
      IsCheckable table ∧ ∃ reason, ofValue (.map table) = .error (.rejected reason) := by
  intro table
  have hgit : IsMistyped table "git" (.int 0) := ⟨by decide, rfl, Value.noConfusion, rfl⟩
  have htime : IsMistyped table "time" (.text "7".toList) :=
    ⟨by decide, rfl, Value.noConfusion, rfl⟩
  have hnot : ¬ IsPassedOver "time" (.text "7".toList) := by
    rintro ⟨-, hvoid⟩
    cases hvoid
  have hcheck : IsCheckable table := by
    refine ⟨Option.isSome_iff_exists.1 (by decide +kernel), ?_, ?_⟩
    · intro categories hfind entry hentry
      cases hfind
      cases List.mem_singleton.1 hentry
      exact ⟨_, rfl⟩
    · intro categories hfind entry hentry literal hliteral
      cases hfind
      cases List.mem_singleton.1 hentry
      cases hliteral
      exact ByteSize.exists_bytes?_iff.1 ⟨some 2000, by decide +kernel⟩
  exact ⟨hgit, ⟨by decide, rfl⟩, htime, hnot, hcheck,
    ((rejects_mistyped_iff htime).2.2 hcheck).2 fun hpassed => absurd hpassed hnot⟩

/-- A section on time that is false is passed over, and the settings are those used if none are
given. -/
theorem not_rejects_false_section :
    ¬ ∀ (table : Table) (key : String) (v : Value), IsMistyped table key v →
      ∃ reason, ofValue (.map table) = .error (.rejected reason) := by
  intro hall
  obtain ⟨reason, h⟩ := hall (Table.of [("time", .bool false)]) "time" (.bool false)
    ⟨by decide, rfl, Value.noConfusion, rfl⟩
  cases h

end TagSettings

end FileSieve
