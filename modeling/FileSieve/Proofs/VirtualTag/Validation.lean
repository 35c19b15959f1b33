import FileSieve.Proofs.Outcome
import FileSieve.Settings.Layers
import FileSieve.VirtualTag.Evaluation
import Mathlib.Data.List.Nodup

/-!
# Settings that are accepted

Every section of a table of settings is checked by a rule of its own, and what is missing keeps its
default. What comes out satisfies one condition, `IsSound`, and the table that spells out sound
settings is accepted with nothing changed. So the sound settings are those that can come out.

* `isSound_of_ofTable`: settings that were accepted are sound.
* `ofTable_table`: sound settings are read back from the table that spells them out.
* `at?_table_of_isSilentAt`: what the table says nothing about keeps its default.
* `ofTable_sound_and_stable`: all of this of settings that were accepted.
-/

namespace FileSieve

open Text

/-- The value says nothing at the end of a path: whatever is there is null. -/
def Value.IsSilentAt (v : Value) (names : List (List Char)) : Prop :=
  ∀ w, v.at? names = some w → w = .null

namespace TagSettings

variable {table entries : Table} {key : String} {s : TagSettings}

/-- The settings make sense. -/
structure IsSound (s : TagSettings) : Prop where
  /-- Metadata is kept for a while, if it is kept. -/
  cacheSeconds : 0 < s.cacheSeconds
  /-- The threshold of every category is a size. -/
  sizes : ∀ category, ∃ bytes, s.sizes.bytes? category = .ok (some bytes)
  /-- No family is named twice. -/
  families : (s.families.map Prod.fst).Nodup
  /-- Every extension starts with a dot. -/
  extensions : ∀ family ∈ s.families, ∀ ext ∈ family.2, ext.head? = some '.'
  /-- Files are recent for a number of days. -/
  recentDays : 0 ≤ s.recentDays
  /-- Files are stale after a number of days. -/
  staleDays : 0 ≤ s.staleDays

/-- The paths of all settings in a table. -/
def fieldPaths : List (List (List Char)) :=
  ([["enabled"], ["cache_metadata"], ["cache_ttl_seconds"], ["extension_types"],
    ["time", "recent"], ["time", "stale"], ["git", "enabled"], ["git", "detect_repo"]] ++
    SizeCategory.all.map fun category => ["size_categories", category.word]).map
      (·.map String.toList)

/-! ### Single values -/

theorem at?_single {name : List Char} :
    (Value.map entries).at? [name] = entries.find? (.text name) := by
  simp [Value.at?]

theorem refuse_ne_ok {α : Type} {reason : List Char → RejectedSetting} {v : Value} {a : α} :
    refuse reason v ≠ .ok a := by
  unfold refuse
  split <;> exact fun h => by cases h

theorem readFlag_eq_ok_iff {d b : Bool} : readFlag table key d = .ok b ↔
    table.find? (.text key.toList) = some (.bool b) ∨
      table.find? (.text key.toList) = none ∧ b = d := by
  unfold readFlag
  cases table.find? (.text key.toList) with
  | none => simp [eq_comm]
  | some v => cases v <;> simp [refuse_ne_ok]

theorem readPositive_eq_ok_iff {d n : Int} : readPositive table key d = .ok n ↔
    table.find? (.text key.toList) = some (.int n) ∧ 0 < n ∨
      table.find? (.text key.toList) = none ∧ n = d := by
  unfold readPositive
  cases table.find? (.text key.toList) with
  | none => simp [eq_comm]
  | some v =>
    cases v with
    | int m => by_cases hm : 0 < m <;> simp [refuse_ne_ok, hm] <;> grind
    | _ => simp [refuse_ne_ok]

theorem readCount_eq_ok_iff {d n : Int} : readCount table key d = .ok n ↔
    table.find? (.text key.toList) = some (.int n) ∧ 0 ≤ n ∨
      table.find? (.text key.toList) = none ∧ n = d := by
  unfold readCount
  cases table.find? (.text key.toList) with
  | none => simp [eq_comm]
  | some v =>
    cases v with
    | int m => by_cases hm : 0 ≤ m <;> simp [refuse_ne_ok, hm] <;> grind
    | _ => simp [refuse_ne_ok]

theorem pos_of_readPositive {d n : Int} (h : readPositive table key d = .ok n) (hd : 0 < d) :
    0 < n := by
  rcases readPositive_eq_ok_iff.1 h with ⟨-, hn⟩ | ⟨-, rfl⟩
  · exact hn
  · exact hd

theorem nonneg_of_readCount {d n : Int} (h : readCount table key d = .ok n) (hd : 0 ≤ d) :
    0 ≤ n := by
  rcases readCount_eq_ok_iff.1 h with ⟨-, hn⟩ | ⟨-, rfl⟩
  · exact hn
  · exact hd

/-- Where a table says nothing, what is not read from it is the default. -/
theorem default_of_isSilentAt {α : Type} {a d : α} {v : Value}
    (hsilent : (Value.map table).IsSilentAt [key.toList]) (hv : v ≠ .null)
    (h : table.find? (.text key.toList) = some v ∨
      table.find? (.text key.toList) = none ∧ a = d) : a = d := by
  rw [Value.IsSilentAt, at?_single] at hsilent
  rcases h with hfind | ⟨-, hdefault⟩
  · exact absurd (hsilent v hfind) hv
  · exact hdefault

theorem default_of_readFlag {d b : Bool} (h : readFlag table key d = .ok b)
    (hsilent : (Value.map table).IsSilentAt [key.toList]) : b = d :=
  default_of_isSilentAt hsilent Value.noConfusion (readFlag_eq_ok_iff.1 h)

theorem default_of_readPositive {d n : Int} (h : readPositive table key d = .ok n)
    (hsilent : (Value.map table).IsSilentAt [key.toList]) : n = d :=
  default_of_isSilentAt hsilent Value.noConfusion ((readPositive_eq_ok_iff.1 h).imp_left And.left)

theorem default_of_readCount {d n : Int} (h : readCount table key d = .ok n)
    (hsilent : (Value.map table).IsSilentAt [key.toList]) : n = d :=
  default_of_isSilentAt hsilent Value.noConfusion ((readCount_eq_ok_iff.1 h).imp_left And.left)

/-- A path into a section ends where it does in the entries of the section. -/
theorem at?_of_readSection (h : readSection table key = .ok entries) {name : List Char}
    {names : List (List Char)} : (Value.map table).at? (key.toList :: name :: names) =
      (Value.map entries).at? (name :: names) := by
  unfold readSection at h
  rw [Value.at?]
  cases hfind : table.find? (.text key.toList) with
  | none =>
    rw [hfind] at h
    cases h
    rfl
  | some v =>
    rw [hfind] at h
    cases v with
    | map inner =>
      cases h
      rfl
    | _ =>
      -- what is no table has no entries
      simp only at h
      split at h
      · cases h
        rfl
      · cases h

theorem isSilentAt_of_readSection (h : readSection table key = .ok entries) {name : List Char}
    (hsilent : (Value.map table).IsSilentAt [key.toList, name]) :
    (Value.map entries).IsSilentAt [name] := by
  rwa [Value.IsSilentAt, at?_of_readSection h] at hsilent

/-! ### Size categories -/

theorem bytes?_of_readThreshold {name literal : List Char} {v : Value}
    (h : readThreshold name v = .ok literal) :
    v ≠ .null ∧ ∃ bytes, ByteSize.bytes? literal = .ok (some bytes) := by
  unfold readThreshold at h
  simp only at h
  split at h
  · exact absurd h refuse_ne_ok
  · cases h
  · rename_i hliteral
    split at h
    · cases h
    · exact absurd h refuse_ne_ok
    · rename_i bytes hbytes
      cases h
      refine ⟨?_, bytes, hbytes⟩
      rintro rfl
      cases hliteral

theorem readThreshold_text {name literal : List Char} {bytes : Nat}
    (h : ByteSize.bytes? literal = .ok (some bytes)) :
    readThreshold name (.text literal) = .ok literal := by
  simp only [readThreshold, Value.plain?, h]

theorem categoryOf?_eq_some {k : Key} {category : SizeCategory}
    (h : categoryOf? k = some category) : k = .text category.word.toList := by
  cases k with
  | text name =>
    rw [categoryOf?, SizeCategory.ofWord?] at h
    have hname : category.word.toList = name := by simpa using List.find?_some h
    rw [hname]
  | _ => cases h

theorem literal_set_eq (sizes : SizeThresholds) (literal : List Char)
    (category other : SizeCategory) : (sizes.set literal category).literal other =
      if other = category then literal else sizes.literal other := by
  cases category <;> cases other <;> rfl

theorem bytes?_of_readThresholds {sizes : SizeThresholds}
    (h : readThresholds entries = .ok sizes) (category : SizeCategory) :
    ∃ bytes, sizes.bytes? category = .ok (some bytes) := by
  obtain ⟨-, -, h⟩ := bind_eq_ok_iff.1 h
  revert category
  refine foldlM_preserves (p := fun sizes : SizeThresholds =>
    ∀ category, ∃ bytes, sizes.bytes? category = .ok (some bytes)) ?_ ?_ h
  · rintro sizes ⟨k, v⟩ next hsizes hnext category
    simp only at hnext
    split at hnext
    · obtain ⟨literal, hliteral, hnext⟩ := bind_eq_ok_iff.1 hnext
      cases hnext
      rw [SizeThresholds.bytes?, literal_set_eq]
      split
      · exact (bytes?_of_readThreshold hliteral).2
      · exact hsizes category
    · cases hnext
      exact hsizes category
  · -- the thresholds that are used if none are given
    intro category
    cases category with
    | tiny => exact ⟨1000, by decide +kernel⟩
    | small => exact ⟨100000, by decide +kernel⟩
    | medium => exact ⟨1000000, by decide +kernel⟩
    | large => exact ⟨10000000, by decide +kernel⟩
    | huge => exact ⟨100000000, by decide +kernel⟩

/-- A category that is not named keeps its threshold. -/
theorem literal_of_readThresholds {sizes : SizeThresholds} {category : SizeCategory}
    (h : readThresholds entries = .ok sizes)
    (hsilent : (Value.map entries).IsSilentAt [category.word.toList]) :
    sizes.literal category = SizeThresholds.default.literal category := by
  obtain ⟨-, -, hfold⟩ := bind_eq_ok_iff.1 h
  clear h
  rw [Value.IsSilentAt, at?_single] at hsilent
  generalize SizeThresholds.default = start at hfold ⊢
  induction entries generalizing start with
  | nil =>
    cases hfold
    rfl
  | cons entry rest ih =>
    obtain ⟨k, v⟩ := entry
    rw [List.foldlM_cons, bind_eq_ok_iff] at hfold
    obtain ⟨next, hnext, hrest⟩ := hfold
    rw [Table.find?, Table.same_text_right] at hsilent
    simp only at hnext
    by_cases hk : k = .text category.word.toList
    · -- null is no threshold
      rw [hk, categoryOf?, SizeCategory.ofWord?_word] at hnext
      obtain ⟨literal, hliteral, -⟩ := bind_eq_ok_iff.1 hnext
      exact absurd (hsilent v (by simp [hk])) (bytes?_of_readThreshold hliteral).1
    · rw [if_neg (by simpa using hk)] at hsilent
      rw [ih hsilent next hrest]
      split at hnext
      · rename_i other hother
        obtain ⟨literal, -, hnext⟩ := bind_eq_ok_iff.1 hnext
        cases hnext
        rw [literal_set_eq, if_neg]
        rintro rfl
        exact hk (categoryOf?_eq_some hother)
      · cases hnext
        rfl

/-- Thresholds that are sizes are read back from the table that spells them out. -/
theorem readThresholds_literals {sizes : SizeThresholds}
    (h : ∀ category, ∃ bytes, sizes.bytes? category = .ok (some bytes)) :
    readThresholds (Table.of (SizeCategory.all.map fun category =>
      (category.word, .text (sizes.literal category)))) = .ok sizes := by
  have hread (category : SizeCategory) : readThreshold category.word.toList
      (.text (sizes.literal category)) = .ok (sizes.literal category) := by
    obtain ⟨bytes, hbytes⟩ := h category
    exact readThreshold_text hbytes
  refine bind_eq_ok_iff.2 ⟨(), rfl, ?_⟩
  simp only [SizeCategory.all, Table.of, List.map_cons, List.map_nil, List.foldlM_cons,
    List.foldlM_nil, categoryOf?, SizeCategory.ofWord?_word, hread]
  rfl

/-! ### Families of extensions -/

variable {name : List Char} {extensions : List (List Char)} {families : ExtensionTable}

theorem putFamily_of_not_mem (h : name ∉ families.map Prod.fst) :
    putFamily name extensions families = families ++ [(name, extensions)] := by
  induction families with
  | nil => rfl
  | cons family rest ih =>
    rw [List.map_cons, List.mem_cons, not_or] at h
    rw [putFamily, if_neg (Ne.symm h.1), ih h.2, List.cons_append]

theorem map_fst_putFamily_of_mem (h : name ∈ families.map Prod.fst) :
    (putFamily name extensions families).map Prod.fst = families.map Prod.fst := by
  induction families with
  | nil => cases h
  | cons family rest ih =>
    by_cases hname : family.1 = name
    · simp [putFamily, hname]
    · rw [List.map_cons, List.mem_cons] at h
      rw [putFamily, if_neg hname, List.map_cons, ih (h.resolve_left (Ne.symm hname)),
        List.map_cons]

theorem nodup_putFamily (h : (families.map Prod.fst).Nodup) :
    ((putFamily name extensions families).map Prod.fst).Nodup := by
  by_cases hname : name ∈ families.map Prod.fst
  · rwa [map_fst_putFamily_of_mem hname]
  · rw [putFamily_of_not_mem hname, List.map_append, List.nodup_append_comm]
    exact List.nodup_cons.2 ⟨hname, h⟩

theorem mem_putFamily {family : List Char × List (List Char)}
    (h : family ∈ putFamily name extensions families) :
    family = (name, extensions) ∨ family ∈ families := by
  induction families with
  | nil => exact .inl (List.mem_singleton.1 h)
  | cons first rest ih =>
    rw [putFamily] at h
    split at h
    · rename_i hname
      rcases List.mem_cons.1 h with rfl | h
      · exact .inl (by rw [hname])
      · exact .inr (List.mem_cons_of_mem _ h)
    · rcases List.mem_cons.1 h with rfl | h
      · exact .inr List.mem_cons_self
      · exact (ih h).imp_right (List.mem_cons_of_mem _)

theorem head?_dottedExtension {ext : List Char} : (dottedExtension ext).head? = some '.' := by
  unfold dottedExtension
  split
  · assumption
  · rfl

theorem dottedExtension_of_head? {ext : List Char} (h : ext.head? = some '.') :
    dottedExtension ext = ext := if_pos h

theorem head?_of_readExtension? {v : Value} {ext : List Char} (h : readExtension? v = some ext) :
    ext.head? = some '.' := by
  unfold readExtension? at h
  split at h
  · cases h
    exact head?_dottedExtension
  · cases h

theorem head?_of_readExtensions? {v : Value} (h : readExtensions? v = some extensions) :
    ∀ ext ∈ extensions, ext.head? = some '.' := by
  have hitems : ∃ items : List Value, items.mapM readExtension? = some extensions := by
    cases v with
    | list items | tuple items => exact ⟨items, h⟩
    | _ => cases h
  simp only [mapM_eq_some_iff] at hitems
  obtain ⟨items, hread⟩ := hitems
  clear h
  induction hread with
  | nil => exact List.forall_mem_nil _
  | cons hitem _ ih => exact List.forall_mem_cons.2 ⟨head?_of_readExtension? hitem, ih⟩

theorem readExtensions?_texts (h : ∀ ext ∈ extensions, ext.head? = some '.') :
    readExtensions? (.list (extensions.map .text)) = some extensions := by
  rw [readExtensions?]
  induction extensions with
  | nil => rfl
  | cons ext rest ih =>
    obtain ⟨hext, hrest⟩ := List.forall_mem_cons.1 h
    rw [List.map_cons, List.mapM_cons, ih hrest]
    cases ext with
    | nil => cases hext
    | cons c ext => simp [readExtension?, dottedExtension_of_head? hext]

theorem nodup_dotted_of_readFamilies (h : readFamilies table = .ok families) :
    (families.map Prod.fst).Nodup ∧
      ∀ family ∈ families, ∀ ext ∈ family.2, ext.head? = some '.' := by
  unfold readFamilies at h
  split at h
  · cases h
    decide
  · cases h
    decide
  · refine foldlM_preserves (p := fun families : ExtensionTable =>
      (families.map Prod.fst).Nodup ∧
        ∀ family ∈ families, ∀ ext ∈ family.2, ext.head? = some '.') ?_ (by decide) h
    rintro families ⟨k, v⟩ next ⟨hnodup, hdotted⟩ hnext
    simp only at hnext
    split at hnext
    · cases hnext
    · rename_i name extensions _ hextensions
      cases hnext
      refine ⟨nodup_putFamily hnodup, fun family hfamily => ?_⟩
      rcases mem_putFamily hfamily with rfl | hfamily
      · exact head?_of_readExtensions? hextensions
      · exact hdotted family hfamily
    · cases hnext
  · cases h

theorem default_of_readFamilies (h : readFamilies table = .ok families)
    (hsilent : (Value.map table).IsSilentAt ["extension_types".toList]) :
    families = defaultFamilies := by
  rw [Value.IsSilentAt, at?_single] at hsilent
  unfold readFamilies at h
  split at h
  · cases h
    rfl
  · cases h
    rfl
  · rename_i hfind
    cases hsilent _ hfind
  · cases h

/-- Entries with new names are added at the end. -/
theorem foldlM_putFamily (before : ExtensionTable)
    (hnodup : ((before ++ families).map Prod.fst).Nodup)
    (hdotted : ∀ family ∈ families, ∀ ext ∈ family.2, ext.head? = some '.') :
    (families.map fun family => (Key.text family.1, Value.list (family.2.map .text))).foldlM
      (fun families (key, v) =>
        match key.plain?, readExtensions? v with
        | none, _ => .error .numeralTooLong
        | some name, some extensions => .ok (putFamily name extensions families)
        | some name, none => .error (.rejected (.badFamily name))) before =
      Except.ok (ε := SettingsError) (before ++ families) := by
  induction families generalizing before with
  | nil => simp [pure, Except.pure]
  | cons family rest ih =>
    obtain ⟨hext, hrest⟩ := List.forall_mem_cons.1 hdotted
    have hnew : family.1 ∉ before.map Prod.fst := by
      intro hmem
      rw [List.map_append, List.map_cons] at hnodup
      exact (List.nodup_append.1 hnodup).2.2 _ hmem _ List.mem_cons_self rfl
    rw [List.append_cons] at hnodup ⊢
    simp only [List.map_cons, List.foldlM_cons, readExtensions?_texts hext, Key.plain?,
      putFamily_of_not_mem hnew]
    exact ih _ hnodup hrest

/-! ### Tables -/

/-- What each of the settings was read from: a table and the entries of its sections. -/
structure IsReading (table categories time git : Table) (s : TagSettings) : Prop where
  enabled : readFlag table "enabled" true = .ok s.enabled
  cacheMetadata : readFlag table "cache_metadata" true = .ok s.cacheMetadata
  cacheSeconds : readPositive table "cache_ttl_seconds" 300 = .ok s.cacheSeconds
  categoriesSection : readSection table "size_categories" = .ok categories
  sizes : readThresholds categories = .ok s.sizes
  families : readFamilies table = .ok s.families
  timeSection : readSection table "time" = .ok time
  recentDays : readCount time "recent" 7 = .ok s.recentDays
  staleDays : readCount time "stale" 180 = .ok s.staleDays
  gitSection : readSection table "git" = .ok git
  gitEnabled : readFlag git "enabled" true = .ok s.gitEnabled
  detectRepo : readFlag git "detect_repo" true = .ok s.detectRepo

theorem ofTable_eq_ok_iff :
    ofTable table = .ok s ↔ ∃ categories time git, IsReading table categories time git s := by
  constructor
  · intro h
    obtain ⟨enabled, henabled, h⟩ := bind_eq_ok_iff.1 h
    obtain ⟨cacheMetadata, hmetadata, h⟩ := bind_eq_ok_iff.1 h
    obtain ⟨cacheSeconds, hseconds, h⟩ := bind_eq_ok_iff.1 h
    obtain ⟨categories, hcategories, h⟩ := bind_eq_ok_iff.1 h
    obtain ⟨sizes, hsizes, h⟩ := bind_eq_ok_iff.1 h
    obtain ⟨families, hfamilies, h⟩ := bind_eq_ok_iff.1 h
    obtain ⟨time, htime, h⟩ := bind_eq_ok_iff.1 h
    obtain ⟨recentDays, hrecent, h⟩ := bind_eq_ok_iff.1 h
    obtain ⟨staleDays, hstale, h⟩ := bind_eq_ok_iff.1 h
    obtain ⟨git, hgit, h⟩ := bind_eq_ok_iff.1 h
    obtain ⟨gitEnabled, hgitEnabled, h⟩ := bind_eq_ok_iff.1 h
    obtain ⟨detectRepo, hdetect, h⟩ := bind_eq_ok_iff.1 h
    cases h
    exact ⟨categories, time, git, henabled, hmetadata, hseconds, hcategories, hsizes, hfamilies,
      htime, hrecent, hstale, hgit, hgitEnabled, hdetect⟩
  · rintro ⟨categories, time, git, h⟩
    simp only [ofTable, bind, Except.bind, h.enabled, h.cacheMetadata, h.cacheSeconds,
      h.categoriesSection, h.sizes, h.families, h.timeSection, h.recentDays, h.staleDays,
      h.gitSection, h.gitEnabled, h.detectRepo]
    rfl

/-- **Settings that were accepted are sound.** -/
theorem isSound_of_ofTable (h : ofTable table = .ok s) : s.IsSound := by
  obtain ⟨categories, time, git, h⟩ := ofTable_eq_ok_iff.1 h
  obtain ⟨hnodup, hdotted⟩ := nodup_dotted_of_readFamilies h.families
  exact {
    cacheSeconds := pos_of_readPositive h.cacheSeconds (by decide)
    sizes := bytes?_of_readThresholds h.sizes
    families := hnodup
    extensions := hdotted
    recentDays := nonneg_of_readCount h.recentDays (by decide)
    staleDays := nonneg_of_readCount h.staleDays (by decide) }

/-- **Sound settings are read back from the table that spells them out.** -/
theorem ofTable_table (h : s.IsSound) : ofTable s.table = .ok s := by
  refine ofTable_eq_ok_iff.2 ⟨_, _, _, {
    enabled := readFlag_of_bool rfl
    cacheMetadata := readFlag_of_bool rfl
    cacheSeconds := readPositive_eq_ok_iff.2 (.inl ⟨rfl, h.cacheSeconds⟩)
    categoriesSection := rfl
    sizes := readThresholds_literals h.sizes
    families := foldlM_putFamily [] h.families h.extensions
    timeSection := rfl
    recentDays := readCount_eq_ok_iff.2 (.inl ⟨rfl, h.recentDays⟩)
    staleDays := readCount_eq_ok_iff.2 (.inl ⟨rfl, h.staleDays⟩)
    gitSection := rfl
    gitEnabled := readFlag_of_bool rfl
    detectRepo := readFlag_of_bool rfl }⟩

/-- **The sound settings are those that are accepted.** -/
theorem isSound_iff : s.IsSound ↔ ∃ table, ofTable table = .ok s := by
  constructor
  · intro h
    exact ⟨s.table, ofTable_table h⟩
  · rintro ⟨table, h⟩
    exact isSound_of_ofTable h

theorem at?_table_families : (Value.map s.table).at? ["extension_types".toList] =
    some (.map (s.families.map fun family =>
      (.text family.1, .list (family.2.map .text)))) := rfl

theorem at?_table_size {category : SizeCategory} :
    (Value.map s.table).at? (["size_categories", category.word].map String.toList) =
      some (.text (s.sizes.literal category)) := by
  cases category <;> rfl

/-- **What a table says nothing about keeps its default.** -/
theorem at?_table_of_isSilentAt (h : ofTable table = .ok s) {path : List (List Char)}
    (hpath : path ∈ fieldPaths) (hsilent : (Value.map table).IsSilentAt path) :
    (Value.map s.table).at? path = (Value.map default.table).at? path := by
  obtain ⟨categories, time, git, h⟩ := ofTable_eq_ok_iff.1 h
  rw [fieldPaths, List.map_append, List.mem_append] at hpath
  rcases hpath with hpath | hpath
  · simp only [List.map_cons, List.map_nil, List.mem_cons, List.not_mem_nil, or_false] at hpath
    rcases hpath with rfl | rfl | rfl | rfl | rfl | rfl | rfl | rfl
    · exact congrArg (some <| Value.bool ·) (default_of_readFlag h.enabled hsilent)
    · exact congrArg (some <| Value.bool ·) (default_of_readFlag h.cacheMetadata hsilent)
    · exact congrArg (some <| Value.int ·) (default_of_readPositive h.cacheSeconds hsilent)
    · rw [at?_table_families, at?_table_families, default_of_readFamilies h.families hsilent]
      rfl
    · exact congrArg (some <| Value.int ·)
        (default_of_readCount h.recentDays (isSilentAt_of_readSection h.timeSection hsilent))
    · exact congrArg (some <| Value.int ·)
        (default_of_readCount h.staleDays (isSilentAt_of_readSection h.timeSection hsilent))
    · exact congrArg (some <| Value.bool ·)
        (default_of_readFlag h.gitEnabled (isSilentAt_of_readSection h.gitSection hsilent))
    · exact congrArg (some <| Value.bool ·)
        (default_of_readFlag h.detectRepo (isSilentAt_of_readSection h.gitSection hsilent))
  · obtain ⟨names, hnames, rfl⟩ := List.mem_map.1 hpath
    obtain ⟨category, -, rfl⟩ := List.mem_map.1 hnames
    rw [at?_table_size, at?_table_size]
    exact congrArg (some <| Value.text ·)
      (literal_of_readThresholds h.sizes (isSilentAt_of_readSection h.categoriesSection hsilent))

/-! ### Thresholds in use -/

/-- The threshold of a category is the size that its literal stands for. -/
theorem threshold_of_bytes? {category : SizeCategory} {bytes : Nat}
    (h : s.sizes.bytes? category = .ok (some bytes)) :
    VirtualTag.threshold s category = .ok bytes := by
  rw [VirtualTag.threshold, h]

/-- **Settings that were accepted are sound, keep the defaults of what was not said, and come out
again of the table that spells them out.** Where a threshold is asked for, it is that of the
settings. -/
theorem ofTable_sound_and_stable (h : ofTable table = .ok s) :
    s.IsSound ∧
      (∀ category, ∃ bytes, s.sizes.bytes? category = .ok (some bytes) ∧
        VirtualTag.threshold s category = .ok bytes) ∧
      (∀ path ∈ fieldPaths, (Value.map table).IsSilentAt path →
        (Value.map s.table).at? path = (Value.map default.table).at? path) ∧
      ofTable s.table = .ok s := by
  have hsound := isSound_of_ofTable h
  refine ⟨hsound, fun category => ?_, fun path hpath => at?_table_of_isSilentAt h hpath,
    ofTable_table hsound⟩
  obtain ⟨bytes, hbytes⟩ := hsound.sizes category
  exact ⟨bytes, hbytes, threshold_of_bytes? hbytes⟩

/-- A number as a threshold, an extension without a dot, and a section that is null. -/
theorem ofTable_sound_and_stable_of_part :
    let table : Table := Table.of [("cache_ttl_seconds", .int 60),
      ("size_categories", .map (Table.of [("tiny", .int 2048)])),
      ("extension_types", .map (Table.of
        [("source", .list [.text "py".toList, .text ".rs".toList])])),
      ("time", .map (Table.of [("recent", .int 0)])), ("git", .null)]
    let s : TagSettings := { default with
      cacheSeconds := 60
      sizes := SizeThresholds.default.set "2048".toList .tiny
      families := [("source".toList, [".py".toList, ".rs".toList])]
      recentDays := 0 }
    ofTable table = .ok s ∧ s.IsSound ∧ VirtualTag.threshold s .tiny = .ok 2048 ∧
      (Value.map s.table).at? ["git".toList, "enabled".toList] = some (.bool true) ∧
      ofTable s.table = .ok s := by
  intro table s
  have h : ofTable table = .ok s := by decide +kernel
  have hsilent : (Value.map table).IsSilentAt ["git".toList, "enabled".toList] := by
    intro w hw
    cases hw
  obtain ⟨hsound, hthreshold, hdefault, hstable⟩ := ofTable_sound_and_stable h
  obtain ⟨bytes, hbytes, htiny⟩ := hthreshold .tiny
  have hvalue : s.sizes.bytes? .tiny = .ok (some 2048) := by decide +kernel
  cases hbytes.symm.trans hvalue
  exact ⟨h, hsound, htiny, hdefault _ (by decide) hsilent, hstable⟩

end TagSettings

end FileSieve
