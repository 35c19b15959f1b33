import FileSieve.Proofs.ByteSize.Monotone
import FileSieve.Proofs.Number.Literal
import FileSieve.Proofs.Settings.Precedence
import FileSieve.Proofs.Settings.Variables
import FileSieve.Proofs.VirtualTag.Validation
import FileSieve.Settings.HomeFolder

/-!
# Thresholds from the environment

A variable may set the threshold of a size category. Its text is taken for a number if it looks like
one, and a threshold may be a whole number or a text: a number is written down again, and read as a
size. A floating point number is refused, although the text is a size.

* `Environment.exists_readValue_of_isFloatText`, `Environment.readValue_of_writes`: what the text of
  a size is taken for.
* `TagSettings.exists_readThreshold_readValue`, `TagSettings.exists_readThreshold_of_isFloatText`:
  whether that is a threshold.
* `Layers.tagSettings?_put_threshold`: the settings of a layer with a threshold.
* `Layers.threshold_of_variable`: the thresholds that come from the environment.
-/

namespace FileSieve

open Text ByteSize

variable {s : List Char} {v : ℚ} {n : Nat} {category : SizeCategory}

/-! ### Numbers that are no whole ones -/

/-- The text is a number without a unit that is not taken for a whole one: it has a fraction, or it
is too long. -/
def IsFloatText (s : List Char) : Prop :=
  ∃ number v, StandsAlone number s ∧ WritesNumber number v ∧
    ('.' ∈ number ∨ maxNumeralLength < number.length)

/-- Between the blanks around it, such a text has a dot or is too long. -/
theorem IsFloatText.trimNumberBlanks (h : IsFloatText s) :
    '.' ∈ Text.trimNumberBlanks s ∨ maxNumeralLength < (Text.trimNumberBlanks s).length := by
  obtain ⟨number, v, halone, hnumber, hlong⟩ := h
  rwa [halone.trimNumberBlanks_eq hnumber.isTrimmed]

namespace Environment

/-! ### What the text of a size is taken for -/

/-- A text with a digit is no word for a truth value. -/
theorem readValue_of_isDigit {d : Char} (hd : d ∈ s) (hdigit : isDigit d = true) :
    readValue s = match integerLiteral? s, Binary64.literal? s with
      | some n, _ => .int n
      | none, some x => .float x
      | none, none => .text s := by
  have hall : ∀ word ∈ ["true", "yes", "false", "no"], word.toList.all Char.isLower = true := by
    decide +kernel
  have hne (word : String) (hword : word ∈ ["true", "yes", "false", "no"]) :
      lowerText s ≠ word.toList := by
    intro heq
    have hlower := List.all_eq_true.1 (hall word hword)
    rw [← heq] at hlower
    rw [(letters_of_isLower hlower d hd).2.1] at hdigit
    cases hdigit
  have htrue : ¬ (lowerText s = "true".toList ∨ lowerText s = "yes".toList) :=
    not_or.2 ⟨hne "true" (by simp), hne "yes" (by simp)⟩
  have hfalse : ¬ (lowerText s = "false".toList ∨ lowerText s = "no".toList) :=
    not_or.2 ⟨hne "false" (by simp), hne "no" (by simp)⟩
  exact (if_neg htrue).trans (if_neg hfalse)

/-- **A fraction or a number that is too long is taken for a floating point number.** -/
theorem exists_readValue_of_isFloatText (h : IsFloatText s) : ∃ x, readValue s = .float x := by
  obtain ⟨number, v, halone, hnumber, hlong⟩ := h
  obtain ⟨d, hd, hdigit⟩ : ∃ d ∈ s, isDigit d = true := by
    obtain ⟨c, rest, rfl, hc⟩ := hnumber.exists_cons
    exact ⟨c, halone.mem_of_mem List.mem_cons_self, hc⟩
  have hwhole : integerLiteral? s = none := by
    by_cases hdot : '.' ∈ number
    · exact integerLiteral?_of_dot (halone.mem_of_mem hdot)
    · rw [integerLiteral?_of_digits halone (hnumber.isDigitText hdot), readDigits?,
        if_neg (Nat.not_le.2 (hlong.resolve_left hdot))]
      rfl
  obtain ⟨x, hx⟩ := Binary64.exists_literal?_of_writesNumber halone hnumber
  exact ⟨x, by rw [readValue_of_isDigit hd hdigit, hwhole, hx]⟩

/-- **Any other text of a size stays a text, or is taken for the whole number that it writes.** -/
theorem readValue_of_writes (h : Writes s v) (hfloat : ¬ IsFloatText s) :
    readValue s = .text s ∨
      ∃ n : Nat, readValue s = .int n ∧ n < Nat.pow 10 maxNumeralLength ∧ v = n := by
  obtain ⟨d, hd, hdigit⟩ := h.exists_isDigit
  rw [readValue_of_isDigit hd hdigit]
  -- a character that no number has, in the unit or around it, keeps the text what it is
  by_cases hchars : ∀ c ∈ s, IsNumberChar c
  · right
    obtain ⟨number, halone, hnumber⟩ := h.standsAlone hchars
    have hdot : '.' ∉ number := fun hdot => hfloat ⟨number, v, halone, hnumber, .inl hdot⟩
    have hshort : number.length ≤ maxNumeralLength :=
      Nat.not_lt.1 fun hlong => hfloat ⟨number, v, halone, hnumber, .inr hlong⟩
    refine ⟨digitsValue number, ?_, digitsValue_lt_of_le hshort, ?_⟩
    · rw [integerLiteral?_of_digits halone (hnumber.isDigitText hdot), readDigits?, if_pos hshort]
      rfl
    · cases hnumber with
      | whole h => rfl
      | fraction h h' => exact absurd (by simp) hdot
  · left
    obtain ⟨c, hc, hnot⟩ : ∃ c ∈ s, ¬ IsNumberChar c := by
      simpa using hchars
    have hwhole : integerLiteral? s = none :=
      Option.eq_none_iff_forall_ne_some.2 fun n hn => hnot (isNumberChar_of_integerLiteral? hn hc).1
    have hfloat : Binary64.literal? s = none :=
      Option.eq_none_iff_forall_ne_some.2 fun x hx =>
        hnot (Binary64.isNumberChar_of_literal? hx hd hdigit hc)
    rw [hwhole, hfloat]

/-! ### A variable alone -/

variable {all : Variables} {name : List Char} {path : List (List Char)}

/-- Of all variables, one alone is a setting. -/
def IsOnlySetting (all : Variables) (name s : List Char) : Prop :=
  all.filter (fun entry => (variablePath? entry.1).isSome) = [(name, s)]

instance : Decidable (IsOnlySetting all name s) := inferInstanceAs (Decidable (_ = _))

/-- The variables that are no settings do not count. -/
theorem settings_filter (all : Variables) :
    settings (all.filter fun entry => (variablePath? entry.1).isSome) = settings all := by
  unfold settings
  rw [List.foldl_filter]
  congr 1
  funext table ⟨name, text⟩
  cases hpath : variablePath? name <;> simp [hpath]

theorem settings_of_isOnlySetting (h : IsOnlySetting all name s)
    (hpath : variablePath? name = some path) :
    settings all = insertAt (readValue s) path [] := by
  rw [← settings_filter, h]
  simp only [settings, List.foldl_cons, List.foldl_nil, hpath]

/-- The name of the variable that sets the threshold of a category. -/
def thresholdVariable (category : SizeCategory) : List Char :=
  "TAGR_VIRTUAL_TAGS__SIZE_CATEGORIES__".toList ++ category.word.toList.map Char.toUpper

theorem variablePath?_thresholdVariable (category : SizeCategory) :
    variablePath? (thresholdVariable category) =
      some (["virtual_tags", "size_categories", category.word].map String.toList) := by
  cases category <;> decide +kernel

example : variablePath? "TAGR_VIRTUAL_TAGS__SIZE_CATEGORIES__TINY".toList =
    some (["virtual_tags", "size_categories", "tiny"].map String.toList) := by decide +kernel

end Environment

/-! ### Thresholds in tables -/

namespace TagSettings

variable {name : List Char} {w : Value} {sizes : SizeThresholds} {settings : TagSettings}

theorem readThreshold_float (name : List Char) (x : Binary64) :
    readThreshold name (.float x) = .error (.rejected (.badThreshold name x.text)) := by
  simp [readThreshold, refuse, Value.shown?]

/-- A whole number is a threshold if its numeral is a size. -/
theorem readThreshold_natCast {m : Nat} (hm : m < Nat.pow 10 maxNumeralLength)
    (h : bytes? (Nat.toDigits 10 m) = .ok (some n)) :
    readThreshold name (.int m) = .ok (Nat.toDigits 10 m) := by
  have hplain : (Value.int m).plain? = some (Nat.toDigits 10 m) := by
    rw [Value.plain?_int]
    change numeral? m = some _
    rw [numeral?, if_pos hm]
  simp only [readThreshold, hplain, h]

/-- **What the text of a size is taken for is a threshold of the same size**, unless that is a
floating point number. -/
theorem exists_readThreshold_readValue (name : List Char) (hsize : bytes? s = .ok (some n))
    (hfloat : ¬ IsFloatText s) : ∃ literal,
      readThreshold name (Environment.readValue s) = .ok literal ∧
        bytes? literal = .ok (some n) := by
  obtain ⟨v, -, hwrites⟩ := exists_size_iff_writes.1 ⟨n, hsize⟩
  rcases Environment.readValue_of_writes hwrites hfloat with htext | ⟨m, hint, hm, rfl⟩
  · rw [htext]
    exact ⟨s, readThreshold_text hsize, hsize⟩
  · -- written down again, the number has other digits and no blanks, but it is the same size
    have hdigits : Writes (Nat.toDigits 10 m) m := by
      have hliteral := writes_of_literal? (literal?_of_isNumeral (isNumeral_toDigits m))
      simpa [Significand.value, digitsValue_toDigits] using hliteral
    have hbytes := bytes?_eq_of_writes hsize hwrites hdigits
    rw [hint]
    exact ⟨_, readThreshold_natCast hm hbytes, hbytes⟩

theorem exists_readThreshold_of_isFloatText (name : List Char) (h : IsFloatText s) :
    ∃ shown, readThreshold name (Environment.readValue s) =
      .error (.rejected (.badThreshold name shown)) := by
  obtain ⟨x, hx⟩ := Environment.exists_readValue_of_isFloatText h
  exact ⟨x.text, by rw [hx, readThreshold_float]⟩

/-- The settings with another literal for the threshold of a category. -/
def withThreshold (settings : TagSettings) (literal : List Char) (category : SizeCategory) :
    TagSettings :=
  { settings with sizes := settings.sizes.set literal category }

theorem bytes?_withThreshold (settings : TagSettings) (literal : List Char)
    (category : SizeCategory) :
    (settings.withThreshold literal category).sizes.bytes? category = bytes? literal := by
  rw [SizeThresholds.bytes?, withThreshold, SizeThresholds.literal_set]

/-- The section that spells some thresholds out. -/
def sizesTable (sizes : SizeThresholds) : Table :=
  Table.of (SizeCategory.all.map fun category => (category.word, .text (sizes.literal category)))

/-- A value put in the place of a threshold is the only one that is read anew. -/
theorem readThresholds_put (h : ∀ category, ∃ bytes, sizes.bytes? category = .ok (some bytes))
    (category : SizeCategory) (w : Value) :
    readThresholds ((sizesTable sizes).put (.text category.word.toList) w) =
      (readThreshold category.word.toList w).map fun literal => sizes.set literal category := by
  have hput : (sizesTable sizes).put (.text category.word.toList) w =
      Table.of (SizeCategory.all.map fun other =>
        (other.word, if other = category then w else .text (sizes.literal other))) := by
    cases category <;> rfl
  have hread (other : SizeCategory) : readThreshold other.word.toList
      (if other = category then w else .text (sizes.literal other)) =
        if other = category then readThreshold category.word.toList w
        else .ok (sizes.literal other) := by
    split_ifs with heq
    · rw [heq]
    · obtain ⟨bytes, hbytes⟩ := h other
      exact readThreshold_text hbytes
  rw [hput]
  -- all keys are words of categories
  change (Except.ok () >>= fun _ => _) = _
  rw [ok_bind]
  simp only [SizeCategory.all, Table.of, List.map_cons, List.map_nil, List.foldlM_cons,
    List.foldlM_nil, categoryOf?, SizeCategory.ofWord?_word, hread]
  cases category <;> cases readThreshold _ w <;> rfl

/-- A table with another section of size categories differs in the thresholds only. -/
theorem ofTable_put_categories {table : Table} (h : ofTable table = .ok settings)
    (entries : Table) :
    ofTable (table.put (.text "size_categories".toList) (.map entries)) =
      (readThresholds entries).map fun sizes => { settings with sizes } := by
  obtain ⟨categories, time, git, h⟩ := ofTable_eq_ok_iff.1 h
  generalize hchanged : table.put (.text "size_categories".toList) (.map entries) = changed
  have hfind (key : String) (hkey : "size_categories" ≠ key) :
      changed.find? (.text key.toList) = table.find? (.text key.toList) := by
    rw [← hchanged]
    exact Table.find?_put_of_ne fun heq => hkey (String.toList_injective heq)
  have hflag (key : String) (hkey : "size_categories" ≠ key) :
      readFlag changed key true = readFlag table key true := by
    simp only [readFlag, hfind key hkey]
  have hsection (key : String) (hkey : "size_categories" ≠ key) :
      readSection changed key = readSection table key := by
    simp only [readSection, hfind key hkey]
  have hseconds : readPositive changed "cache_ttl_seconds" 300 = .ok settings.cacheSeconds := by
    rw [← h.cacheSeconds]
    simp only [readPositive, hfind "cache_ttl_seconds" (by decide)]
  have hfamilies : readFamilies changed = .ok settings.families := by
    rw [← h.families]
    simp only [readFamilies, hfind "extension_types" (by decide)]
  have hcategories : readSection changed "size_categories" = .ok entries := by
    rw [← hchanged]
    simp only [readSection, Table.find?_put_self]
  simp only [ofTable, bind, Except.bind, hflag "enabled" (by decide), h.enabled,
    hflag "cache_metadata" (by decide), h.cacheMetadata, hseconds, hcategories, hfamilies,
    hsection "time" (by decide), h.timeSection, h.recentDays, h.staleDays,
    hsection "git" (by decide), h.gitSection, h.gitEnabled, h.detectRepo]
  cases readThresholds entries <;> rfl

/-- Sound settings with a value put in the place of a threshold. -/
theorem ofTable_put_threshold (h : settings.IsSound) (category : SizeCategory) (w : Value) :
    ofTable (settings.table.put (.text "size_categories".toList)
        (.map ((sizesTable settings.sizes).put (.text category.word.toList) w))) =
      (readThreshold category.word.toList w).map (settings.withThreshold · category) := by
  rw [ofTable_put_categories (ofTable_table h), readThresholds_put h.sizes]
  cases readThreshold category.word.toList w <;> rfl

theorem isSound_default : default.IsSound := by
  have h : ofTable [] = .ok default := rfl
  exact isSound_of_ofTable h

end TagSettings

/-! ### Layers with a threshold -/

namespace Layers

variable {w : Value} {source : Source} {all : Environment.Variables}

/-- The table that says nothing but the threshold of a category. -/
def thresholdTable (category : SizeCategory) (w : Value) : Table :=
  Table.of [("tagr", .map (Table.of [("virtual_tags", .map (Table.of
    [("size_categories", .map (Table.of [(category.word, w)]))]))]))]

theorem isKeyed_thresholdTable (h : w.isKeyed = true) :
    Table.isKeyed (thresholdTable category w) = true := by
  simp [thresholdTable, Table.of, Table.isKeyed, Value.isKeyed, h]

theorem mergeEntries_single {base : Table} {name : String} :
    mergeEntries base (Table.of [(name, w)]) =
      base.put (.text name.toList) (mergeValue (base.find? (.text name.toList)) w) := by
  rw [Table.of, List.map_singleton, mergeEntries_cons, mergeEntries_nil]

/-- A layer is laid over what is built in. -/
theorem merged?_put_initial (h : source ≠ .builtIn) (t : Table) :
    (initial.put source (.map t)).merged? = some (mergeEntries builtInTable t) := by
  have hbuiltIn : mergeEntries [] builtInTable = builtInTable :=
    mergeEntries_nil_left (by decide)
  rw [← hbuiltIn]
  cases source with
  | builtIn => exact absurd rfl h
  | _ => rfl

/-- **The settings of a layer that has a threshold and nothing else.** -/
theorem tagSettings?_put_threshold (h : source ≠ .builtIn) (hw : w.isTable = false) :
    (initial.put source (.map (thresholdTable category w))).tagSettings? =
      some ((TagSettings.readThreshold category.word.toList w).map
        (TagSettings.default.withThreshold · category)) := by
  have hkeyed : (Value.map (thresholdTable category w)).isKeyed = true := by
    rw [Value.isKeyed_map]
    exact isKeyed_thresholdTable (Value.isKeyed_of_not_table hw)
  -- the threshold is put into the sections that are built in, one within the other
  have hat : (Value.map (mergeEntries builtInTable (thresholdTable category w))).at?
        (splitAtEach '.' tagSection) =
      some (.map (TagSettings.default.table.put (.text "size_categories".toList)
        (.map ((TagSettings.sizesTable .default).put (.text category.word.toList) w)))) := by
    have hbuiltIn : (Value.map builtInTable).at? (splitAtEach '.' tagSection) =
        some (.map TagSettings.default.table) := rfl
    have hsizes : TagSettings.default.table.find? (.text "size_categories".toList) =
        some (.map (TagSettings.sizesTable .default)) := rfl
    rw [← mergeValue_table, Value.at?_mergeValue_of_found hkeyed rfl, Option.bind_some, hbuiltIn,
      mergeValue_table, mergeEntries_single, hsizes, mergeValue_table, mergeEntries_single,
      mergeValue_of_other hw]
  rw [tagSettings?, get?, merged?_put_initial h]
  simp only [Option.bind_eq_bind, Option.bind_some, hat]
  rw [← TagSettings.ofTable_put_threshold TagSettings.isSound_default]
  rfl

/-- A variable that is the only setting makes up the layer of the environment. -/
theorem start_of_isOnlySetting (host : Host)
    (h : Environment.IsOnlySetting all (Environment.thresholdVariable category) s) :
    start host [] all = .ok (initial.put .environment
      (.map (thresholdTable category (Environment.readValue s)))) := by
  have hsettings := Environment.settings_of_isOnlySetting h
    (Environment.variablePath?_thresholdVariable category)
  change Except.ok (initial.loadEnvironment all) = _
  rw [loadEnvironment, hsettings]
  rfl

/-- **A threshold from the environment is the size that its text stands for, unless the text is
taken for a floating point number.** In the layer of the user, the text of a size sets the threshold
to that size. As the value of the variable, and the only setting there is, it does so too, if it is
not a number without a unit that has a fraction or is too long; such a threshold is refused. -/
theorem threshold_of_variable (host : Host)
    (hall : Environment.IsOnlySetting all (Environment.thresholdVariable category) s)
    (hsize : bytes? s = .ok (some n)) :
    ∃ layers, start host [] all = .ok layers ∧
      (initial.put .user (.map (thresholdTable category (.text s)))).tagSettings? =
        some (.ok (TagSettings.default.withThreshold s category)) ∧
      (TagSettings.default.withThreshold s category).sizes.bytes? category = .ok (some n) ∧
      (¬ IsFloatText s → ∃ literal,
        layers.tagSettings? = some (.ok (TagSettings.default.withThreshold literal category)) ∧
        (TagSettings.default.withThreshold literal category).sizes.bytes? category =
          .ok (some n)) ∧
      (IsFloatText s → ∃ shown, layers.tagSettings? =
        some (.error (.rejected (.badThreshold category.word.toList shown)))) := by
  refine ⟨_, start_of_isOnlySetting host hall, ?_, ?_, fun hfloat => ?_, fun hfloat => ?_⟩
  · rw [tagSettings?_put_threshold (by decide) rfl, TagSettings.readThreshold_text hsize]
    rfl
  · rw [TagSettings.bytes?_withThreshold, hsize]
  · obtain ⟨literal, hliteral, hbytes⟩ :=
      TagSettings.exists_readThreshold_readValue category.word.toList hsize hfloat
    refine ⟨literal, ?_, by rw [TagSettings.bytes?_withThreshold, hbytes]⟩
    rw [tagSettings?_put_threshold (by decide) (Environment.isTable_readValue s), hliteral]
    rfl
  · obtain ⟨shown, hshown⟩ :=
      TagSettings.exists_readThreshold_of_isFloatText category.word.toList hfloat
    refine ⟨shown, ?_⟩
    rw [tagSettings?_put_threshold (by decide) (Environment.isTable_readValue s), hshown]
    rfl

/-- Digits of another script with blanks around, next to a variable that is no setting. -/
theorem threshold_of_variable_of_other_digits :
    let s := "\t١٥٠٠ ".toList
    let all : Environment.Variables :=
      [("PATH".toList, "/bin".toList), (Environment.thresholdVariable .small, s)]
    Environment.IsOnlySetting all (Environment.thresholdVariable .small) s ∧
      bytes? s = .ok (some 1500) ∧ ¬ IsFloatText s ∧
      ∃ layers literal, start (HomeFolder.host []) [] all = .ok layers ∧
        layers.tagSettings? = some (.ok (TagSettings.default.withThreshold literal .small)) ∧
        (TagSettings.default.withThreshold literal .small).sizes.bytes? .small =
          .ok (some 1500) := by
  intro s all
  have hall : Environment.IsOnlySetting all (Environment.thresholdVariable .small) s := by
    decide +kernel
  have hsize : bytes? s = .ok (some 1500) := by decide +kernel
  have hfloat : ¬ IsFloatText s := fun h => absurd h.trimNumberBlanks (by decide +kernel)
  obtain ⟨layers, hlayers, -, -, hwhole, -⟩ := threshold_of_variable (HomeFolder.host []) hall hsize
  obtain ⟨literal, hliteral, hbytes⟩ := hwhole hfloat
  exact ⟨hall, hsize, hfloat, layers, literal, hlayers, hliteral, hbytes⟩

/-- **A fraction of a byte is a size, but no threshold from the environment.** -/
theorem not_threshold_of_variable :
    ¬ ∀ (host : Host) (all : Environment.Variables) (category : SizeCategory) (s : List Char)
      (n : Nat), Environment.IsOnlySetting all (Environment.thresholdVariable category) s →
        bytes? s = .ok (some n) →
          ∃ layers settings, start host [] all = .ok layers ∧
            layers.tagSettings? = some (.ok settings) ∧
            settings.sizes.bytes? category = .ok (some n) := by
  intro hall
  obtain ⟨layers, settings, hlayers, hsettings, -⟩ :=
    hall (HomeFolder.host []) [(Environment.thresholdVariable .tiny, "1.5".toList)] .tiny
      "1.5".toList 1 (by decide +kernel) (by decide +kernel)
  have hrefused : (initial.loadEnvironment
      [(Environment.thresholdVariable .tiny, "1.5".toList)]).tagSettings? =
        some (.error (.rejected (.badThreshold "tiny".toList "1.5".toList))) := by
    decide +kernel
  cases hlayers
  cases hsettings.symm.trans hrefused

end Layers

end FileSieve
