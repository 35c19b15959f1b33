import FileSieve.Proofs.VirtualTag.RoundTrip

/-!
# Texts that are neither read nor refused

A text that is no tag is refused under the rule that it breaks. Beside that, reading breaks down on
numbers: on a numeral that is too long to be converted, and on a size that is too large to be
worked out. Nothing else breaks it down.

* `breaks_bind_iff`, `breaks_map_iff`: where a computation breaks down.
* `breaks_readWindow_iff`, `breaks_readCountTest_iff`, `breaks_readSize_iff`: the values of each
  kind that break it down.
* `read_answers_iff`: a text is read or refused unless it has such a value.
-/

namespace FileSieve.VirtualTag

open Text Calendar

variable {α β : Type} {x : Except ReadError α} {zone : Zone} {s value low high : List Char}

/-! ### Outcomes -/

/-- The outcome is neither a result nor a refusal under a rule of its own. -/
def Breaks (x : Except ReadError α) : Prop :=
  ∃ e, x = .error e ∧ ∀ r, e = .rejected r → r.rule = .general

theorem not_breaks_iff : ¬ Breaks x ↔
    (∃ a, x = .ok a) ∨ ∃ r, x = .error (.rejected r) ∧ r.rule ≠ .general := by
  cases x with
  | ok a => simp [Breaks]
  | error e => cases e <;> simp [Breaks]

theorem not_breaks_ok {a : α} : ¬ Breaks (.ok a) := not_breaks_iff.2 (.inl ⟨a, rfl⟩)

theorem not_breaks_reject {rule : RejectedTag.Rule} (h : rule ≠ .general) :
    ¬ Breaks (reject rule value : Except ReadError α) :=
  not_breaks_iff.2 (.inr ⟨_, rfl, h⟩)

theorem breaks_map_iff {f : α → β} : Breaks (f <$> x) ↔ Breaks x := by
  simp only [Breaks, map_eq_error_iff]

theorem breaks_bind_iff {f : α → Except ReadError β} :
    Breaks (x >>= f) ↔ Breaks x ∨ ∃ a, x = .ok a ∧ Breaks (f a) := by
  simp only [Breaks, bind_eq_error_iff]
  constructor
  · rintro ⟨e, h | ⟨a, ha, h⟩, hrule⟩
    · exact .inl ⟨e, h, hrule⟩
    · exact .inr ⟨a, ha, e, h, hrule⟩
  · rintro (⟨e, h, hrule⟩ | ⟨a, ha, e, h, hrule⟩)
    · exact ⟨e, .inl h, hrule⟩
    · exact ⟨e, .inr ⟨a, ha, h⟩, hrule⟩

/-! ### Numbers -/

/-- The text is a numeral that is not converted. -/
def IsTooLong (s : List Char) : Prop := IsNumeral s ∧ maxNumeralLength < s.length

theorem readNumeral_of_short (h : s.length ≤ maxNumeralLength) :
    readNumeral s = .ok (digitsValue s) := by
  rw [readNumeral, readDigits?, if_pos h]

theorem readNumeral_of_long (h : maxNumeralLength < s.length) :
    readNumeral s = .error .numeralTooLong := by
  rw [readNumeral, readDigits?, if_neg (by omega)]

theorem breaks_readNumeral_iff : Breaks (readNumeral s) ↔ maxNumeralLength < s.length := by
  by_cases h : s.length ≤ maxNumeralLength
  · rw [readNumeral_of_short h]
    exact iff_of_false not_breaks_ok (by omega)
  · rw [readNumeral_of_long (by omega)]
    exact iff_of_true ⟨_, rfl, by simp⟩ (by omega)

theorem isNumeral_iff : IsNumeral s ↔ (!s.isEmpty && s.all Char.isDigit) = true := by
  rw [Bool.and_eq_true, Bool.not_eq_true', List.isEmpty_eq_false_iff, List.all_eq_true]
  exact Iff.rfl

theorem readCount_of_isNumeral (h : IsNumeral s) : readCount s value = readNumeral s := by
  rw [readCount, if_pos (isNumeral_iff.1 h)]

theorem readCount_of_not_isNumeral (h : ¬ IsNumeral s) :
    readCount s value = reject .range value := by
  rw [readCount, if_neg fun hdigits => h (isNumeral_iff.2 hdigits)]

theorem breaks_readCount_iff : Breaks (readCount s value) ↔ IsTooLong s := by
  by_cases h : IsNumeral s
  · rw [readCount_of_isNumeral h, breaks_readNumeral_iff]
    exact (and_iff_right h).symm
  · rw [readCount_of_not_isNumeral h]
    exact iff_of_false (not_breaks_reject (by decide)) fun hlong => h hlong.1

theorem isNumeral_of_readCount {n : Nat} (h : readCount s value = .ok n) : IsNumeral s := by
  by_contra hnot
  rw [readCount_of_not_isNumeral hnot] at h
  cases h

theorem breaks_readBytes?_iff : Breaks (readBytes? s) ↔ ByteSize.IsTooLarge s := by
  simp only [Breaks, readBytes?, mapError_eq_error_iff, ByteSize.bytes?_eq_error_iff]
  constructor
  · rintro ⟨e, ⟨_, h, -⟩, -⟩
    exact h
  · intro h
    exact ⟨.sizeTooLarge, ⟨⟨⟩, h, rfl⟩, by simp⟩

theorem exists_readBytes? (h : ¬ ByteSize.IsTooLarge s) : ∃ bytes?, readBytes? s = .ok bytes? := by
  obtain ⟨bytes?, hbytes⟩ := ByteSize.exists_bytes?_iff.2 h
  exact ⟨bytes?, mapError_eq_ok_iff.2 hbytes⟩

/-! ### Parts between dashes -/

theorem splitAtEach_eq_pair_iff : splitAtEach '-' value = [low, high] ↔
    value = low ++ '-' :: high ∧ '-' ∉ low ∧ '-' ∉ high := by
  constructor
  · intro h
    have hparts (part : List Char) (hmem : part ∈ [low, high]) : '-' ∉ part :=
      not_mem_of_mem_splitAtEach (h ▸ hmem)
    refine ⟨?_, hparts low (by simp), hparts high (by simp)⟩
    rw [← joinWith_splitAtEach '-' value, h]
    simp [joinWith]
  · rintro ⟨rfl, hlow, hhigh⟩
    rw [splitAtEach_append_cons hlow, splitAtEach_of_not_mem hhigh]

/-! ### Windows -/

/-- The value is a number of days or hours back, with a numeral that is not converted. -/
def LongWindow (value : List Char) : Prop :=
  ∃ digits unit, value = "last-".toList ++ digits ++ unit ∧ IsTooLong digits ∧
    (unit = "-days".toList ∨ unit = "-hours".toList)

theorem not_breaks_readDate : ¬ Breaks (readDate zone s) := by
  unfold readDate
  split
  · exact not_breaks_ok
  · exact not_breaks_reject (by decide)

theorem not_breaks_readBetween : ¬ Breaks (readBetween zone value s) := by
  unfold readBetween
  split
  · simp only [breaks_bind_iff, not_breaks_readDate, false_or, not_exists, not_and]
    intro _ _ _ _
    exact not_breaks_ok
  · exact not_breaks_reject (by decide)

theorem not_breaks_readBareDate : ¬ Breaks (readBareDate zone value) := by
  unfold readBareDate
  simp only [breaks_bind_iff, not_breaks_readDate, false_or, not_exists, not_and]
  intro start _
  split
  · exact not_breaks_ok
  · exact not_breaks_reject (by decide)

theorem longWindow_of_breaks (h : Breaks (readLast ("last-".toList ++ s))) :
    LongWindow ("last-".toList ++ s) := by
  have hcut : s.takeWhile Char.isDigit ++ s.dropWhile Char.isDigit = s :=
    List.takeWhile_append_dropWhile
  have hdigits : ∀ c ∈ s.takeWhile Char.isDigit, c.isDigit = true := fun c hc =>
    List.mem_takeWhile_imp hc
  have hdrop : ("last-".toList ++ s).drop "last-".length = s := rfl
  unfold readLast at h
  simp only [hdrop] at h
  split at h
  · exact absurd h (not_breaks_reject (by decide))
  · rename_i hsome
    have hlong (hbreaks : Breaks (readNumeral (s.takeWhile Char.isDigit))) :
        IsTooLong (s.takeWhile Char.isDigit) :=
      ⟨⟨fun hnil => hsome (List.isEmpty_iff.2 hnil), hdigits⟩, breaks_readNumeral_iff.1 hbreaks⟩
    split at h
    · rename_i hunit
      rcases breaks_bind_iff.1 h with h | ⟨_, -, h⟩
      · exact ⟨_, _, by rw [List.append_assoc, hcut], hlong h, .inl hunit⟩
      · exact absurd h not_breaks_ok
    · split at h
      · rename_i hunit
        rcases breaks_bind_iff.1 h with h | ⟨_, -, h⟩
        · exact ⟨_, _, by rw [List.append_assoc, hcut], hlong h, .inr hunit⟩
        · exact absurd h not_breaks_ok
      · exact absurd h (not_breaks_reject (by decide))

theorem breaks_readWindow_iff : Breaks (readWindow zone value) ↔ LongWindow value := by
  constructor
  · intro h
    unfold readWindow at h
    split at h
    · exact absurd h not_breaks_ok
    · split at h
      · rename_i hlast
        obtain ⟨rest, hrest⟩ := Option.isSome_iff_exists.1 (Bool.and_eq_true_iff.1 hlast).1
        rw [dropStart?_eq_some_iff.1 hrest] at h ⊢
        exact longWindow_of_breaks h
      · split at h
        · exact absurd (breaks_map_iff.1 h) not_breaks_readDate
        · exact absurd (breaks_map_iff.1 h) not_breaks_readDate
        · exact absurd h not_breaks_readBetween
        · exact absurd h not_breaks_readBareDate
  · rintro ⟨digits, unit, rfl, hlong, hunit⟩
    rw [readWindow_last hunit]
    rcases hunit with rfl | rfl
    · rw [readLast_eq hlong.1 rfl, if_pos rfl]
      exact breaks_bind_iff.2 (.inl (breaks_readNumeral_iff.2 hlong.2))
    · rw [readLast_eq hlong.1 rfl, if_neg (by decide), if_pos rfl]
      exact breaks_bind_iff.2 (.inl (breaks_readNumeral_iff.2 hlong.2))

/-! ### Counts -/

/-- The value is a condition on a count, with a numeral that is not converted. -/
inductive LongCount : List Char → Prop
  /-- The count is told. -/
  | equals {digits : List Char} : IsTooLong digits → LongCount digits
  /-- The count is more. -/
  | above {digits : List Char} : IsTooLong digits → LongCount ('>' :: digits)
  /-- The count is less. -/
  | below {digits : List Char} : IsTooLong digits → LongCount ('<' :: digits)
  /-- The count is in a range. What should be its other end is not looked at if the first numeral
  is too long. -/
  | range {low high : List Char} : IsNumeral low → '-' ∉ high →
      (maxNumeralLength < low.length ∨ IsTooLong high) → LongCount (low ++ '-' :: high)

theorem breaks_readCountTest_iff : Breaks (readCountTest value) ↔ LongCount value := by
  constructor
  · intro h
    unfold readCountTest at h
    split at h
    · rcases breaks_bind_iff.1 h with h | ⟨_, -, h⟩
      · exact .above (breaks_readCount_iff.1 h)
      · exact absurd h not_breaks_ok
    · rcases breaks_bind_iff.1 h with h | ⟨_, -, h⟩
      · exact .below (breaks_readCount_iff.1 h)
      · exact absurd h not_breaks_ok
    · split at h
      · rcases breaks_bind_iff.1 h with h | ⟨_, -, h⟩
        · exact .equals (breaks_readCount_iff.1 h)
        · exact absurd h not_breaks_ok
      · rename_i low high hsplit
        obtain ⟨rfl, hlow, hhigh⟩ := splitAtEach_eq_pair_iff.1 hsplit
        rcases breaks_bind_iff.1 h with h | ⟨n, hn, h⟩
        · obtain ⟨hnumeral, hlong⟩ := breaks_readCount_iff.1 h
          exact .range hnumeral hhigh (.inl hlong)
        · rcases breaks_bind_iff.1 h with h | ⟨_, -, h⟩
          · exact .range (isNumeral_of_readCount hn) hhigh (.inr (breaks_readCount_iff.1 h))
          · exact absurd h not_breaks_ok
      · exact absurd h (not_breaks_reject (by decide))
  · intro h
    cases h with
    | equals hlong =>
      obtain ⟨c, rest, rfl⟩ := List.exists_cons_of_ne_nil hlong.1.1
      rw [readCountTest_of_digit (hlong.1.2 c List.mem_cons_self),
        splitAtEach_of_not_mem (hlong.1.not_mem rfl)]
      exact breaks_bind_iff.2 (.inl (breaks_readCount_iff.2 hlong))
    | above hlong | below hlong =>
      exact breaks_bind_iff.2 (.inl (breaks_readCount_iff.2 hlong))
    | @range low high hlow hhigh hlong =>
      have hsplit : splitAtEach '-' (low ++ '-' :: high) = [low, high] :=
        splitAtEach_eq_pair_iff.2 ⟨rfl, hlow.not_mem rfl, hhigh⟩
      obtain ⟨c, rest, rfl⟩ := List.exists_cons_of_ne_nil hlow.1
      rw [List.cons_append] at hsplit ⊢
      rw [readCountTest_of_digit (hlow.2 c List.mem_cons_self), hsplit]
      by_cases hfirst : maxNumeralLength < (c :: rest).length
      · exact breaks_bind_iff.2 (.inl (breaks_readCount_iff.2 ⟨hlow, hfirst⟩))
      · -- the first numeral is converted, so it is for the second one
        have hhigh := hlong.resolve_left hfirst
        refine breaks_bind_iff.2 (.inr ⟨digitsValue (c :: rest), ?_, ?_⟩)
        · rw [readCount_of_isNumeral hlow, readNumeral_of_short (by omega)]
        · exact breaks_bind_iff.2 (.inl (breaks_readCount_iff.2 hhigh))

/-! ### Sizes -/

/-- The character is a sign in front of a size. -/
def IsSign (c : Char) : Prop := c = '>' ∨ c = '<' ∨ c = '='

/-- The value is a condition on a size, with a size that is not worked out. -/
inductive LargeSize : List Char → Prop
  /-- A comparison. -/
  | comparison {sign : Char} {literal : List Char} : IsSign sign → ByteSize.IsTooLarge literal →
      LargeSize (sign :: literal)
  /-- A range. Both its ends are worked out before they are looked at. -/
  | range {low high : List Char} : '-' ∉ low → '-' ∉ high →
      (∀ c, low.head? = some c → ¬ IsSign c) →
      (ByteSize.IsTooLarge low ∨ ByteSize.IsTooLarge high) → LargeSize (low ++ '-' :: high)

theorem breaks_readComparison_iff {test : Int → CountTest} :
    Breaks (readComparison value s test) ↔ ByteSize.IsTooLarge s := by
  unfold readComparison
  rw [breaks_bind_iff, breaks_readBytes?_iff]
  refine or_iff_left ?_
  rintro ⟨bytes?, -, h⟩
  cases bytes? with
  | none => exact not_breaks_reject (by decide) h
  | some bytes => exact not_breaks_ok h

theorem breaks_readSizeRange_iff : Breaks (readSizeRange value) ↔
    ∃ low high, splitAtEach '-' value = [low, high] ∧
      (ByteSize.IsTooLarge low ∨ ByteSize.IsTooLarge high) := by
  unfold readSizeRange
  split
  · rename_i low high hsplit
    rw [breaks_bind_iff, breaks_readBytes?_iff]
    constructor
    · rintro (h | ⟨least?, -, h⟩)
      · exact ⟨low, high, hsplit, .inl h⟩
      · rcases breaks_bind_iff.1 h with h | ⟨most?, -, h⟩
        · exact ⟨low, high, hsplit, .inr (breaks_readBytes?_iff.1 h)⟩
        · cases least? with
          | none => exact absurd h (not_breaks_reject (by decide))
          | some least =>
            cases most? with
            | none => exact absurd h (not_breaks_reject (by decide))
            | some most => exact absurd h not_breaks_ok
    · rintro ⟨_, _, heq, h⟩
      cases hsplit.symm.trans heq
      by_cases hlow : ByteSize.IsTooLarge low
      · exact .inl hlow
      · obtain ⟨least?, hleast⟩ := exists_readBytes? hlow
        have hhigh := h.resolve_left hlow
        exact .inr ⟨least?, hleast, breaks_bind_iff.2 (.inl (breaks_readBytes?_iff.2 hhigh))⟩
  · rename_i hpair
    refine iff_of_false (not_breaks_reject (by decide)) ?_
    rintro ⟨low, high, h, -⟩
    exact hpair low high h

/-- No word for a size has a dash in it. -/
theorem readSize_of_dash {c : Char} {rest : List Char} (hdash : '-' ∈ c :: rest)
    (hsign : ¬ IsSign c) : readSize (c :: rest) = readSizeRange (c :: rest) := by
  have hempty : c :: rest ≠ "empty".toList := by
    intro heq
    rw [heq] at hdash
    exact absurd hdash (by decide)
  have hword : SizeCategory.ofWord? (c :: rest) = none := by
    refine List.find?_eq_none.2 fun category _ hword => ?_
    rw [← of_decide_eq_true hword] at hdash
    revert hdash
    cases category <;> decide
  unfold IsSign at hsign
  unfold readSize
  rw [if_neg hempty, hword]
  split <;> simp_all

theorem readSize_of_sign {sign : Char} {literal : List Char} (h : IsSign sign) :
    ∃ test, readSize (sign :: literal) = readComparison (sign :: literal) literal test := by
  rcases h with rfl | rfl | rfl
  · exact ⟨.above, readSize_of_not_isAlpha (by decide)⟩
  · exact ⟨.below, readSize_of_not_isAlpha (by decide)⟩
  · exact ⟨.equals, readSize_of_not_isAlpha (by decide)⟩

theorem breaks_readSize_iff : Breaks (readSize value) ↔ LargeSize value := by
  constructor
  · intro h
    unfold readSize at h
    split at h
    · exact absurd h not_breaks_ok
    · split at h
      · exact absurd h not_breaks_ok
      · exact .comparison (.inl rfl) (breaks_readComparison_iff.1 h)
      · exact .comparison (.inr (.inl rfl)) (breaks_readComparison_iff.1 h)
      · exact .comparison (.inr (.inr rfl)) (breaks_readComparison_iff.1 h)
      · rename_i habove hbelow hequals _ _
        obtain ⟨low, high, hsplit, hlarge⟩ := breaks_readSizeRange_iff.1 h
        obtain ⟨rfl, hlow, hhigh⟩ := splitAtEach_eq_pair_iff.1 hsplit
        refine .range hlow hhigh ?_ hlarge
        intro c hc hsign
        obtain ⟨rest, rfl⟩ : ∃ rest, low = c :: rest := by
          cases low with
          | nil => cases hc
          | cons d rest => cases hc; exact ⟨rest, rfl⟩
        rcases hsign with rfl | rfl | rfl
        · exact habove _ rfl
        · exact hbelow _ rfl
        · exact hequals _ rfl
  · intro h
    cases h with
    | comparison hsign hlarge =>
      obtain ⟨test, htest⟩ := readSize_of_sign hsign
      rw [htest]
      exact breaks_readComparison_iff.2 hlarge
    | @range low high hlow hhigh hsign hlarge =>
      have hsplit := splitAtEach_eq_pair_iff.2 ⟨rfl, hlow, hhigh⟩
      have hrange := breaks_readSizeRange_iff.2 ⟨low, high, hsplit, hlarge⟩
      cases low with
      | nil => rwa [List.nil_append, readSize_of_dash List.mem_cons_self (by unfold IsSign; decide)]
      | cons c rest =>
        rwa [List.cons_append, readSize_of_dash (by simp) (hsign c rfl)]

/-! ### Tags -/

/-- The value holds a number that breaks down the reading of a tag of the kind. -/
def Overlong (value : List Char) : Kind → Prop
  | .modified | .created | .accessed => LongWindow value
  | .size => LargeSize value
  | .depth | .lines => LongCount value
  | _ => False

theorem not_breaks_readWord {ofWord? : List Char → Option α} :
    ¬ Breaks (readWord ofWord? value) := by
  unfold readWord
  split
  · exact not_breaks_ok
  · exact not_breaks_reject (by decide)

theorem breaks_readValue_iff {kind : Kind} :
    Breaks (readValue zone value kind) ↔ Overlong value kind := by
  cases kind with
  | modified | created | accessed => exact breaks_map_iff.trans breaks_readWindow_iff
  | size => exact breaks_map_iff.trans breaks_readSize_iff
  | depth | lines => exact breaks_map_iff.trans breaks_readCountTest_iff
  | extensionFamily | permission | git =>
    exact breaks_map_iff.trans (iff_of_false not_breaks_readWord id)
  | extension =>
    refine breaks_map_iff.trans (iff_of_false ?_ id)
    unfold readExtension
    split
    · exact not_breaks_reject (by decide)
    · exact not_breaks_ok
  | directory =>
    refine breaks_map_iff.trans (iff_of_false ?_ id)
    unfold readDirectory
    split
    · exact not_breaks_reject (by decide)
    · exact not_breaks_ok
  | path =>
    refine breaks_map_iff.trans (iff_of_false ?_ id)
    unfold readGlob
    split
    · exact not_breaks_ok
    · exact not_breaks_reject (by decide)

theorem eq_of_splitColon? {word : List Char} (h : splitColon? s = some (word, value)) :
    s = word ++ ':' :: value := by
  unfold splitColon? at h
  split at h
  · rename_i hdrop
    cases h
    rw [← hdrop, List.takeWhile_append_dropWhile]
  · cases h

theorem word_of_ofWord? {word : List Char} {kind : Kind} (h : Kind.ofWord? word = some kind) :
    word = kind.word.toList := by
  have hword := List.find?_some (show List.find? _ Kind.all = some kind from h)
  exact (of_decide_eq_true hword).symm

theorem breaks_read_iff : Breaks (read zone s) ↔
    ∃ (kind : Kind) (value : List Char),
      s = kind.word.toList ++ ':' :: value ∧ Overlong value kind := by
  constructor
  · intro h
    unfold read at h
    split at h
    · exact absurd h (not_breaks_reject (by decide))
    · rename_i word value hsplit
      split at h
      · exact absurd h (not_breaks_reject (by decide))
      · rename_i kind hkind
        rw [eq_of_splitColon? hsplit, word_of_ofWord? hkind]
        exact ⟨kind, value, rfl, breaks_readValue_iff.1 h⟩
  · rintro ⟨kind, value, rfl, h⟩
    rw [read_word]
    exact breaks_readValue_iff.2 h

/-- **A text is read, or refused under a rule, unless it has a value with a number that breaks down
the reading.** -/
theorem read_answers_iff (zone : Zone) (s : List Char) :
    ((∃ tag, read zone s = .ok tag) ∨
      ∃ r, read zone s = .error (.rejected r) ∧ r.rule ≠ .general) ↔
    ¬ ∃ (kind : Kind) (value : List Char),
      s = kind.word.toList ++ ':' :: value ∧ Overlong value kind := by
  rw [← not_breaks_iff, breaks_read_iff]

/-- A text with a count of 4301 digits is neither read nor refused. -/
theorem not_answers_long_depth :
    ¬ ∀ (zone : Zone) (s : List Char), (∃ tag, read zone s = .ok tag) ∨
      ∃ r, read zone s = .error (.rejected r) := by
  intro hall
  have hlong : IsTooLong ('9' :: List.replicate maxNumeralLength '9') := by
    refine ⟨⟨List.cons_ne_nil _ _, fun c hc => ?_⟩, ?_⟩
    · rw [← List.replicate_succ] at hc
      rw [List.eq_of_mem_replicate hc]
      rfl
    · rw [List.length_cons, List.length_replicate]
      exact Nat.lt_succ_self _
  have hread : read ⟨0, none⟩
      (Kind.depth.word.toList ++ ':' :: '9' :: List.replicate maxNumeralLength '9') =
        .error .numeralTooLong := by
    rw [read_word, readValue, readCountTest_of_digit (by decide),
      splitAtEach_of_not_mem (hlong.1.not_mem (by decide))]
    simp only [readCount_of_isNumeral hlong.1, readNumeral_of_long hlong.2]
    rfl
  rcases hall _ _ with ⟨tag, h⟩ | ⟨r, h⟩
  · cases hread.symm.trans h
  · cases hread.symm.trans h

end FileSieve.VirtualTag
