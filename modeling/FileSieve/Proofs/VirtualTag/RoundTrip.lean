import FileSieve.Proofs.ByteSize.Precision
import FileSieve.Proofs.VirtualTag.WindowText

/-!
# Virtual tags are read again from their text

The text of a tag that was read is its plain form: numbers without zeros in front, sizes in bytes,
dates in place of instants, extensions with a dot, directories without what reading drops. Reading
the plain form gives the same tag.

* `readCountTest_text`, `readSize_text`: conditions on counts and sizes are read again.
* `readValue_valueText`: so is the value of a tag of any kind.
* `read_text`: at a fixed offset, a tag that was read is read again from its text.
-/

namespace FileSieve.VirtualTag

open Text Calendar

variable {zone : Zone} {s t value : List Char} {n : Nat} {tag : VirtualTag}

/-! ### Counts -/

/-- The numbers of the condition satisfy the predicate. -/
def OfNumbers (p : Nat → Prop) : CountTest → Prop
  | .equals count | .above count | .below count => ∃ n : Nat, count = n ∧ p n
  | .range least most => (∃ n : Nat, least = n ∧ p n) ∧ ∃ n : Nat, most = n ∧ p n

theorem readCount_of_numeral? (h : numeral? n = some s) : readCount s value = .ok n := by
  have hdigits := isNumeral_of_numeral? h
  have hsome : s.isEmpty = false := List.isEmpty_eq_false_iff.2 hdigits.1
  have hall : s.all Char.isDigit = true := List.all_eq_true.2 hdigits.2
  unfold readCount
  rw [hsome, hall]
  exact readNumeral_of_numeral? h

/-- What a numeral was read as is less than the numbers without a numeral. -/
theorem lt_of_readNumeral (h : readNumeral s = .ok n) : n < Nat.pow 10 maxNumeralLength := by
  unfold readNumeral readDigits? at h
  by_cases hshort : s.length ≤ maxNumeralLength
  · rw [if_pos hshort] at h
    cases h
    exact digitsValue_lt_of_le hshort
  · rw [if_neg hshort] at h
    cases h

theorem lt_of_readCount (h : readCount s value = .ok n) : n < Nat.pow 10 maxNumeralLength := by
  unfold readCount at h
  split at h
  · exact lt_of_readNumeral h
  · cases h

theorem ofNumbers_of_readCountTest {test : CountTest} (h : readCountTest s = .ok test) :
    OfNumbers (· < Nat.pow 10 maxNumeralLength) test := by
  unfold readCountTest at h
  split at h
  · obtain ⟨n, hn, h⟩ := bind_eq_ok_iff.1 h
    cases h
    exact ⟨n, rfl, lt_of_readCount hn⟩
  · obtain ⟨n, hn, h⟩ := bind_eq_ok_iff.1 h
    cases h
    exact ⟨n, rfl, lt_of_readCount hn⟩
  · split at h
    · obtain ⟨n, hn, h⟩ := bind_eq_ok_iff.1 h
      cases h
      exact ⟨n, rfl, lt_of_readCount hn⟩
    · obtain ⟨least, hleast, h⟩ := bind_eq_ok_iff.1 h
      obtain ⟨most, hmost, h⟩ := bind_eq_ok_iff.1 h
      cases h
      exact ⟨⟨least, rfl, lt_of_readCount hleast⟩, most, rfl, lt_of_readCount hmost⟩
    · cases h

/-- A text that begins with a digit has no sign in front. -/
theorem readCountTest_of_digit {c : Char} {rest : List Char} (h : c.isDigit = true) :
    readCountTest (c :: rest) =
      match splitAtEach '-' (c :: rest) with
      | [_] => do return .equals (← readCount (c :: rest) (c :: rest))
      | [low, high] => do
        return .range (← readCount low (c :: rest)) (← readCount high (c :: rest))
      | _ => reject .range (c :: rest) := by
  unfold readCountTest
  split
  · rename_i heq
    cases heq
    exact absurd h (by decide)
  · rename_i heq
    cases heq
    exact absurd h (by decide)
  · rfl

/-- **A condition on a count that was read is read again from its text.** -/
theorem readCountTest_text {test : CountTest} (h : readCountTest s = .ok test)
    (ht : test.text = .ok t) : readCountTest t = .ok test := by
  have hn := ofNumbers_of_readCountTest h
  cases test with
  | equals count =>
    obtain ⟨n, rfl, -⟩ := hn
    have ht : numeralText n = .ok t := ht
    have hnumeral := numeralText_natCast ht
    have hdigits := isNumeral_of_numeral? hnumeral
    obtain ⟨c, rest, rfl⟩ := List.exists_cons_of_ne_nil hdigits.1
    rw [readCountTest_of_digit (hdigits.2 c List.mem_cons_self),
      splitAtEach_of_not_mem (hdigits.not_mem rfl)]
    simp only [readCount_of_numeral? hnumeral]
    rfl
  | above count | below count =>
    obtain ⟨n, rfl, -⟩ := hn
    obtain ⟨numeral, hnumeral, ht⟩ := bind_eq_ok_iff.1 ht
    cases ht
    simp only [readCountTest, readCount_of_numeral? (numeralText_natCast hnumeral)]
    rfl
  | range least most =>
    obtain ⟨⟨n, rfl, -⟩, m, rfl, -⟩ := hn
    obtain ⟨low, hlow, ht⟩ := bind_eq_ok_iff.1 ht
    obtain ⟨high, hhigh, ht⟩ := bind_eq_ok_iff.1 ht
    cases ht
    have hlow := numeralText_natCast hlow
    have hhigh := numeralText_natCast hhigh
    have hdigits := isNumeral_of_numeral? hlow
    obtain ⟨c, rest, rfl⟩ := List.exists_cons_of_ne_nil hdigits.1
    rw [List.cons_append, readCountTest_of_digit (hdigits.2 c List.mem_cons_self),
      ← List.cons_append, splitAtEach_append_cons (hdigits.not_mem rfl),
      splitAtEach_of_not_mem ((isNumeral_of_numeral? hhigh).not_mem rfl)]
    simp only [readCount_of_numeral? hlow, readCount_of_numeral? hhigh]
    rfl

/-! ### Sizes -/

theorem isExact_of_readBytes? (h : readBytes? s = .ok (some n)) : ByteSize.IsExact n := by
  unfold readBytes? ByteSize.bytes? at h
  split at h
  · cases h
  · rename_i amount factor _
    cases hproduct : ByteSize.product amount factor with
    | error fault => rw [hproduct] at h; cases h
    | ok m =>
      rw [hproduct] at h
      cases h
      exact ByteSize.isExact_of_product hproduct

theorem readBytes?_of_numeral? (h : numeral? n = some s) (hn : ByteSize.IsExact n) :
    readBytes? s = .ok (some n) := by
  unfold readBytes?
  rw [ByteSize.bytes?_of_numeral h hn]
  rfl

theorem exists_of_readComparison {make : Int → CountTest} {test : SizeTest}
    (h : readComparison value s make = .ok test) :
    ∃ n : Nat, test = .bytes (make n) ∧ ByteSize.IsExact n := by
  obtain ⟨bytes, hbytes, h⟩ := bind_eq_ok_iff.1 h
  split at h
  · rename_i n
    cases h
    exact ⟨n, rfl, isExact_of_readBytes? hbytes⟩
  · cases h

/-- The numbers of bytes of the condition are exact. -/
def IsExactTest : SizeTest → Prop
  | .empty | .category _ => True
  | .bytes test => OfNumbers ByteSize.IsExact test

theorem isExactTest_of_readSizeRange {test : SizeTest} (h : readSizeRange s = .ok test) :
    IsExactTest test := by
  unfold readSizeRange at h
  split at h
  · obtain ⟨least?, hleast, h⟩ := bind_eq_ok_iff.1 h
    obtain ⟨most?, hmost, h⟩ := bind_eq_ok_iff.1 h
    cases least? with
    | none => cases h
    | some least =>
      cases most? with
      | none => cases h
      | some most =>
        cases h
        exact ⟨⟨least, rfl, isExact_of_readBytes? hleast⟩, most, rfl,
          isExact_of_readBytes? hmost⟩
  · cases h

theorem isExactTest_of_readSize {test : SizeTest} (h : readSize s = .ok test) :
    IsExactTest test := by
  unfold readSize at h
  split at h
  · cases h
    trivial
  · split at h
    · cases h
      trivial
    · obtain ⟨n, rfl, hn⟩ := exists_of_readComparison h
      exact ⟨n, rfl, hn⟩
    · obtain ⟨n, rfl, hn⟩ := exists_of_readComparison h
      exact ⟨n, rfl, hn⟩
    · obtain ⟨n, rfl, hn⟩ := exists_of_readComparison h
      exact ⟨n, rfl, hn⟩
    · exact isExactTest_of_readSizeRange h

/-- The words for sizes begin with letters. -/
theorem sizeWord_eq_none {c : Char} {rest : List Char} (h : c.isAlpha = false) :
    SizeCategory.ofWord? (c :: rest) = none := by
  refine List.find?_eq_none.2 fun category _ hword => ?_
  have hhead := congrArg List.head? (of_decide_eq_true hword)
  cases category <;> cases hhead <;> exact absurd h (by decide)

/-- A text that does not begin with a letter is no word: its sign says what it is. -/
theorem readSize_of_not_isAlpha {c : Char} {rest : List Char} (h : c.isAlpha = false) :
    readSize (c :: rest) =
      match c with
      | '>' => readComparison (c :: rest) rest .above
      | '<' => readComparison (c :: rest) rest .below
      | '=' => readComparison (c :: rest) rest .equals
      | _ => readSizeRange (c :: rest) := by
  have hempty : c :: rest ≠ "empty".toList := by
    intro heq
    cases heq
    exact absurd h (by decide)
  unfold readSize
  rw [if_neg hempty, sizeWord_eq_none h]
  split <;> split <;> simp_all

theorem readComparison_of_numeral? {make : Int → CountTest} (h : numeral? n = some s)
    (hn : ByteSize.IsExact n) : readComparison value s make = .ok (.bytes (make n)) := by
  unfold readComparison
  rw [readBytes?_of_numeral? h hn]
  rfl

theorem readSizeRange_of_numeral? {m : Nat} (hs : numeral? n = some s) (ht : numeral? m = some t)
    (hn : ByteSize.IsExact n) (hm : ByteSize.IsExact m) :
    readSizeRange (s ++ '-' :: t) = .ok (.bytes (.range n m)) := by
  unfold readSizeRange
  rw [splitAtEach_append_cons ((isNumeral_of_numeral? hs).not_mem rfl),
    splitAtEach_of_not_mem ((isNumeral_of_numeral? ht).not_mem rfl)]
  simp only [readBytes?_of_numeral? hs hn, readBytes?_of_numeral? ht hm]
  rfl

theorem not_isAlpha_of_isDigit {c : Char} (h : c.isDigit = true) : c.isAlpha = false := by
  have hall : (tenDigits.all fun d => !d.isAlpha) = true := by decide
  have := List.all_eq_true.1 hall c (mem_tenDigits h)
  rwa [Bool.not_eq_true'] at this

/-- A size that begins with a digit is a range. -/
theorem readSize_of_isDigit {c : Char} {rest : List Char} (h : c.isDigit = true) :
    readSize (c :: rest) = readSizeRange (c :: rest) := by
  rw [readSize_of_not_isAlpha (not_isAlpha_of_isDigit h)]
  split
  case h_4 => rfl
  all_goals exact absurd h (by decide)

/-- **A condition on a size that was read is read again from its text.** -/
theorem readSize_text {test : SizeTest} (h : readSize s = .ok test) (ht : test.text = .ok t) :
    readSize t = .ok test := by
  have hn := isExactTest_of_readSize h
  cases test with
  | empty =>
    cases ht
    rfl
  | category c =>
    cases ht
    cases c <;> rfl
  | bytes test =>
    cases test with
    | equals count | above count | below count =>
      obtain ⟨n, rfl, hexact⟩ := hn
      obtain ⟨numeral, hnumeral, ht⟩ := bind_eq_ok_iff.1 ht
      cases ht
      rw [readSize_of_not_isAlpha (by decide)]
      exact readComparison_of_numeral? (numeralText_natCast hnumeral) hexact
    | range least most =>
      obtain ⟨⟨n, rfl, hleast⟩, m, rfl, hmost⟩ := hn
      obtain ⟨low, hlow, ht⟩ := bind_eq_ok_iff.1 ht
      obtain ⟨high, hhigh, ht⟩ := bind_eq_ok_iff.1 ht
      cases ht
      have hlow := numeralText_natCast hlow
      have hdigits := isNumeral_of_numeral? hlow
      obtain ⟨c, rest, rfl⟩ := List.exists_cons_of_ne_nil hdigits.1
      rw [List.cons_append, readSize_of_isDigit (hdigits.2 c List.mem_cons_self),
        ← List.cons_append]
      exact readSizeRange_of_numeral? hlow (numeralText_natCast hhigh) hleast hmost

/-! ### Words, extensions, directories and globs -/

theorem readWord_eq_ok {α : Type} {ofWord? : List Char → Option α} {a : α}
    (h : ofWord? s = some a) : readWord ofWord? s = .ok a := by
  unfold readWord
  rw [h]

/-- An extension that was read is read again. -/
theorem readExtension_ext {ext : List Char} (h : readExtension s = .ok ext) :
    readExtension ext = .ok ext := by
  unfold readExtension at h
  split at h
  · cases h
  · rename_i hsome
    cases h
    by_cases hdot : s.head? = some '.'
    · unfold readExtension
      simp only [dottedExtension, hdot, if_true, hsome, Bool.false_eq_true, if_false]
    · -- the dot in front does not make the rest one of dots
      have hall : ('.' :: s).all (· == '.') = false := by
        rw [List.all_cons, Bool.eq_false_iff.2 hsome, Bool.and_false]
      unfold readExtension
      simp only [dottedExtension, hdot, if_false, hall, Bool.false_eq_true, List.head?_cons,
        if_true]

/-- Every directory is read from its text. -/
theorem readDirectory_text (p : Path) : readDirectory p.text = .ok p := by
  have hsome : p.text.isEmpty = false := by
    rw [List.isEmpty_eq_false_iff]
    unfold Path.text
    simp only
    split
    · exact List.cons_ne_nil _ _
    · assumption
  unfold readDirectory
  rw [hsome, Path.ofText_text]
  rfl

/-- A glob that was read keeps its text. -/
theorem readGlob_text {glob : Glob} (h : readGlob s = .ok glob) :
    readGlob glob.text = .ok glob := by
  -- reading a glob keeps the text it was read from
  have htext : glob.text = s := by
    unfold readGlob at h
    split at h
    · rename_i found hfound
      cases h
      obtain ⟨pattern, -, hfound⟩ := bind_eq_ok_iff.1 hfound
      obtain ⟨regex, -, hfound⟩ := bind_eq_ok_iff.1 hfound
      cases hfound
      rfl
    · cases h
  rw [htext, h]

/-! ### Tags -/

theorem Kind.colon_not_mem (kind : Kind) : ':' ∉ kind.word.toList := by
  cases kind <;> decide

theorem splitColon?_append {word : List Char} (h : ':' ∉ word) :
    splitColon? (word ++ ':' :: value) = some (word, value) := by
  -- the colon behind the word is the first one
  have hword : ∀ c ∈ word, decide (c ≠ ':') = true := by
    intro c hc
    exact decide_eq_true fun heq => h (heq ▸ hc)
  have htake : (word ++ ':' :: value).takeWhile (· ≠ ':') = word := by
    rw [List.takeWhile_append_of_pos hword]
    exact List.append_nil word
  have hdrop : (word ++ ':' :: value).dropWhile (· ≠ ':') = ':' :: value :=
    List.dropWhile_append_of_pos hword
  unfold splitColon?
  simp only [htake, hdrop]

/-- The text of a tag is read by its kind. -/
theorem read_word (kind : Kind) :
    read zone (kind.word.toList ++ ':' :: value) = readValue zone value kind := by
  unfold read
  rw [splitColon?_append kind.colon_not_mem]
  simp only [Kind.ofWord?_word]

theorem kind_of_readValue {kind : Kind} (h : readValue zone value kind = .ok tag) :
    tag.kind = kind := by
  cases kind <;> (obtain ⟨a, -, rfl⟩ := map_eq_ok_iff.1 h; rfl)

/-- The value of a tag of any kind is read again from its text. -/
theorem readValue_valueText {kind : Kind} (hzone : zone.TellsDays)
    (h : readValue zone value kind = .ok tag) (ht : tag.valueText zone = .ok t) :
    readValue zone t kind = .ok tag := by
  cases kind with
  | modified | created | accessed =>
    obtain ⟨w, hw, rfl⟩ := map_eq_ok_iff.1 h
    exact map_eq_ok_iff.2 ⟨w, readWindow_text hzone hw ht, rfl⟩
  | size =>
    obtain ⟨test, htest, rfl⟩ := map_eq_ok_iff.1 h
    exact map_eq_ok_iff.2 ⟨test, readSize_text htest ht, rfl⟩
  | extension =>
    obtain ⟨ext, hext, rfl⟩ := map_eq_ok_iff.1 h
    cases ht
    exact map_eq_ok_iff.2 ⟨_, readExtension_ext hext, rfl⟩
  | extensionFamily =>
    obtain ⟨family, -, rfl⟩ := map_eq_ok_iff.1 h
    cases ht
    exact map_eq_ok_iff.2 ⟨family, readWord_eq_ok family.ofWord?_word, rfl⟩
  | directory =>
    obtain ⟨p, -, rfl⟩ := map_eq_ok_iff.1 h
    cases ht
    exact map_eq_ok_iff.2 ⟨p, readDirectory_text p, rfl⟩
  | path =>
    obtain ⟨glob, hglob, rfl⟩ := map_eq_ok_iff.1 h
    cases ht
    exact map_eq_ok_iff.2 ⟨glob, readGlob_text hglob, rfl⟩
  | depth | lines =>
    obtain ⟨test, htest, rfl⟩ := map_eq_ok_iff.1 h
    exact map_eq_ok_iff.2 ⟨test, readCountTest_text htest ht, rfl⟩
  | permission =>
    obtain ⟨test, -, rfl⟩ := map_eq_ok_iff.1 h
    cases ht
    exact map_eq_ok_iff.2 ⟨test, readWord_eq_ok test.ofWord?_word, rfl⟩
  | git =>
    obtain ⟨state, -, rfl⟩ := map_eq_ok_iff.1 h
    cases ht
    exact map_eq_ok_iff.2 ⟨state, readWord_eq_ok state.ofWord?_word, rfl⟩

theorem readValue_of_read (h : read zone s = .ok tag) :
    ∃ value, readValue zone value tag.kind = .ok tag := by
  unfold read at h
  split at h
  · cases h
  · split at h
    · cases h
    · rename_i value _ _ kind _
      refine ⟨value, ?_⟩
      rw [kind_of_readValue h]
      exact h

/-- **At a fixed offset, a tag that was read is read again from its text.** Offsets are less than a
day; beyond that, the last days of the calendar would have no midnight after them. -/
theorem read_text (hfixed : zone.summer = none) (hoffset : zone.standard < secondsPerDay)
    (h : read zone s = .ok tag) (ht : tag.text zone = .ok t) : read zone t = .ok tag := by
  obtain ⟨value, hvalue⟩ := readValue_of_read h
  obtain ⟨valueText, htext, ht⟩ := bind_eq_ok_iff.1 ht
  cases ht
  rw [read_word]
  exact readValue_valueText (Zone.tellsDays_of_fixed hfixed hoffset) hvalue htext

/-- A leap day's eve in a zone five and a half hours ahead: a date on its own, which is written as
two dates. -/
theorem read_text_of_bare_date :
    let zone : Zone := ⟨19800, none⟩
    let tag := VirtualTag.modified (.between (.ofSecond 1709058600) (.ofSecond 1709145000))
    read zone "modified:2024-02-28".toList = .ok tag ∧
      tag.text zone = .ok "modified:between-2024-02-28-2024-02-29".toList ∧
        read zone "modified:between-2024-02-28-2024-02-29".toList = .ok tag := by
  intro zone tag
  have hread : read zone "modified:2024-02-28".toList = .ok tag := by decide +kernel
  have htext : tag.text zone = .ok "modified:between-2024-02-28-2024-02-29".toList := by
    decide +kernel
  exact ⟨hread, htext, read_text rfl (by decide) hread htext⟩

end FileSieve.VirtualTag
