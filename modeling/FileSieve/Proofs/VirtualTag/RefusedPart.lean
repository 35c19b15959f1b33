import FileSieve.Proofs.VirtualTag.DayLength
import FileSieve.Proofs.VirtualTag.Refusal

/-!
# The part of a text that is refused

A text that is refused is told by the rule that it breaks and by the part of it that does so. The
rule goes by the prefix, and the part is the value behind it; only a window of time may be refused
for a date in it.

* `Blames`: a refusal is under a rule, for a part of which something is known.
* `blames_readWindow`: a window is refused as a number of days or hours back if it looks like one,
  and as a date otherwise.
* `blames_readValue`: the refusals of each kind of tag.
* `refusal_of_read`: the rule and the part of every refusal.
-/

namespace FileSieve.VirtualTag

open Text Calendar

variable {α β : Type} {x : Except ReadError α} {zone : Zone} {s value rest : List Char}
  {rule : RejectedTag.Rule} {p q : List Char → Prop} {r : RejectedTag} {kind : Kind}

/-! ### Refusals -/

/-- If the outcome is a refusal, then under the rule, for a part of which something holds. -/
def Blames (rule : RejectedTag.Rule) (p : List Char → Prop) (x : Except ReadError α) : Prop :=
  FailsOnly (fun e => ∀ r, e = .rejected r → ∃ part, p part ∧ r = .of rule part) x

theorem Blames.exists_part (h : Blames rule p x) (hx : x = .error (.rejected r)) :
    ∃ part, p part ∧ r = .of rule part := by
  subst hx
  exact h r rfl

theorem blames_ok {a : α} : Blames rule p (.ok a) := trivial

theorem blames_reject {part : List Char} (h : p part) :
    Blames rule p (reject rule part : Except ReadError α) := by
  rintro r hr
  cases hr
  exact ⟨part, h, rfl⟩

theorem Blames.mono (h : Blames rule p x) (hpq : ∀ part, p part → q part) : Blames rule q x :=
  Ends.mono h (fun _ he r hr => (he r hr).imp fun part hpart => hpart.imp_left (hpq part))
    fun _ _ => trivial

theorem Blames.bind {f : α → Except ReadError β} (hx : Blames rule p x)
    (hf : ∀ a, Blames rule p (f a)) : Blames rule p (x >>= f) :=
  FailsOnly.bind hx fun a _ => hf a

theorem Blames.map {f : α → β} (hx : Blames rule p x) : Blames rule p (f <$> x) := by
  cases x with
  | error e => exact hx
  | ok a => exact blames_ok

/-! ### Numbers and words -/

/-- A numeral is never refused. -/
theorem blames_readNumeral : Blames rule p (readNumeral s) := by
  unfold readNumeral
  split
  · exact blames_ok
  · rintro r hr
    cases hr

/-- A size literal is never refused by itself. -/
theorem blames_readBytes? : Blames rule p (readBytes? s) := by
  unfold readBytes?
  cases ByteSize.bytes? s with
  | error e =>
    rintro r hr
    cases hr
  | ok bytes => exact blames_ok

theorem blames_readCount : Blames .range (· = value) (readCount s value) := by
  unfold readCount
  split
  · exact blames_readNumeral
  · exact blames_reject rfl

theorem blames_readWord {ofWord? : List Char → Option α} :
    Blames .value (· = value) (readWord ofWord? value) := by
  unfold readWord
  split
  · exact blames_ok
  · exact blames_reject rfl

theorem blames_readExtension : Blames .value (· = value) (readExtension value) := by
  unfold readExtension
  split
  · exact blames_reject rfl
  · exact blames_ok

theorem blames_readDirectory : Blames .value (· = value) (readDirectory value) := by
  unfold readDirectory
  split
  · exact blames_reject rfl
  · exact blames_ok

theorem blames_readGlob : Blames .pattern (· = value) (readGlob value) := by
  unfold readGlob
  split
  · exact blames_ok
  · exact blames_reject rfl

/-! ### Windows -/

theorem blames_readDate : Blames .date (· = s) (readDate zone s) := by
  unfold readDate
  split
  · exact blames_ok
  · exact blames_reject rfl

theorem blames_readLast : Blames .value (· = value) (readLast value) := by
  unfold readLast
  simp only
  split_ifs
  · exact blames_reject rfl
  · exact blames_readNumeral.bind fun _ => blames_ok
  · exact blames_readNumeral.bind fun _ => blames_ok
  · exact blames_reject rfl

/-- Parts that were cut at dashes and joined again are a piece of the text. -/
theorem joinWith_pieces {a b c d e f : List Char}
    (h : splitAtEach '-' rest = [a, b, c, d, e, f]) :
    joinWith ['-'] [a, b, c] <:+: rest ∧ joinWith ['-'] [d, e, f] <:+: rest := by
  have hrest : rest = joinWith ['-'] [a, b, c] ++ '-' :: joinWith ['-'] [d, e, f] := by
    rw [← joinWith_splitAtEach '-' rest, h]
    simp [joinWith]
  rw [hrest]
  exact ⟨(List.prefix_append ..).isInfix,
    ((List.suffix_cons ..).trans (List.suffix_append ..)).isInfix⟩

/-- Two dates are refused as a whole unless they have six parts, and else for one of them. -/
theorem blames_readBetween (hrest : rest <:+: value) :
    Blames .date (· <:+: value) (readBetween zone value rest) := by
  unfold readBetween
  split
  · rename_i hsplit
    obtain ⟨hstart, hstop⟩ := joinWith_pieces hsplit
    refine (blames_readDate.mono ?_).bind fun start => (blames_readDate.mono ?_).bind fun stop => ?_
    · rintro part rfl
      exact hstart.trans hrest
    · rintro part rfl
      exact hstop.trans hrest
    · exact blames_ok
  · exact blames_reject (List.infix_refl value)

theorem blames_readBareDate : Blames .date (· = value) (readBareDate zone value) := by
  refine blames_readDate.bind fun start => ?_
  split
  · exact blames_ok
  · exact blames_reject rfl

/-- The value looks like a number of days or hours back. -/
def LooksBack (value : List Char) : Prop :=
  "last-".toList <+: value ∧ ("-days".toList <:+ value ∨ "-hours".toList <:+ value)

instance (value : List Char) : Decidable (LooksBack value) :=
  inferInstanceAs (Decidable (_ ∧ (_ ∨ _)))

theorem looksBack_iff : ((dropStart? "last-".toList value).isSome &&
    (endsWith "-days".toList value || endsWith "-hours".toList value)) = true ↔
      LooksBack value := by
  rw [Bool.and_eq_true, Bool.or_eq_true, Option.isSome_iff_exists]
  refine and_congr (exists_congr fun rest => ?_) (or_congr ?_ ?_)
  · rw [dropStart?_eq_some_iff, eq_comm]
  · exact List.isSuffixOf_iff_suffix
  · exact List.isSuffixOf_iff_suffix

/-- The rule that a window breaks. -/
def windowRule (value : List Char) : RejectedTag.Rule :=
  if LooksBack value then .value else .date

/-- **A window is refused as a number of days or hours back if it looks like one**, and otherwise as
a date, which may be a part of it. -/
theorem blames_readWindow : Blames (windowRule value) (· <:+: value) (readWindow zone value) := by
  have hrest {start rest : List Char} (h : dropStart? start value = some rest) :
      rest <:+: value := by
    rw [dropStart?_eq_some_iff.1 h]
    exact (List.suffix_append ..).isInfix
  have hwhole (part : List Char) (h : part = value) : part <:+: value := h ▸ List.infix_refl value
  unfold readWindow
  split
  · exact blames_ok
  · by_cases hback : LooksBack value
    · rw [if_pos (looksBack_iff.2 hback), windowRule, if_pos hback]
      exact blames_readLast.mono hwhole
    · rw [if_neg (mt looksBack_iff.1 hback), windowRule, if_neg hback]
      split
      · rename_i hafter
        exact (blames_readDate.mono fun part h => h ▸ hrest hafter).map
      · rename_i hbefore
        exact (blames_readDate.mono fun part h => h ▸ hrest hbefore).map
      · rename_i hbetween
        exact blames_readBetween (hrest hbetween)
      · exact blames_readBareDate.mono hwhole

/-! ### Sizes and counts -/

theorem blames_readComparison {test : Int → CountTest} :
    Blames .size (· = value) (readComparison value rest test) := by
  refine blames_readBytes?.bind fun bytes? => ?_
  cases bytes? with
  | none => exact blames_reject rfl
  | some bytes => exact blames_ok

theorem blames_readSizeRange : Blames .size (· = value) (readSizeRange value) := by
  unfold readSizeRange
  split
  · refine blames_readBytes?.bind fun least? => blames_readBytes?.bind fun most? => ?_
    split
    · exact blames_ok
    · exact blames_reject rfl
  · exact blames_reject rfl

theorem blames_readSize : Blames .size (· = value) (readSize value) := by
  unfold readSize
  split_ifs
  · exact blames_ok
  · split
    · exact blames_ok
    · exact blames_readComparison
    · exact blames_readComparison
    · exact blames_readComparison
    · exact blames_readSizeRange

theorem blames_readCountTest : Blames .range (· = value) (readCountTest value) := by
  unfold readCountTest
  split
  · exact blames_readCount.bind fun _ => blames_ok
  · exact blames_readCount.bind fun _ => blames_ok
  · split
    · exact blames_readCount.bind fun _ => blames_ok
    · exact blames_readCount.bind fun _ => blames_readCount.bind fun _ => blames_ok
    · exact blames_reject rfl

/-! ### Tags -/

/-- The rule that the value of a tag of a kind breaks. -/
def Kind.brokenRule (value : List Char) : Kind → RejectedTag.Rule
  | .modified | .created | .accessed => windowRule value
  | .size => .size
  | .path => .pattern
  | .depth | .lines => .range
  | .extension | .extensionFamily | .directory | .permission | .git => .value

/-- **The refusals of each kind of tag.** -/
theorem blames_readValue : Blames (kind.brokenRule value)
    (fun part => part <:+: value ∧ (¬ kind.IsTime → part = value)) (readValue zone value kind) := by
  have hwhole (part : List Char) (h : part = value) :
      part <:+: value ∧ (¬ kind.IsTime → part = value) := ⟨h ▸ List.infix_refl value, fun _ => h⟩
  cases kind with
  | modified | created | accessed =>
    refine (blames_readWindow.mono fun part h => ⟨h, fun htime => absurd ?_ htime⟩).map
    simp [Kind.IsTime]
  | size => exact (blames_readSize.mono hwhole).map
  | extension => exact (blames_readExtension.mono hwhole).map
  | extensionFamily | permission | git => exact (blames_readWord.mono hwhole).map
  | directory => exact (blames_readDirectory.mono hwhole).map
  | path => exact (blames_readGlob.mono hwhole).map
  | depth | lines => exact (blames_readCountTest.mono hwhole).map

/-- **The rule and the part of every refusal.** The part is a piece of the text: all of it if it has
no colon, and an unknown prefix if that is what is refused. Otherwise the rule goes by the prefix,
and the part is what follows the first colon, or a piece of that if the prefix is one of time. -/
theorem refusal_of_read (h : read zone s = .error (.rejected r)) :
    r.value <:+: s ∧
    (':' ∉ s → r = .of .format s) ∧
    ∀ word value, s = word ++ ':' :: value → ':' ∉ word →
      ((∀ kind : Kind, kind.word.toList ≠ word) → r = .of .kind word) ∧
      ∀ kind : Kind, kind.word.toList = word →
        r = .of (kind.brokenRule value) r.value ∧ (¬ kind.IsTime → r.value = value) := by
  have hcut {word value : List Char} (hs : s = word ++ ':' :: value) (hword : ':' ∉ word) :
      splitColon? s = some (word, value) := by
    rw [hs, splitColon?_append hword]
  unfold read at h
  split at h
  · rename_i hnone
    cases h
    refine ⟨List.infix_refl s, fun _ => rfl, fun word value hs hword => ?_⟩
    cases hnone.symm.trans (hcut hs hword)
  · rename_i front back hsplit
    have hs : s = front ++ ':' :: back := eq_of_splitColon? hsplit
    have hcolon : ':' ∈ s := hs ▸ List.mem_append_right _ List.mem_cons_self
    split at h
    · rename_i hunknown
      cases h
      refine ⟨hs ▸ (List.prefix_append ..).isInfix, fun hnone => absurd hcolon hnone,
        fun word value hword hfirst => ?_⟩
      -- there is only one way to cut the text at its first colon
      cases hsplit.symm.trans (hcut hword hfirst)
      refine ⟨fun _ => rfl, fun kind hkind => ?_⟩
      rw [← hkind, Kind.ofWord?_word] at hunknown
      cases hunknown
    · rename_i known hknown
      obtain ⟨part, ⟨hpiece, hpart⟩, rfl⟩ := blames_readValue.exists_part h
      have hback : back <:+: s := by
        rw [hs]
        exact ((List.suffix_cons ..).trans (List.suffix_append ..)).isInfix
      refine ⟨hpiece.trans hback, fun hnone => absurd hcolon hnone,
        fun word value hword hfirst => ?_⟩
      cases hsplit.symm.trans (hcut hword hfirst)
      refine ⟨fun hunknown => absurd (word_of_ofWord? hknown).symm (hunknown known),
        fun kind hkind => ?_⟩
      rw [← hkind, Kind.ofWord?_word] at hknown
      cases hknown
      exact ⟨rfl, hpart⟩

/-- A date that is not in the calendar is refused alone, although the window has another one. -/
theorem refusal_of_second_date :
    let s := "modified:between-2024-01-01-2024-02-30".toList
    let r := RejectedTag.of .date "2024-02-30".toList
    read .universal s = .error (.rejected r) ∧ r.value <:+: s ∧
      Kind.modified.brokenRule "between-2024-01-01-2024-02-30".toList = r.rule := by
  intro s r
  have hread : read .universal s = .error (.rejected r) := by decide +kernel
  obtain ⟨hpiece, -, hknown⟩ := refusal_of_read hread
  have hrule := ((hknown "modified".toList "between-2024-01-01-2024-02-30".toList rfl
    (by decide)).2 .modified rfl).1
  exact ⟨hread, hpiece, (congrArg RejectedTag.rule hrule).symm⟩

end FileSieve.VirtualTag
