import FileSieve.Proofs.Regex.Progress
import FileSieve.Proofs.Regex.Reading
import FileSieve.Regex.Match

/-!
# Patterns whose reading breaks down

A pattern may be refused without having a fault: when a repeat count in braces is too long or too
large to be taken, wherever it is come upon, when both charsets turn out to be chosen at the end,
and when there is no room for its groups, be it to read them or to translate them.

* `ends_readBraces`, `readBraces_of_overlong`: which counts in braces cannot be taken.
* `State.passes_step`, `State.step_of_overlong`: what a step comes to.
* `State.run_eq_error_iff`: what a run comes to, by induction on its steps.
* `breaksDown_iff`: compiling breaks down exactly when a pattern is refused for no fault.
* `exists_overlong_of_breaksDown`: a pattern must have such a count in it, or choose charsets, or
  want for room.
* `breaksDown_of_overlong`: such a count does it behind any text that is meant verbatim.
-/

namespace FileSieve.Regex

open Text

variable {r : Reader} {e : Error} {digits low high : List Char} {ahead rest : List Lexeme}

/-! ### Repeat counts -/

/-- Digits of a repeat count that cannot be taken. -/
inductive BadCount : List Char → Error → Prop
  /-- There are too many of them. -/
  | tooLong {digits : List Char} (h : maxNumeralLength < digits.length) :
      BadCount digits .numeralTooLong
  /-- Their number is too large. -/
  | tooLarge {digits : List Char} (hlength : digits.length ≤ maxNumeralLength)
      (h : unboundedRepeat ≤ digitsValue digits) : BadCount digits .repeatTooLarge

theorem BadCount.ne_nil (h : BadCount digits e) : digits ≠ [] := by
  rintro rfl
  cases h with
  | tooLong h => cases h
  | tooLarge _ h => exact absurd h (by decide)

theorem repeatCount?_of_badCount (h : BadCount digits e) : repeatCount? digits = .error e := by
  have hne := h.ne_nil
  cases h with
  | tooLong h => simp [repeatCount?, readDigits?, hne, Nat.not_le.2 h]
  | tooLarge hlength h => simp [repeatCount?, readDigits?, hne, hlength, h]

theorem ends_repeatCount? :
    Ends (BadCount digits) (fun _ => ∀ e, ¬ BadCount digits e) (repeatCount? digits) := by
  cases h : repeatCount? digits with
  | ok count =>
    intro e hbad
    rw [repeatCount?_of_badCount hbad] at h
    cases h
  | error e =>
    unfold repeatCount? readDigits? at h
    split at h
    · cases h
    by_cases hlength : digits.length ≤ maxNumeralLength
    · rw [if_pos hlength] at h
      dsimp only at h
      split at h
      · cases h
        exact .tooLarge hlength ‹_›
      · cases h
    · rw [if_neg hlength] at h
      cases h
      exact .tooLong (Nat.lt_of_not_le hlength)

/-- Lexemes that begin with two repeat counts in braces, or with one that counts for both. -/
inductive Braces : List Lexeme → List Char → List Char → Prop
  /-- One count. -/
  | one {digits : List Char} {rest : List Lexeme} (hdigits : ∀ c ∈ digits, c.isDigit = true)
      (hrest : rest.head? ≠ some .loneBackslash) :
      Braces (.plain '\x7b' :: (digits.map .plain ++ .plain '\x7d' :: rest)) digits digits
  /-- Two counts. -/
  | two {low high : List Char} {rest : List Lexeme} (hlow : ∀ c ∈ low, c.isDigit = true)
      (hhigh : ∀ c ∈ high, c.isDigit = true) (hrest : rest.head? ≠ some .loneBackslash) :
      Braces (.plain '\x7b' ::
        (low.map .plain ++ .plain ',' :: (high.map .plain ++ .plain '\x7d' :: rest))) low high

/-- Lexemes that begin with repeat counts in braces one of which cannot be taken. -/
inductive Overlong (ahead : List Lexeme) (e : Error) : Prop
  /-- The first. -/
  | low {low high : List Char} (h : Braces ahead low high) (hbad : BadCount low e)
  /-- The second. -/
  | high {low high : List Char} (h : Braces ahead low high) (hgood : ∀ e, ¬ BadCount low e)
      (hbad : BadCount high e)

/-- A count that cannot be taken is noticed, and nothing else than a fault can be wrong. -/
theorem ends_readBraces : Ends (fun e => IsMalformed e ∨ Overlong (.plain '\x7b' :: r.ahead) e)
    (fun counts => ∀ c ∈ counts, c.2.2.ahead <:+ r.ahead) (readBraces r) := by
  unfold readBraces
  split
  · exact nofun
  refine Ends.bind (Reader.ends_takeUpTo.mono (fun _ => .inl) fun _ => id) ?_
  rintro ⟨low, r₁⟩ - ⟨h₁, hlow⟩
  refine Ends.bind (Reader.ends_accept.mono (fun _ => .inl) fun _ => id) ?_
  rintro ⟨comma, r₂⟩ - hcomma
  dsimp only at h₁ hlow hcomma ⊢
  -- in both cases there are braces if the next character closes them
  refine Ends.either_bind (q := fun second => second.2.ahead <:+ r.ahead ∧
    ∀ rest, second.2.ahead = .plain '\x7d' :: rest → rest.head? ≠ some .loneBackslash →
      Braces (.plain '\x7b' :: r.ahead) low second.1) (fun h => ?_) (fun h => ?_) ?_
  · rw [if_pos h] at hcomma
    refine Reader.ends_takeUpTo.mono (fun _ => .inl) ?_
    rintro ⟨high, r₃⟩ ⟨h₂, hhigh⟩
    dsimp only at h₂ ⊢
    rw [h₁, hcomma.1, h₂]
    refine ⟨?_, fun rest hrest hlone => ?_⟩
    · exact ((List.suffix_append _ _).trans (List.suffix_cons _ _)).trans (List.suffix_append _ _)
    · rw [hrest]
      exact .two hlow hhigh hlone
  · rw [if_neg h] at hcomma
    subst hcomma
    rw [h₁]
    refine ⟨List.suffix_append _ _, fun rest hrest hlone => ?_⟩
    rw [hrest]
    exact .one hlow hlone
  rintro ⟨high, r₃⟩ ⟨hsuffix, hbraces⟩
  refine Ends.bind (Reader.ends_accept.mono (fun _ => .inl) fun _ => id) ?_
  rintro ⟨closed, r₄⟩ - hclosed
  dsimp only at hclosed hbraces hsuffix ⊢
  split
  · exact nofun
  rename_i h
  rw [if_pos (by simpa using h)] at hclosed
  have hbraces := hbraces _ hclosed.1 hclosed.2
  rw [hclosed.1] at hsuffix
  have hend : r₄.ahead <:+ r.ahead := (List.suffix_cons _ _).trans hsuffix
  refine Ends.bind (ends_repeatCount?.mono (fun _ h => .inr (.low hbraces h)) fun _ => id)
    fun least _ hgood => ?_
  refine Ends.bind (ends_repeatCount?.mono (fun _ h => .inr (.high hbraces hgood h)) fun _ => id)
    fun most _ _ => ?_
  split
  · split
    · exact .inl ⟨_, _, rfl⟩
    · rintro _ ⟨⟩
      exact hend
  · rintro _ ⟨⟩
    exact hend

theorem takeWhile_digits {stop : Char} {pos : Nat} (hdigits : ∀ c ∈ digits, c.isDigit = true)
    (hstop : stop.isDigit = false) :
    Reader.takeWhile (·.isDigit) ⟨digits.map .plain ++ .plain stop :: rest, pos⟩ =
      .ok (digits, ⟨.plain stop :: rest, pos + digits.length⟩) := by
  suffices ∀ n, digits.length < n →
      Reader.takeUpTo (·.isDigit) n ⟨digits.map .plain ++ .plain stop :: rest, pos⟩ =
        .ok (digits, ⟨.plain stop :: rest, pos + digits.length⟩) from this _ (by simp)
  induction digits generalizing pos with
  | nil =>
    intro n hn
    obtain ⟨n, rfl⟩ := Nat.exists_eq_succ_of_ne_zero (Nat.ne_of_gt hn)
    simp [Reader.takeUpTo, Reader.next?, hstop]
  | cons d digits ih =>
    intro n hn
    obtain ⟨n, rfl⟩ := Nat.exists_eq_succ_of_ne_zero (Nat.ne_of_gt (Nat.zero_lt_of_lt hn))
    obtain ⟨hd, hdigits⟩ := List.forall_mem_cons.1 hdigits
    have hnext : (digits.map Lexeme.plain ++ .plain stop :: rest).head? ≠ some .loneBackslash := by
      cases digits <;> simp
    rw [List.map_cons, List.cons_append, Reader.takeUpTo]
    simp only [Reader.next?, List.head?_cons, hd, if_true, advance_cons hnext]
    change (Reader.takeUpTo _ n _ >>= _) = _
    rw [ih hdigits n (by simpa using hn)]
    simp [bind, Except.bind, pure, Except.pure, Lexeme.width, Nat.add_assoc, Nat.add_comm 1]

theorem next?_digits_ne {stop : Char} {pos : Nat} (hdigits : ∀ c ∈ digits, c.isDigit = true)
    (h : digits ≠ [] ∨ stop ≠ '\x7d') :
    Reader.next? ⟨digits.map .plain ++ .plain stop :: rest, pos⟩ ≠ some (.plain '\x7d') := by
  intro hnext
  cases digits with
  | nil =>
    cases hnext
    exact h.elim (absurd rfl) (absurd rfl)
  | cons d digits =>
    cases hnext
    exact absurd (hdigits _ List.mem_cons_self) (by decide)

theorem repeatCount?_bind {α : Type} {f : Option Nat → Option Nat → Except Error α}
    (h : BadCount low e ∨ (∀ e, ¬ BadCount low e) ∧ BadCount high e) :
    (repeatCount? low >>= fun least => repeatCount? high >>= f least) = .error e := by
  rcases h with hbad | ⟨hgood, hbad⟩
  · rw [repeatCount?_of_badCount hbad]
    rfl
  · have hends := @ends_repeatCount? low
    cases h : repeatCount? low with
    | error e' =>
      rw [h] at hends
      exact absurd hends (hgood e')
    | ok least =>
      rw [repeatCount?_of_badCount hbad]
      rfl

/-- Where one of the counts in braces cannot be taken, that is what reading them comes to. -/
theorem readBraces_of_braces (hbraces : Braces (.plain '\x7b' :: r.ahead) low high)
    (h : BadCount low e ∨ (∀ e, ¬ BadCount low e) ∧ BadCount high e) :
    readBraces r = .error e := by
  obtain ⟨ahead, pos⟩ := r
  generalize hall : Lexeme.plain '\x7b' :: Reader.ahead ⟨ahead, pos⟩ = all at hbraces
  cases hbraces with
  | @one digits rest hdigits hrest =>
    obtain ⟨-, rfl⟩ := List.cons.inj hall
    have hne : low ≠ [] := by
      rcases h with h | ⟨-, h⟩
      · exact h.ne_nil
      · exact h.ne_nil
    have hcount : Reader.takeWhile (·.isDigit) ⟨low.map .plain ++ .plain '\x7d' :: rest, pos⟩ =
      .ok (low, ⟨.plain '\x7d' :: rest, pos + low.length⟩) := takeWhile_digits hdigits (by decide)
    have hcomma : Reader.accept ⟨.plain '\x7d' :: rest, pos + low.length⟩ ',' =
      .ok (false, ⟨.plain '\x7d' :: rest, pos + low.length⟩) := accept_of_ne (by simp)
    unfold readBraces
    rw [if_neg (next?_digits_ne hdigits (.inl hne))]
    simp only [hcount, ok_bind, hcomma, Bool.false_eq_true, if_false]
    change (Reader.accept ⟨.plain '\x7d' :: rest, _⟩ '\x7d' >>= _) = _
    rw [accept_self hrest]
    exact repeatCount?_bind h
  | @two _ high rest hlow hhigh hrest =>
    obtain ⟨-, rfl⟩ := List.cons.inj hall
    have hlone : (high.map Lexeme.plain ++ .plain '\x7d' :: rest).head? ≠ some .loneBackslash := by
      cases high <;> simp
    have hcount : Reader.takeWhile (·.isDigit) ⟨low.map .plain ++ .plain ',' ::
        (high.map .plain ++ .plain '\x7d' :: rest), pos⟩ =
      .ok (low, ⟨.plain ',' :: (high.map .plain ++ .plain '\x7d' :: rest), pos + low.length⟩) :=
      takeWhile_digits hlow (by decide)
    unfold readBraces
    rw [if_neg (next?_digits_ne hlow (.inr (by decide)))]
    simp only [hcount, ok_bind, accept_self hlone, if_true]
    rw [takeWhile_digits hhigh (by decide)]
    change (Reader.accept ⟨.plain '\x7d' :: rest, _⟩ '\x7d' >>= _) = _
    rw [accept_self hrest]
    exact repeatCount?_bind h

theorem readBraces_of_overlong (h : Overlong (.plain '\x7b' :: r.ahead) e) :
    readBraces r = .error e := by
  cases h with
  | low h hbad => exact readBraces_of_braces h (.inl hbad)
  | high h hgood hbad => exact readBraces_of_braces h (.inr ⟨hgood, hbad⟩)

/-- Counts that cannot be taken stand in braces. -/
theorem Overlong.exists_ahead_eq (h : Overlong ahead e) :
    ∃ rest, ahead = .plain '\x7b' :: rest ∧ rest.head? ≠ some .loneBackslash := by
  have hbraces : ∀ low high, Braces ahead low high →
      ∃ rest, ahead = .plain '\x7b' :: rest ∧ rest.head? ≠ some .loneBackslash := by
    intro low high h
    cases h with
    | one =>
      refine ⟨_, rfl, ?_⟩
      cases low <;> simp
    | two =>
      refine ⟨_, rfl, ?_⟩
      cases low <;> simp
  cases h with
  | low h => exact hbraces _ _ h
  | high h => exact hbraces _ _ h

/-! ### Steps -/

variable {st st' : State} {x : Except Error State} {l : Lexeme} {c : Char}

/-- A step passes the first of the lexemes ahead, or there is a fault or a repeat count that cannot
be taken. -/
def Passes (ahead : List Lexeme) (x : Except Error State) : Prop :=
  Ends (fun e => IsMalformed e ∨ Overlong ahead e) (fun st' => st'.reader.ahead <:+ ahead.tail) x

theorem Lands.passes (h : Lands State.reader r x) : Passes (l :: r.ahead) x :=
  h.mono (fun _ => .inl) fun _ => id

namespace State

theorem passes_readPlain : Passes (.plain c :: r.ahead) (st.readPlain c r) := by
  unfold readPlain
  dsimp only
  split
  · exact Lands.passes (lands_here rfl)
  split
  · exact Lands.passes (lands_skipLine.bind fun _ => lands_here rfl)
  split
  · exact Lands.passes (lands_readSet.bind fun _ => lands_here rfl)
  · exact lands_repeatLast.passes
  · exact lands_repeatLast.passes
  · exact lands_repeatLast.passes
  · refine ends_readBraces.bind fun counts _ hcounts => ?_
    split
    · exact Lands.passes (lands_here rfl)
    · exact Lands.passes (lands_repeatLast.further (hcounts _ rfl))
  · exact Lands.passes (lands_here rfl)
  · exact lands_openParenthesis.passes
  · exact Lands.passes (lands_here rfl)
  · exact Lands.passes (lands_here rfl)
  · exact Lands.passes (lands_here rfl)

theorem lands_closeGroup {around : Frame} {outer : List Frame} :
    Lands reader r (pure (st.closeGroup around outer r)) := by
  refine lands_here ?_
  unfold closeGroup
  dsimp only
  split <;> rfl

/-- **What one step comes to**: the next lexeme is passed, or there is a fault or a repeat count
that cannot be taken. -/
theorem passes_step (h : st.reader.ahead = l :: rest) : Passes (l :: rest) (st.step l) := by
  have hadvance : ∀ {f : Reader → Except Error State},
      (∀ r, r.ahead = rest → Passes (l :: rest) (f r)) →
        Passes (l :: rest) (st.reader.advance >>= f) := fun hf =>
    Ends.bind ((Reader.ends_advance h).mono (fun _ => .inl) fun _ => id) fun r _ hr => hf r hr.1
  unfold step
  split
  · unfold nextBranch
    dsimp only
    split
    · refine hadvance ?_
      rintro r rfl
      exact Lands.passes (lands_here rfl)
    · exact .inl ⟨_, _, rfl⟩
    · refine hadvance ?_
      rintro r rfl
      exact Lands.passes (lands_here rfl)
  · refine hadvance ?_
    rintro r rfl
    exact lands_closeGroup.passes
  · refine hadvance ?_
    rintro r rfl
    exact passes_readPlain
  · refine hadvance ?_
    rintro r rfl
    exact (lands_readEscape.bind fun _ => lands_here rfl : Lands reader r _).passes
  · exact .inl ⟨_, _, rfl⟩

theorem step_of_overlong (h : Overlong st.reader.ahead e) (hahead : st.reader.ahead = l :: rest) :
    st.step l = .error e := by
  obtain ⟨rest', hbrace, hlone⟩ := h.exists_ahead_eq
  cases hahead.symm.trans hbrace
  have hreader : st.reader = ⟨.plain '\x7b' :: rest, st.reader.position⟩ := by rw [← hahead]
  have hadvance : st.reader.advance = .ok ⟨rest, st.reader.position + 1⟩ := by
    rw [hreader]
    exact advance_cons hlone
  rw [hahead] at h
  have hread : readBraces ⟨rest, st.reader.position + 1⟩ = .error e := readBraces_of_overlong h
  simp only [step, hadvance]
  change st.readPlain '\x7b' ⟨rest, _⟩ = _
  simp [readPlain, isVerboseBlank, hread]
  rfl

/-! ### Runs -/

/-- Reading on from a state breaks down. -/
inductive Breaks : State → Error → Prop
  /-- There is no room to read on. -/
  | room {st : State} (h : st.hasRoom = false) : Breaks st .tooDeep
  /-- A repeat count that cannot be taken is ahead. -/
  | count {st : State} {e : Error} (hroom : st.hasRoom = true) (h : Overlong st.reader.ahead e) :
      Breaks st e
  /-- At the end, both charsets are chosen. -/
  | charsets {st : State} (hroom : st.hasRoom = true)
      (hend : st.reader.ahead = [] ∨ st.reader.ahead.head? = some (.plain ')'))
      (houter : st.outer = []) (hascii : st.flags.contains .ascii = true)
      (hunicode : st.flags.contains .unicode = true) : Breaks st .bothCharsets
  /-- Reading breaks down later. -/
  | later {st st' : State} {l : Lexeme} {rest : List Lexeme} {e : Error}
      (hroom : st.hasRoom = true) (hahead : st.reader.ahead = l :: rest)
      (hopen : ¬ (l = .plain ')' ∧ st.outer = [])) (hstep : st.step l = .ok st')
      (h : Breaks st' e) : Breaks st e

theorem breaks_iff_of_no_room (h : st.hasRoom = false) : Breaks st e ↔ e = .tooDeep := by
  constructor
  · intro hbreaks
    cases hbreaks with
    | room => rfl
    | count hroom | charsets hroom | later hroom => cases h.symm.trans hroom
  · rintro rfl
    exact .room h

theorem ends_finish : Ends (fun e => IsMalformed e ∨ e = .bothCharsets ∧ st.outer = [] ∧
    st.flags.contains .ascii = true ∧ st.flags.contains .unicode = true) (fun _ => True)
    st.finish := by
  unfold finish
  split
  · exact .inl ⟨_, _, rfl⟩
  split
  · exact .inr ⟨rfl, not_not.1 ‹_›, ‹_ ∧ _›⟩
  split
  · exact .inl ⟨_, _, rfl⟩
  split
  · exact .inl ⟨_, _, rfl⟩
  · trivial

/-- At the end, only the choice of both charsets counts. -/
theorem finish_eq_error_iff (hroom : st.hasRoom = true)
    (hend : st.reader.ahead = [] ∨ st.reader.ahead.head? = some (.plain ')') ∧ st.outer = [])
    (he : ¬ IsMalformed e) : st.finish = .error e ↔ Breaks st e := by
  constructor
  · intro h
    have hends := @ends_finish st
    rw [h] at hends
    rcases hends with hmalformed | ⟨rfl, houter, hascii, hunicode⟩
    · exact absurd hmalformed he
    · exact .charsets hroom (hend.imp_right And.left) houter hascii hunicode
  · intro h
    cases h with
    | room h => cases h.symm.trans hroom
    | count _ h =>
      obtain ⟨rest, hahead, -⟩ := h.exists_ahead_eq
      simp [hahead] at hend
    | charsets _ _ houter hascii hunicode =>
      rw [finish, if_neg (not_not.2 houter), if_pos ⟨hascii, hunicode⟩]
    | later _ hahead hopen =>
      simp only [hahead, List.cons_ne_nil, List.head?_cons, Option.some.injEq, false_or] at hend
      exact absurd hend hopen

/-- The error of a step is what a reading breaks down with before the step. -/
theorem breaks_iff_of_error {e' : Error} (hroom : st.hasRoom = true)
    (hahead : st.reader.ahead = l :: rest) (hopen : ¬ (l = .plain ')' ∧ st.outer = []))
    (hstep : st.step l = .error e') (he : ¬ IsMalformed e) : Breaks st e ↔ e' = e := by
  constructor
  · intro h
    cases h with
    | room h => cases h.symm.trans hroom
    | count _ h => exact Except.error.inj (hstep.symm.trans (step_of_overlong h hahead))
    | charsets _ hend houter =>
      rw [hahead] at hend
      exact absurd ⟨by simpa using hend, houter⟩ hopen
    | later _ hahead' _ hstep' =>
      cases hahead.symm.trans hahead'
      cases hstep.symm.trans hstep'
  · rintro rfl
    have hpasses := passes_step hahead
    rw [hstep] at hpasses
    exact .count hroom (hahead ▸ hpasses.resolve_left he)

/-- After a step, a reading breaks down as it does before. -/
theorem breaks_iff_of_ok (hroom : st.hasRoom = true) (hahead : st.reader.ahead = l :: rest)
    (hopen : ¬ (l = .plain ')' ∧ st.outer = [])) (hstep : st.step l = .ok st') :
    Breaks st e ↔ Breaks st' e := by
  refine ⟨fun h => ?_, .later hroom hahead hopen hstep⟩
  cases h with
  | room h => cases h.symm.trans hroom
  | count _ h => cases hstep.symm.trans (step_of_overlong h hahead)
  | charsets _ hend houter =>
    rw [hahead] at hend
    exact absurd ⟨by simpa using hend, houter⟩ hopen
  | later _ hahead' _ hstep' h =>
    cases hahead.symm.trans hahead'
    cases hstep.symm.trans hstep'
    exact h

/-- **What a run comes to**: it breaks down where one of its states does. -/
theorem run_eq_error_iff {fuel : Nat} (hfuel : st.reader.ahead.length < fuel)
    (he : ¬ IsMalformed e) : run fuel st = .error e ↔ Breaks st e := by
  induction fuel generalizing st with
  | zero => cases hfuel
  | succ fuel ih =>
    rw [run]
    cases hroom : st.hasRoom with
    | false =>
      rw [breaks_iff_of_no_room hroom]
      exact ⟨fun h => (Except.error.inj h).symm, fun h => congrArg _ h.symm⟩
    | true =>
    simp only [Bool.not_true, Bool.false_eq_true, if_false, Reader.next?]
    cases hahead : st.reader.ahead with
    | nil => exact finish_eq_error_iff hroom (.inl hahead) he
    | cons l rest =>
      simp only [List.head?_cons]
      by_cases hopen : l = .plain ')' ∧ st.outer = []
      · rw [if_pos hopen]
        exact finish_eq_error_iff hroom (.inr ⟨by rw [hahead, hopen.1]; rfl, hopen.2⟩) he
      rw [if_neg hopen]
      cases hstep : st.step l with
      | error e' =>
        rw [breaks_iff_of_error hroom hahead hopen hstep he]
        exact ⟨Except.error.inj, congrArg _⟩
      | ok st' =>
        have hpasses := passes_step hahead
        rw [hstep] at hpasses
        -- the step has passed a lexeme, so the fuel that is left is enough
        have hlength : st'.reader.ahead.length < fuel := by
          rw [hahead] at hfuel
          exact Nat.lt_of_le_of_lt hpasses.length_le (Nat.lt_of_succ_lt_succ hfuel)
        rw [breaks_iff_of_ok hroom hahead hopen hstep]
        exact ih hlength

end State

/-! ### Patterns -/

variable {library : Library} {pattern : List Char}

/-- Compiling a pattern breaks down. -/
inductive BreaksDown (library : Library) (pattern : List Char) : Error → Prop
  /-- Reading it does. -/
  | reading {e : Error} (h : (State.initial library ⟨lexemes pattern, 0⟩).Breaks e) :
      BreaksDown library pattern e
  /-- There is no room to translate what was read. -/
  | translating {regex : Regex} (hread : parse pattern library = .ok regex)
      (h : library.canTranslate regex = false) : BreaksDown library pattern .tooDeep

theorem failsOnly_check {widths : List Width} {flags : Flags} {node : Node} :
    FailsOnly IsMalformed (check widths flags node) := by
  induction node generalizing flags with
  | cat a b iha ihb => exact iha.bind fun _ _ => ihb
  | alt a b iha ihb => exact iha.bind fun _ _ => ihb
  | group index body ih => exact ih
  | «scoped» added removed body ih => exact ih
  | «repeat» greed least most body ih =>
    unfold check
    split
    · exact ⟨_, _, rfl⟩
    · exact ih
  | look behind negated body ih =>
    unfold check
    dsimp only
    exact .unless (.unless ih ⟨_, _, rfl⟩) ⟨_, _, rfl⟩
  | atomic body ih => exact ih
  | conditional index taken missed ihtaken ihmissed => exact ihtaken.bind fun _ _ => ihmissed
  | _ => exact failsOnly_ok

theorem parse_eq_error_iff (he : ¬ IsMalformed e) : parse pattern library = .error e ↔
    (State.initial library ⟨lexemes pattern, 0⟩).Breaks e := by
  by_cases hlone : (lexemes pattern).head? = some .loneBackslash
  · -- a pattern that is a backslash and nothing else
    obtain ⟨rest, hlexemes⟩ : ∃ rest, lexemes pattern = .loneBackslash :: rest :=
      ⟨_, List.eq_cons_of_mem_head? hlone⟩
    have hstart : Reader.start pattern = .error (.malformed .loneBackslash (some 0)) := by
      simp [Reader.start, Reader.settle, Reader.next?, hlexemes, Reader.fault]
    rw [parse, hstart]
    constructor
    · rintro ⟨⟩
      exact absurd ⟨_, _, rfl⟩ he
    · intro h
      cases h with
      | room h => cases h.symm.trans (State.hasRoom_of_flat (Nat.zero_le 2))
      | count _ h =>
        obtain ⟨rest', hahead, -⟩ := h.exists_ahead_eq
        cases hlexemes.symm.trans hahead
      | charsets _ _ _ hascii => cases hascii
      | later _ hahead _ hstep =>
        cases hlexemes.symm.trans hahead
        cases hstep
  · have hstart : Reader.start pattern = .ok ⟨lexemes pattern, 0⟩ := by
      rw [Reader.start, Reader.settle, Reader.next?, if_neg hlone]
    rw [parse_eq_run hstart]
    exact State.run_eq_error_iff (Nat.lt_succ_self _) he

theorem Overlong.not_isMalformed (h : Overlong ahead e) : ¬ IsMalformed e := by
  have hcount : ∀ digits, BadCount digits e → ¬ IsMalformed e := by
    rintro _ h ⟨_, _, rfl⟩
    cases h
  cases h with
  | low _ hbad => exact hcount _ hbad
  | high _ _ hbad => exact hcount _ hbad

theorem State.Breaks.not_isMalformed {st : State} (h : st.Breaks e) : ¬ IsMalformed e := by
  induction h with
  | room => exact nofun
  | count _ h => exact h.not_isMalformed
  | charsets => exact nofun
  | later _ _ _ _ _ ih => exact ih

/-- **Compiling a pattern breaks down exactly when the pattern is refused for no fault.** -/
theorem breaksDown_iff :
    BreaksDown library pattern e ↔ compile pattern library = .error e ∧ ¬ IsMalformed e := by
  constructor
  · intro h
    cases h with
    | reading h =>
      have he := State.Breaks.not_isMalformed h
      exact ⟨bind_eq_error_iff.2 (.inl ((parse_eq_error_iff he).2 h)), he⟩
    | translating hread h =>
      refine ⟨bind_eq_error_iff.2 (.inr ⟨_, hread, ?_⟩), nofun⟩
      rw [h]
      rfl
  · rintro ⟨h, he⟩
    rcases bind_eq_error_iff.1 h with h | ⟨regex, hread, h⟩
    · exact .reading ((parse_eq_error_iff he).1 h)
    · cases hroom : library.canTranslate regex with
      | false =>
        rw [hroom] at h
        cases h
        exact .translating hread hroom
      | true =>
        rw [hroom] at h
        have hends : FailsOnly IsMalformed
            (check regex.widths regex.flags regex.tree >>= fun _ => pure regex) :=
          failsOnly_check.bind fun _ _ => failsOnly_ok
        have hcheck : (check regex.widths regex.flags regex.tree >>= fun _ => pure regex) =
            .error e := h
        rw [hcheck] at hends
        exact absurd hends he

/-- The empty pattern is read without a step, and there is room for its tree. -/
theorem BreaksDown.ne_nil (h : BreaksDown library pattern e) : pattern ≠ [] := by
  rintro rfl
  have hread : parse [] library = (State.initial library ⟨[], 0⟩).finish :=
    parse_of_advances rfl (.refl _) rfl (Nat.zero_le 2)
  have hfinish : (State.initial library ⟨[], 0⟩).finish = .ok ⟨[], [], .empty⟩ := rfl
  have hroom : library.canTranslate ⟨[], [], .empty⟩ = true :=
    library.canTranslate_of_flat _ (Nat.zero_le 4)
  have hcompile : compile [] library = .ok ⟨[], [], .empty⟩ := by
    simp only [compile, hread, hfinish, ok_bind, hroom]
    rfl
  cases hcompile.symm.trans (breaksDown_iff.1 h).1

/-- If it is neither for the charsets nor for want of room, a count that cannot be taken stands
somewhere in the pattern. -/
theorem exists_overlong_of_breaksDown (h : BreaksDown library pattern e) (he : e ≠ .bothCharsets)
    (hroom : e ≠ .tooDeep) : ∃ ahead, ahead <:+ lexemes pattern ∧ Overlong ahead e := by
  suffices ∀ st : State, st.Breaks e → ∃ ahead, ahead <:+ st.reader.ahead ∧ Overlong ahead e by
    cases h with
    | reading h => exact this _ h
    | translating => exact absurd rfl hroom
  clear h
  intro st h
  induction h with
  | room => exact absurd rfl hroom
  | count _ h => exact ⟨_, List.suffix_rfl, h⟩
  | charsets => exact absurd rfl he
  | later _ hahead _ hstep _ ih =>
    obtain ⟨ahead, hsuffix, h⟩ := ih he hroom
    have hpasses := State.passes_step hahead
    rw [hstep] at hpasses
    rw [hahead]
    exact ⟨ahead, (hsuffix.trans hpasses).trans (List.suffix_cons _ _), h⟩

theorem lexemes_flatMap_verbatim (s tail : List Char) :
    lexemes (s.flatMap verbatim ++ tail) =
      s.flatMap (fun c => [verbatimLexeme c]) ++ lexemes tail := by
  induction s with
  | nil => rfl
  | cons c s ih =>
    rw [List.flatMap_cons, List.append_assoc, lexemes_verbatim_append, ih]
    rfl

/-- **A count that cannot be taken breaks reading down, whatever characters meant verbatim come
before it.** -/
theorem breaksDown_of_overlong {tail : List Char} (s : List Char) (h : Overlong (lexemes tail) e) :
    BreaksDown library (s.flatMap verbatim ++ tail) e := by
  obtain ⟨rest, hrest, -⟩ := h.exists_ahead_eq
  have hsettled : Settled (lexemes tail) := by simp [Settled, hrest]
  refine .reading ?_
  rw [lexemes_flatMap_verbatim]
  generalize hall : s.flatMap (fun c => [verbatimLexeme c]) ++ lexemes tail = all
  have hlength : (lexemes tail).length ≤ all.length := by
    rw [← hall, List.length_append]
    exact Nat.le_add_left _ _
  obtain ⟨pos, n, -, hrun⟩ := (Reads.sequence
    (fun c (_ : c ∈ s) => (reads_character c : Reads 0 _ _))
    (lexemes tail) hsettled 0 (.initial library ⟨all, 0⟩) (Nat.zero_le 2) rfl).2
  -- with fuel to spare, the run over the characters is one over the count
  have herror : State.run (n + (all.length + 1)) (.initial library ⟨all, 0⟩) = .error e := by
    rw [hall] at hrun
    refine (hrun _).trans ?_
    exact (State.run_eq_error_iff (Nat.lt_succ_of_le hlength) h.not_isMalformed).2
      (.count (State.hasRoom_of_flat (Nat.zero_le 2)) h)
  exact (State.run_eq_error_iff (Nat.lt_of_lt_of_le (Nat.lt_succ_self _) (Nat.le_add_left _ _))
    h.not_isMalformed).1 herror

end FileSieve.Regex
