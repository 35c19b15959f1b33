import FileSieve.Proofs.Outcome
import FileSieve.Regex.Parse

/-!
# Reading a pattern makes progress

Every part of the reader of patterns either finds a fault or comes to stand where it stood or
further on. With the exception of repeat counts, nothing else can go wrong in it.

* `Lands.bind`: two parts of a reading, one after the other.
* `lands_setEscape`, `lands_readSet`, `State.lands_readFlags` and so on: the parts.
* `State.lands_openParenthesis`: whatever follows a parenthesis.
-/

namespace FileSieve.Regex

open Text

/-- The pattern has a fault. -/
def IsMalformed (e : Error) : Prop := ∃ fault position, e = .malformed fault position

/-- A reading that begins at a place finds a fault or ends there or further on. -/
def Lands {α : Type} (place : α → Reader) (r : Reader) (x : Except Error α) : Prop :=
  Ends IsMalformed (fun a => (place a).ahead <:+ r.ahead) x

variable {α β : Type} {place : α → Reader} {place' : β → Reader} {r r' : Reader}
  {x : Except Error α} {named? : List Char → Option Char}

/-- What begins further on ends further on. -/
theorem Lands.further (h : Lands place r' x) (hr : r'.ahead <:+ r.ahead) : Lands place r x :=
  h.mono (fun _ => id) fun _ ha => ha.trans hr

theorem Lands.bind {f : α → Except Error β} (hx : Lands place r x)
    (hf : ∀ a, Lands place' (place a) (f a)) : Lands place' r (x >>= f) :=
  Ends.bind hx fun a _ ha => (hf a).further ha

theorem lands_here {a : α} (h : place a = r) : Lands place r (.ok a) := by
  subst h
  exact List.suffix_rfl

theorem lands_malformed {fault : Fault} {position : Option Nat} :
    Lands place r (.error (.malformed fault position)) := ⟨_, _, rfl⟩

theorem lands_fault {fault : Fault} : Lands place r (r'.fault fault) := lands_malformed

theorem lands_faultBack {back : Nat} {fault : Fault} :
    Lands place r (r'.faultBack back fault) := lands_malformed

/-- The first part of a reading is one of two. -/
theorem Lands.either_bind {c : Prop} [Decidable c] {y : Except Error α} {f : α → Except Error β}
    (hx : Lands place r x) (hy : Lands place r y)
    (hf : ∀ a, (place a).ahead <:+ r.ahead → Lands place' r (f a)) :
    Lands place' r (if c then x >>= f else y >>= f) :=
  Ends.either_bind (fun _ => hx) (fun _ => hy) hf

/-- A reading goes on unless there is a fault. -/
theorem Lands.unless {c : Prop} [Decidable c] {fault : Except Error β} (hx : Lands place r x)
    (hfault : Ends IsMalformed (fun _ => False) fault) :
    Lands place r (if c then fault >>= fun _ => x else x) := Ends.unless hx hfault

/-! ### The reader -/

namespace Reader

variable {l : Lexeme} {rest : List Lexeme} {c : Char} {test : Char → Bool} {n : Nat}

/-- Behind a lexeme there is what follows it, which is no lone backslash. -/
theorem ends_advance (h : r.ahead = l :: rest) : Ends IsMalformed
    (fun r' => r'.ahead = rest ∧ rest.head? ≠ some .loneBackslash) r.advance := by
  rw [advance.eq_def, h]
  dsimp only [settle]
  split
  · exact ⟨_, _, rfl⟩
  · exact ⟨rfl, ‹_›⟩

theorem lands_advance : Lands id r r.advance := by
  cases h : r.ahead with
  | nil =>
    rw [advance.eq_def, h]
    exact lands_here rfl
  | cons l rest =>
    refine (ends_advance h).mono (fun _ => id) fun r' hr' => ?_
    rw [id, hr'.1, h]
    exact List.suffix_cons l rest

theorem ahead_of_next? (h : r.next? = some l) : r.ahead = l :: r.ahead.tail :=
  List.eq_cons_of_mem_head? h

/-- A character that is passed was ahead. -/
theorem ends_accept : Ends IsMalformed (fun (passed, r') => if passed = true then
    r.ahead = .plain c :: r'.ahead ∧ r'.ahead.head? ≠ some .loneBackslash else r' = r)
    (r.accept c) := by
  unfold accept
  split
  · rename_i hnext
    have hahead := ahead_of_next? hnext
    refine (ends_advance hahead).bind fun r' _ ⟨hrest, hlone⟩ => ?_
    rw [← hrest] at hahead hlone
    exact ⟨hahead, hlone⟩
  · exact rfl

theorem lands_accept : Lands Prod.snd r (r.accept c) := by
  refine ends_accept.mono (fun _ => id) fun (passed, r') h => ?_
  dsimp only at h ⊢
  split at h
  · rw [h.1]
    exact List.suffix_cons _ _
  · subst h
    exact List.suffix_rfl

/-- Characters that are taken were ahead and satisfy the test. -/
theorem ends_takeUpTo : Ends IsMalformed (fun (taken, r') =>
    r.ahead = taken.map .plain ++ r'.ahead ∧ ∀ c ∈ taken, test c = true) (r.takeUpTo test n) := by
  induction n generalizing r with
  | zero => exact ⟨rfl, by simp⟩
  | succ n ih =>
    unfold takeUpTo
    split
    · rename_i c hnext
      split
      · rename_i hc
        have hahead := ahead_of_next? hnext
        refine (ends_advance hahead).bind fun r₁ _ hr₁ => ih.bind fun (taken, r₂) _ h => ?_
        dsimp only at h ⊢
        refine ⟨?_, List.forall_mem_cons.2 ⟨hc, h.2⟩⟩
        rw [hahead, ← hr₁.1, h.1, List.map_cons, List.cons_append]
      · exact ⟨rfl, by simp⟩
    · exact ⟨rfl, by simp⟩

theorem lands_takeUpTo : Lands Prod.snd r (r.takeUpTo test n) := by
  refine ends_takeUpTo.mono (fun _ => id) fun (taken, r') h => ?_
  rw [h.1]
  exact List.suffix_append _ _

end Reader

open Reader

/-! ### Escapes -/

theorem lands_nameUntil {closing : Char} {what : String} :
    Lands Prod.snd r (nameUntil closing what r) := by
  have hstop : ∀ name (r' : Reader), Lands Prod.snd r' (nameUntil.stop closing what name r') := by
    intro name r'
    unfold nameUntil.stop
    split
    · exact lands_fault
    · exact lands_faultBack
  suffices ∀ n name (r' : Reader), Lands Prod.snd r' (nameUntil.go closing what n name r') from
    this _ _ _
  intro n
  induction n with
  | zero => exact hstop
  | succ n ih =>
    intro name r'
    unfold nameUntil.go
    split
    · exact hstop name r'
    · refine lands_advance.bind fun r'' => ?_
      split
      · split
        · exact lands_faultBack
        · exact lands_here rfl
      · exact ih _ r''

theorem lands_hexEscape {c : Char} {n : Nat} : Lands Prod.snd r (hexEscape c n r) := by
  refine lands_takeUpTo.bind fun ⟨digits, r'⟩ => ?_
  dsimp only
  split
  · exact lands_faultBack
  · split
    · exact lands_here rfl
    · exact lands_faultBack

theorem lands_nameEscape : Lands Prod.snd r (nameEscape named? r) := by
  refine lands_accept.bind fun ⟨opened, r'⟩ => ?_
  dsimp only
  split
  · exact lands_fault
  · refine lands_nameUntil.bind fun ⟨name, r''⟩ => ?_
    dsimp only
    split
    · exact lands_here rfl
    · exact lands_faultBack

theorem lands_octalEscape {digits : List Char} : Lands Prod.snd r (octalEscape digits r) := by
  unfold octalEscape
  dsimp only
  split
  · exact lands_here rfl
  · exact lands_faultBack

theorem lands_otherEscape {c : Char} : Lands Prod.snd r (otherEscape named? c r) := by
  unfold otherEscape
  split
  · exact lands_hexEscape
  · exact lands_hexEscape
  · exact lands_hexEscape
  · exact lands_nameEscape
  · split
    · exact lands_faultBack
    · exact lands_here rfl

theorem lands_setEscape {c : Char} : Lands Prod.snd r (setEscape named? c r) := by
  unfold setEscape
  split
  · exact lands_here rfl
  · exact lands_here rfl
  · split
    · exact lands_takeUpTo.bind fun _ => lands_octalEscape.bind fun _ => lands_here rfl
    · split
      · exact lands_faultBack
      · exact lands_otherEscape.bind fun _ => lands_here rfl

/-! ### Sets -/

theorem lands_setAtom {l : Lexeme} : Lands Prod.snd r (setAtom named? l r) := by
  cases l with
  | plain c => exact lands_here rfl
  | escaped c => exact lands_setEscape
  | loneBackslash => exact lands_fault

theorem lands_setRange {low high : Lexeme} {lowItem highItem : SetItem} :
    Lands (fun _ => r) r (setRange r low high lowItem highItem) := by
  unfold setRange
  split
  · split
    · exact lands_faultBack
    · exact lands_here rfl
  · exact lands_faultBack

theorem lands_setMembers {opened fuel : Nat} {members : List SetItem} :
    Lands Prod.snd r (setMembers named? opened fuel members r) := by
  induction fuel generalizing members r with
  | zero => exact lands_malformed
  | succ fuel ih =>
    unfold setMembers
    split
    · exact lands_malformed
    refine lands_advance.bind fun r₁ => ?_
    split
    · exact lands_here rfl
    refine lands_setAtom.bind fun ⟨item, r₂⟩ => lands_accept.bind fun ⟨dash, r₃⟩ => ?_
    dsimp only
    split
    · exact ih
    -- a dash behind the atom is the last member or makes a range
    split
    · exact lands_malformed
    refine lands_advance.bind fun r₄ => ?_
    split
    · exact lands_here rfl
    · exact lands_setAtom.bind fun _ => lands_setRange.bind fun _ => ih

theorem lands_readSet : Lands Prod.snd r (readSet named? r) :=
  lands_accept.bind fun _ => lands_setMembers.bind fun _ => lands_here rfl

namespace State

variable {st : State}

/-! ### References -/

theorem lands_checkLookbehind {index : Nat} :
    Lands (fun _ => r) r (st.checkLookbehind index r) := by
  unfold checkLookbehind
  split
  · exact lands_here rfl
  · split
    · exact lands_fault
    · split
      · exact lands_fault
      · exact lands_here rfl

theorem lands_readReference {first : Char} : Lands Prod.snd r (st.readReference first r) := by
  unfold readReference
  refine lands_takeUpTo.bind fun ⟨second, r₁⟩ => ?_
  dsimp only
  refine Lands.either_bind lands_takeUpTo (lands_here rfl) fun ⟨third, r₂⟩ hr₂ => ?_
  dsimp only
  split
  · exact Lands.further (lands_octalEscape.bind fun _ => lands_here rfl) hr₂
  · split
    · exact .unless (lands_checkLookbehind.bind fun _ => lands_here rfl) ⟨_, _, rfl⟩
    · exact lands_faultBack

theorem lands_readEscape {c : Char} : Lands Prod.snd r (st.readEscape c r) := by
  unfold readEscape
  split
  · exact lands_here rfl
  · exact lands_here rfl
  · exact lands_here rfl
  · split
    · exact lands_takeUpTo.bind fun _ => lands_octalEscape.bind fun _ => lands_here rfl
    · split
      · exact lands_readReference
      · exact lands_otherEscape.bind fun _ => lands_here rfl

/-! ### Repetition -/

theorem lands_repeatLast {began least : Nat} {most : Option Nat} :
    Lands reader r (st.repeatLast began least most r) := by
  unfold repeatLast
  dsimp only
  split
  · exact lands_malformed
  · exact lands_malformed
  · exact lands_malformed
  · refine lands_accept.bind fun ⟨lazy, r₁⟩ => ?_
    dsimp only
    exact Lands.either_bind (lands_here rfl) lands_accept fun _ h => (lands_here rfl).further h

/-! ### Flags -/

theorem ends_noFlag {l : Lexeme} {due : Fault} :
    Ends IsMalformed (fun _ => False) (noFlag r l due : Except Error α) := by
  unfold noFlag
  split
  · exact ⟨_, _, rfl⟩
  · exact ⟨_, _, rfl⟩

theorem lands_noFlag {l : Lexeme} {due : Fault} : Lands place r (noFlag r' l due) :=
  ends_noFlag.mono (fun _ => id) fun _ => False.elim

theorem lands_flagsOn {fuel : Nat} {flags : Flags} {l : Lexeme} :
    Lands (·.2.2) r (flagsOn fuel flags l r) := by
  induction fuel generalizing flags l r with
  | zero => exact lands_fault
  | succ fuel ih =>
    unfold flagsOn
    split
    · exact lands_fault
    split
    · exact lands_noFlag
    dsimp only
    split
    · exact lands_fault
    split
    · exact lands_fault
    -- the lexeme behind the flag ends the flags or is one more of them
    refine lands_advance.bind fun r₁ => ?_
    dsimp only [id]
    split
    · exact lands_here rfl
    split
    · exact lands_here rfl
    split
    · exact lands_here rfl
    split
    · exact ih
    split
    · exact lands_noFlag
    · exact ih

theorem lands_flagsOff {fuel : Nat} {flags : Flags} {l : Lexeme} :
    Lands Prod.snd r (flagsOff fuel flags l r) := by
  induction fuel generalizing flags l r with
  | zero => exact lands_fault
  | succ fuel ih =>
    unfold flagsOff
    split
    · exact lands_fault
    split
    · exact lands_noFlag
    split
    · exact lands_fault
    dsimp only
    split
    · exact lands_fault
    refine lands_advance.bind fun r₁ => ?_
    dsimp only [id]
    split
    · exact lands_here rfl
    split
    · exact lands_noFlag
    · exact ih

theorem lands_readFlags {l : Lexeme} : Lands Prod.snd r (readFlags l r) := by
  unfold readFlags
  dsimp only
  refine Lands.either_bind (lands_here rfl) lands_flagsOn fun ⟨added, ending, r₁⟩ hr₁ => ?_
  dsimp only
  refine Lands.further ?_ hr₁
  split
  · exact lands_here rfl
  refine .unless ?_ ⟨_, _, rfl⟩
  split
  · exact lands_here rfl
  split
  · exact lands_fault
  refine lands_advance.bind fun r₂ => .unless ?_ ends_noFlag
  refine lands_flagsOff.bind fun ⟨removed, r₃⟩ => .unless (.unless ?_ ⟨_, _, rfl⟩) ⟨_, _, rfl⟩
  exact lands_here rfl

/-! ### Groups -/

theorem lands_checkName {name : List Char} : Lands (fun _ => r) r (checkName name r) := by
  unfold checkName
  split
  · exact lands_here rfl
  · exact lands_faultBack

theorem lands_openNamed {opened : Nat} : Lands reader r (st.openNamed opened r) := by
  unfold openNamed
  split
  · exact lands_fault
  · refine lands_advance.bind fun r₁ => ?_
    dsimp only [id]
    split
    · refine lands_nameUntil.bind fun ⟨name, r₂⟩ => lands_checkName.bind fun _ => ?_
      dsimp only
      split
      · exact lands_faultBack
      · exact lands_here rfl
    · split
      · refine lands_nameUntil.bind fun ⟨name, r₂⟩ => lands_checkName.bind fun _ => ?_
        dsimp only
        split
        · exact lands_faultBack
        · exact .unless (lands_checkLookbehind.bind fun _ => lands_here rfl) ⟨_, _, rfl⟩
      · exact lands_faultBack

theorem lands_openConditional {opened : Nat} : Lands reader r (st.openConditional opened r) := by
  unfold openConditional
  refine lands_nameUntil.bind fun ⟨name, r₁⟩ => ?_
  dsimp only
  -- which group is asked for is found out without reading further
  have hgo : ∀ found : Except Error (Nat × List (Nat × Nat)), Lands (fun _ => r₁) r₁ found →
      Lands reader r₁ (found >>= fun choice => do
        st.checkLookbehind choice.1 r₁
        return { st.openGroup (.conditional choice.1 none) opened st.frame.verbose r₁ with
          asked := choice.2 }) :=
    fun _ hfound => hfound.bind fun _ => lands_checkLookbehind.bind fun _ => lands_here rfl
  split
  · split
    · exact hgo _ (lands_here rfl)
    · exact hgo _ lands_faultBack
  · split
    · exact hgo _ lands_faultBack
    · exact hgo _ lands_faultBack
    · exact hgo _ lands_faultBack
    · split
      · exact hgo _ lands_faultBack
      · split
        · exact hgo _ (lands_here rfl)
        · exact hgo _ (lands_here rfl)

theorem lands_skipComment {opened fuel : Nat} : Lands id r (skipComment opened fuel r) := by
  induction fuel generalizing r with
  | zero => exact lands_malformed
  | succ fuel ih =>
    unfold skipComment
    split
    · exact lands_malformed
    · refine lands_advance.bind fun r₁ => ?_
      dsimp only [id]
      split
      · exact lands_here rfl
      · exact ih

theorem lands_openLook {opened : Nat} {behind negated : Bool} :
    Lands reader r (pure (st.openLook opened behind negated r)) := by
  refine lands_here ?_
  unfold openLook
  dsimp only
  split
  · rfl
  · rfl

/-- Whatever follows a parenthesis, there is a fault or the reading goes on. -/
theorem lands_openParenthesis : Lands reader r (st.openParenthesis r) := by
  unfold openParenthesis
  dsimp only
  refine lands_accept.bind fun ⟨special, r₁⟩ => ?_
  dsimp only
  split
  · exact lands_here rfl
  split
  · exact lands_fault
  refine lands_advance.bind fun r₂ => ?_
  dsimp only [id]
  split
  · exact lands_openNamed
  · exact lands_here rfl
  · exact lands_skipComment.bind fun _ => lands_here rfl
  · exact lands_openLook
  · exact lands_openLook
  · split
    · exact lands_fault
    · refine lands_advance.bind fun r₃ => ?_
      dsimp only [id]
      split
      · exact lands_openLook
      · split
        · exact lands_openLook
        · exact lands_faultBack
  · exact lands_openConditional
  · exact lands_here rfl
  · split
    · exact lands_faultBack
    · refine lands_readFlags.bind fun ⟨group, r₃⟩ => ?_
      dsimp only
      split
      · split
        · exact lands_malformed
        · exact lands_here rfl
      · exact lands_here rfl

theorem lands_skipLine {fuel : Nat} : Lands id r (skipLine fuel r) := by
  induction fuel generalizing r with
  | zero => exact lands_here rfl
  | succ fuel ih =>
    unfold skipLine
    split
    · exact lands_here rfl
    · refine lands_advance.bind fun r₁ => ?_
      dsimp only [id]
      split
      · exact lands_here rfl
      · exact ih

end State

end FileSieve.Regex
