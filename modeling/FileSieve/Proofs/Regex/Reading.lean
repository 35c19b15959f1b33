import FileSieve.Regex.Parse

/-!
# Reading a pattern piece by piece

A pattern is read step by step, and the steps over one piece of it do not depend on what stands
around the piece, as long as the next piece neither repeats it nor breaks off in a backslash.

* `Advances`: some steps lead from one state to another, each of them over a lexeme at least.
* `parse_of_advances`: a pattern is read when the steps lead to its end.
* `Reads`: a piece is read as one item of the alternative that it stands in.
* `Reads.sequence`: pieces one after the other are read as their items one after the other.
* `reads_character`: a character that is meant verbatim is read as itself.
-/

namespace FileSieve.Regex

open Text

/-! ### Steps -/

/-- Some steps lead from the first state to the second, at most one for each lexeme passed. -/
def Advances (st st' : State) : Prop :=
  ∃ n, n + st'.reader.ahead.length ≤ st.reader.ahead.length ∧
    ∀ fuel, State.run (n + fuel) st = State.run fuel st'

variable {st st' st'' : State}

theorem Advances.refl (st : State) : Advances st st :=
  ⟨0, Nat.le_of_eq (Nat.zero_add _), fun fuel => by rw [Nat.zero_add]⟩

theorem Advances.trans (h : Advances st st') (h' : Advances st' st'') : Advances st st'' := by
  obtain ⟨n, hn, hrun⟩ := h
  obtain ⟨m, hm, hrun'⟩ := h'
  exact ⟨n + m, by omega, fun fuel => by rw [Nat.add_assoc, hrun, hrun']⟩

/-- There is room for a group in another one. -/
theorem State.hasRoom_of_flat (hflat : st.outer.length ≤ 2) : st.hasRoom = true := by
  refine st.library.canRead_of_flat _ _ ?_
  rw [List.length_cons, List.length_map]
  omega

theorem Advances.of_step (l : Lexeme) {rest : List Lexeme} (hahead : st.reader.ahead = l :: rest)
    (hflat : st.outer.length ≤ 2) (hclose : l = .plain ')' → st.outer ≠ [])
    (hstep : st.step l = .ok st') (hlength : st'.reader.ahead.length ≤ rest.length) :
    Advances st st' := by
  refine ⟨1, by rw [hahead, List.length_cons]; omega, fun fuel => ?_⟩
  have hopen : ¬ (l = .plain ')' ∧ st.outer = []) := fun h => hclose h.1 h.2
  rw [Nat.add_comm]
  simp only [State.run, State.hasRoom_of_flat hflat, Bool.not_true, Bool.false_eq_true, if_false,
    Reader.next?, hahead, List.head?_cons, hopen, hstep]
  rfl

theorem parse_of_advances {library : Library} {pattern : List Char} {r : Reader}
    (hstart : Reader.start pattern = .ok r) (h : Advances (.initial library r) st')
    (hend : st'.reader.ahead = []) (hflat : st'.outer.length ≤ 2) :
    parse pattern library = st'.finish := by
  obtain ⟨n, hn, hrun⟩ := h
  -- the fuel is one more than there are lexemes, so some of it is left when the end is reached
  have hinit : (State.initial library r).reader.ahead = r.ahead := rfl
  rw [hend, List.length_nil, Nat.add_zero, hinit] at hn
  obtain ⟨fuel, hfuel⟩ := Nat.exists_eq_add_of_le (Nat.le_succ_of_le hn)
  rw [parse_eq_run hstart, ← Nat.succ_eq_add_one, hfuel, hrun]
  cases fuel with
  | zero => rfl
  | succ fuel => simp [State.run, State.hasRoom_of_flat hflat, Reader.next?, hend]

/-! ### What may follow a piece -/

/-- Lexemes that may follow a piece: the first of them does not change what was read. -/
def Settled (rest : List Lexeme) : Prop :=
  rest.head? ≠ some .loneBackslash ∧ rest.head? ≠ some (.plain '?') ∧
    rest.head? ≠ some (.plain '+')

instance (rest : List Lexeme) : Decidable (Settled rest) :=
  inferInstanceAs (Decidable (_ ∧ _ ∧ _))

theorem Settled.append {piece rest : List Lexeme} (h : Settled piece) (hne : piece ≠ []) :
    Settled (piece ++ rest) := by
  cases piece with
  | nil => exact absurd rfl hne
  | cons l piece => exact h

theorem advance_cons {l : Lexeme} {rest : List Lexeme} {pos : Nat}
    (h : rest.head? ≠ some .loneBackslash) :
    Reader.advance ⟨l :: rest, pos⟩ = .ok ⟨rest, pos + l.width⟩ := by
  simp [Reader.advance, Reader.settle, Reader.next?, h]

theorem accept_of_ne {rest : List Lexeme} {pos : Nat} {c : Char}
    (h : rest.head? ≠ some (.plain c)) :
    Reader.accept ⟨rest, pos⟩ c = .ok (false, ⟨rest, pos⟩) := by
  simp only [Reader.accept, Reader.next?, h, if_false]
  rfl

theorem accept_self {rest : List Lexeme} {pos : Nat} {c : Char}
    (h : rest.head? ≠ some .loneBackslash) :
    Reader.accept ⟨.plain c :: rest, pos⟩ c = .ok (true, ⟨rest, pos + 1⟩) := by
  simp only [Reader.accept, Reader.next?, List.head?_cons, if_true, advance_cons h, Lexeme.width]
  rfl

/-! ### Pieces -/

/-- The state with other lexemes ahead. -/
def State.facing (st : State) (ahead : List Lexeme) (pos : Nat) : State :=
  { st with reader := ⟨ahead, pos⟩ }

/-- The state with more items in the current alternative. -/
def State.extended (st : State) (items : List Node) : State :=
  { st with frame := { st.frame with items := items.reverse ++ st.frame.items } }

@[simp] theorem State.facing_reader {ahead : List Lexeme} {pos : Nat} :
    (st.facing ahead pos).reader = ⟨ahead, pos⟩ := rfl

@[simp] theorem State.facing_library {ahead : List Lexeme} {pos : Nat} :
    (st.facing ahead pos).library = st.library := rfl

@[simp] theorem State.facing_frame {ahead : List Lexeme} {pos : Nat} :
    (st.facing ahead pos).frame = st.frame := rfl

@[simp] theorem State.facing_outer {ahead : List Lexeme} {pos : Nat} :
    (st.facing ahead pos).outer = st.outer := rfl

@[simp] theorem State.extended_verbose {items : List Node} :
    (st.extended items).frame.verbose = st.frame.verbose := rfl

@[simp] theorem State.extended_outer {items : List Node} :
    (st.extended items).outer = st.outer := rfl

/-- A piece of a pattern in which blanks count is read as one item. In the piece, groups lie inside
each other up to some depth, and there has to be room for them. -/
structure Reads (depth : Nat) (piece : List Lexeme) (item : Node) : Prop where
  nonempty : piece ≠ []
  settled : Settled piece
  advances : ∀ (st : State) (rest : List Lexeme) (pos : Nat), st.outer.length + depth ≤ 2 →
    st.frame.verbose = false → Settled rest → ∃ pos',
      Advances (st.facing (piece ++ rest) pos) ((st.extended [item]).facing rest pos')

theorem State.extended_append (st : State) (a b : List Node) :
    st.extended (a ++ b) = (st.extended a).extended b := by
  simp [State.extended]

/-- Pieces one after the other are read as their items one after the other. -/
theorem Reads.sequence {α : Type} {depth : Nat} {piece : α → List Lexeme} {item : α → Node}
    {xs : List α} (h : ∀ x ∈ xs, Reads depth (piece x) (item x)) (rest : List Lexeme)
    (hrest : Settled rest) (pos : Nat) (st : State) (hflat : st.outer.length + depth ≤ 2)
    (hverbose : st.frame.verbose = false) :
    Settled (xs.flatMap piece ++ rest) ∧
      ∃ pos', Advances (st.facing (xs.flatMap piece ++ rest) pos)
        ((st.extended (xs.map item)).facing rest pos') := by
  -- on the pieces: each of them is followed by a settled one, or by what follows them all
  induction xs generalizing st pos with
  | nil => exact ⟨hrest, pos, .refl _⟩
  | cons x xs ih =>
    have hx := h x List.mem_cons_self
    have hxs := fun y hy => h y (List.mem_cons_of_mem _ hy)
    have htail := (ih hxs pos st hflat hverbose).1
    -- the first piece, and then the others behind it
    obtain ⟨pos₁, hfirst⟩ := hx.advances st _ pos hflat hverbose htail
    obtain ⟨pos₂, hothers⟩ := (ih hxs pos₁ (st.extended [item x]) hflat hverbose).2
    rw [List.flatMap_cons, List.append_assoc, List.map_cons, ← List.singleton_append,
      State.extended_append]
    exact ⟨hx.settled.append hx.nonempty, pos₂, hfirst.trans hothers⟩

/-! ### Characters meant verbatim -/

/-- The lexeme of a character that is meant verbatim. -/
def verbatimLexeme (c : Char) : Lexeme :=
  if specialCharacters.contains c then .escaped c else .plain c

theorem lexemes_cons_of_ne {c : Char} {s : List Char} (h : c ≠ '\\') :
    lexemes (c :: s) = .plain c :: lexemes s := by
  rw [lexemes.eq_def]
  split <;> simp_all

theorem lexemes_verbatim_append (c : Char) (s : List Char) :
    lexemes (verbatim c ++ s) = verbatimLexeme c :: lexemes s := by
  by_cases h : c ∈ specialCharacters
  · simp only [verbatim, verbatimLexeme, List.contains_iff_mem.2 h, if_true, List.cons_append,
      List.nil_append, lexemes]
  · have hback : c ≠ '\\' := by rintro rfl; exact h (by decide)
    simp only [verbatim_of_plain h, List.singleton_append, lexemes_cons_of_ne hback]
    simp [verbatimLexeme, h]

/-- A character with a special meaning that is meant verbatim has a backslash before it. -/
theorem verbatimLexeme_ne {c d : Char} (h : d ∈ specialCharacters) :
    verbatimLexeme c ≠ .plain d := by
  unfold verbatimLexeme
  split
  · simp
  · rename_i hc
    rintro heq
    cases heq
    exact hc (List.contains_iff_mem.2 h)

theorem verbatimLexeme_ne_lone {c : Char} : verbatimLexeme c ≠ .loneBackslash := by
  unfold verbatimLexeme
  split <;> simp

theorem settled_verbatim (c : Char) (rest : List Lexeme) :
    Settled (verbatimLexeme c :: rest) := by
  simp only [Settled, List.head?_cons, ne_eq, Option.some.injEq]
  exact ⟨verbatimLexeme_ne_lone, verbatimLexeme_ne (by decide), verbatimLexeme_ne (by decide)⟩

/-- The escape of a special character stands for the character. -/
theorem readEscape_special {c : Char} (h : c ∈ specialCharacters) (r : Reader) :
    st.readEscape c r = .ok (.code c.toNat, r) := by
  simp only [specialCharacters, List.mem_cons, List.not_mem_nil, or_false] at h
  repeat' rcases h with rfl | h
  all_goals rfl

theorem setEscape_special {named? : List Char → Option Char} {c : Char}
    (h : c ∈ specialCharacters) (r : Reader) : setEscape named? c r = .ok (.code c.toNat, r) := by
  simp only [specialCharacters, List.mem_cons, List.not_mem_nil, or_false] at h
  repeat' rcases h with rfl | h
  all_goals rfl

/-! ### Single steps -/

variable {rest : List Lexeme} {pos depth : Nat}

theorem advances_plain {c : Char} (hflat : st.outer.length ≤ 2) (hbar : c ≠ '|') (hclose : c ≠ ')')
    (hrest : rest.head? ≠ some .loneBackslash)
    (hread : (st.facing (.plain c :: rest) pos).readPlain c ⟨rest, pos + 1⟩ = .ok st')
    (hlength : st'.reader.ahead.length ≤ rest.length) :
    Advances (st.facing (.plain c :: rest) pos) st' := by
  refine .of_step (.plain c) rfl hflat (fun h => absurd (Lexeme.plain.inj h) hclose) ?_ hlength
  unfold State.step
  split
  · rename_i h; exact absurd (Lexeme.plain.inj h) hbar
  · rename_i h _; exact absurd (Lexeme.plain.inj h) hclose
  · rename_i h _
    cases h
    rw [State.facing_reader, advance_cons hrest]
    exact hread
  · rename_i h; cases h
  · rename_i h; cases h

theorem readPlain_ordinary {c : Char} (h : c ∉ specialCharacters)
    (hverbose : st.frame.verbose = false) (r : Reader) :
    st.readPlain c r = .ok (st.push (.code c.toNat) r) := by
  simp only [specialCharacters, List.mem_cons, List.not_mem_nil, or_false, not_or] at h
  simp only [State.readPlain, hverbose, Bool.false_and, Bool.false_eq_true, if_false]
  split
  all_goals first | rfl | simp_all

/-- A character that is meant verbatim is read as itself. -/
theorem reads_character (c : Char) : Reads depth [verbatimLexeme c] (.code c.toNat) where
  nonempty := List.cons_ne_nil _ _
  settled := settled_verbatim c []
  advances := by
    intro st rest pos hdepth hverbose hrest
    have hflat : st.outer.length ≤ 2 := Nat.le_of_add_right_le hdepth
    by_cases h : c ∈ specialCharacters
      -- a special character is escaped
    · have hlexeme : verbatimLexeme c = .escaped c := by simp [verbatimLexeme, h]
      refine ⟨pos + 2, .of_step (.escaped c) (by rw [hlexeme]; rfl) hflat (by simp) ?_
        (Nat.le_refl _)⟩
      have hadvance : (st.facing ([verbatimLexeme c] ++ rest) pos).reader.advance =
          .ok ⟨rest, pos + 2⟩ := by
        rw [hlexeme]; exact advance_cons hrest.1
      simp only [State.step, hadvance]
      change (State.readEscape _ c ⟨rest, pos + 2⟩).bind _ = _
      rw [readEscape_special h]
      rfl
      -- any other one stands for itself
    · have hlexeme : verbatimLexeme c = .plain c := by simp [verbatimLexeme, h]
      rw [hlexeme]
      refine ⟨pos + 1, advances_plain hflat ?_ ?_ hrest.1
        (readPlain_ordinary h hverbose ⟨rest, pos + 1⟩) (Nat.le_refl _)⟩
      · rintro rfl; exact h (by decide)
      · rintro rfl; exact h (by decide)

/-- The dot is read as any character. -/
theorem reads_dot : Reads depth [.plain '.'] .any where
  nonempty := List.cons_ne_nil _ _
  settled := by decide
  advances := by
    intro st rest pos hdepth hverbose hrest
    refine ⟨pos + 1, advances_plain (Nat.le_of_add_right_le hdepth) (by decide) (by decide)
      hrest.1 ?_ (Nat.le_refl _)⟩
    simp [State.readPlain, hverbose]
    rfl

/-! ### Repetition -/

/-- An item that may be repeated. -/
def Repeatable (item : Node) : Prop :=
  (∀ place, item ≠ .anchor place) ∧ ∀ greed least most body, item ≠ .repeat greed least most body

theorem repeatLast_greedy {item : Node} (hitem : Repeatable item) (hrest : Settled rest)
    (began least pos' : Nat) (most : Option Nat) (ahead : List Lexeme) :
    ((st.extended [item]).facing ahead pos').repeatLast began least most ⟨rest, pos⟩ =
      .ok ((st.extended [.repeat .greedy least most item]).facing rest pos) := by
  have hitems : ((st.extended [item]).facing ahead pos').frame.items = item :: st.frame.items := rfl
  -- there is an item to repeat, and neither a `?` nor a `+` behind the sign makes it another one
  simp only [State.repeatLast, hitems]
  split
  · rename_i h; cases h
  · rename_i place _ h; cases h; exact absurd rfl (hitem.1 place)
  · rename_i greed least most body _ h; cases h; exact absurd rfl (hitem.2 greed least most body)
  · rename_i item' items _ _ h
    cases h
    simp only [accept_of_ne hrest.2.1, bind, Except.bind, Bool.false_eq_true, if_false,
      accept_of_ne hrest.2.2]
    rfl

/-- A star or a question mark behind an item repeats it. -/
theorem advances_repeat {item : Node} {sign : Char} {most : Option Nat}
    (hsign : (sign = '*' ∧ most = none) ∨ (sign = '?' ∧ most = some 1)) (hitem : Repeatable item)
    (hflat : st.outer.length ≤ 2) (hverbose : st.frame.verbose = false) (hrest : Settled rest) :
    Advances ((st.extended [item]).facing (.plain sign :: rest) pos)
      ((st.extended [.repeat .greedy 0 most item]).facing rest (pos + 1)) := by
  rcases hsign with ⟨rfl, rfl⟩ | ⟨rfl, rfl⟩
  all_goals
    refine advances_plain hflat (by decide) (by decide) hrest.1 ?_ (Nat.le_refl _)
    simp only [State.readPlain, State.facing_frame, State.extended_verbose, hverbose,
      Bool.false_and, Bool.false_eq_true, if_false]
    exact repeatLast_greedy hitem hrest _ _ _ _ _

/-- A star after a piece repeats its item. -/
theorem Reads.star {piece : List Lexeme} {item : Node} (h : Reads depth piece item)
    (hitem : Repeatable item) :
    Reads depth (piece ++ [.plain '*']) (.repeat .greedy 0 none item) where
  nonempty := by simp
  settled := h.settled.append h.nonempty
  advances := by
    intro st rest pos hdepth hverbose hrest
    obtain ⟨pos₁, hpiece⟩ :=
      h.advances st (.plain '*' :: rest) pos hdepth hverbose (by simp [Settled])
    rw [List.append_assoc, List.singleton_append]
    exact ⟨pos₁ + 1, hpiece.trans (advances_repeat (.inl ⟨rfl, rfl⟩) hitem
      (Nat.le_of_add_right_le hdepth) hverbose hrest)⟩

/-! ### Groups -/

/-- The state inside a group without number that was opened at a position. -/
def State.inside (st : State) (added removed : Flags) (opened : Nat) : State :=
  { st with
    frame := .fresh (.scoped added removed) opened false
    outer := st.frame :: st.outer }

theorem advances_close (st : State) (items : List Node) (added removed : Flags)
    (opened pos : Nat) (hflat : st.outer.length ≤ 1)
    (hrest : rest.head? ≠ some .loneBackslash) :
    Advances (((st.inside added removed opened).extended items).facing (.plain ')' :: rest) pos)
      ((st.extended [.scoped added removed (.sequence items)]).facing rest (pos + 1)) := by
  refine .of_step (.plain ')') rfl (Nat.succ_le_succ hflat) (fun _ => List.cons_ne_nil _ _) ?_
    (Nat.le_refl _)
  have houter : (st.inside added removed opened).outer = st.frame :: st.outer := rfl
  simp only [State.step, State.facing_outer, State.extended_outer, houter, State.facing_reader,
    advance_cons hrest]
  simp [bind, Except.bind, pure, Except.pure, State.closeGroup, State.facing, State.extended,
    State.inside, State.push, Frame.fresh, Frame.push, Frame.body, Frame.current,
    Node.alternatives, Lexeme.width]

theorem advances_openPlain (hflat : st.outer.length ≤ 2) (hrest : rest.head? ≠ some .loneBackslash)
    (hverbose : st.frame.verbose = false) :
    Advances (st.facing (.plain '(' :: .plain '?' :: .plain ':' :: rest) pos)
      ((st.inside [] [] pos).facing rest (pos + 3)) := by
  refine advances_plain hflat (by decide) (by decide) (by simp) ?_ (by simp; omega)
  simp only [State.readPlain, State.facing_frame, hverbose, Bool.false_and, Bool.false_eq_true,
    if_false]
  have hquestion : Reader.accept ⟨.plain '?' :: .plain ':' :: rest, pos + 1⟩ '?' =
      .ok (true, ⟨.plain ':' :: rest, pos + 2⟩) := accept_self (by simp)
  have hcolon : Reader.advance ⟨.plain ':' :: rest, pos + 2⟩ = .ok ⟨rest, pos + 3⟩ :=
    advance_cons hrest
  simp only [State.openParenthesis, hquestion, hcolon, bind, Except.bind, Reader.next?,
    List.head?_cons]
  simp [pure, Except.pure, State.openGroup, hverbose, State.facing, State.inside]

theorem readFlags_dotAll (hrest : rest.head? ≠ some .loneBackslash) :
    State.readFlags (.plain 's') ⟨.plain ':' :: rest, pos⟩ =
      .ok (.scoped [.dotAll] [], ⟨rest, pos + 1⟩) := by
  simp [State.readFlags, State.flagsOn, State.flagOf?, Reader.next?, advance_cons hrest,
    Flag.isCharset, bind, Except.bind, pure, Except.pure, Lexeme.width]

/-- A group in which the dot takes a newline too is opened. -/
theorem advances_openDotAll (st : State) (pos : Nat) (hflat : st.outer.length ≤ 2)
    (hrest : rest.head? ≠ some .loneBackslash) (hverbose : st.frame.verbose = false) :
    Advances (st.facing (.plain '(' :: .plain '?' :: .plain 's' :: .plain ':' :: rest) pos)
      ((st.inside [.dotAll] [] pos).facing rest (pos + 4)) := by
  refine advances_plain hflat (by decide) (by decide) (by simp) ?_ (by simp; omega)
  simp only [State.readPlain, State.facing_frame, hverbose, Bool.false_and, Bool.false_eq_true,
    if_false]
  have hquestion : Reader.accept ⟨.plain '?' :: .plain 's' :: .plain ':' :: rest, pos + 1⟩ '?' =
      .ok (true, ⟨.plain 's' :: .plain ':' :: rest, pos + 2⟩) := accept_self (by simp)
  have hletter : Reader.advance ⟨.plain 's' :: .plain ':' :: rest, pos + 2⟩ =
      .ok ⟨.plain ':' :: rest, pos + 3⟩ := advance_cons (by simp)
  simp only [State.openParenthesis, hquestion, hletter, bind, Except.bind, Reader.next?,
    List.head?_cons]
  simp [readFlags_dotAll hrest, State.beginsFlags, State.flagOf?, pure, Except.pure,
    State.openGroup, hverbose, State.facing, State.inside]

theorem advances_textEnd (st : State) (pos : Nat) (hflat : st.outer.length ≤ 2)
    (hrest : rest.head? ≠ some .loneBackslash) :
    Advances (st.facing (.escaped 'Z' :: rest) pos)
      ((st.extended [.anchor .textEnd]).facing rest (pos + 2)) := by
  refine .of_step (.escaped 'Z') rfl hflat (by simp) ?_ (Nat.le_refl _)
  simp only [State.step, State.facing_reader, advance_cons hrest]
  rfl

end FileSieve.Regex
