import FileSieve.Proofs.Glob.Meaning

/-!
# Globs that take their own text only

A glob without special characters takes its own text and nothing else. Any other glob takes
something else as well, or it does not take its own text: a wildcard takes different pieces in the
same place, and a class, which takes one character only, is written in more than one.

* `Token.IsWild.takes`: a wildcard takes different pieces.
* `fits_only_written_iff`: the tokens that fit nothing but how they are written.
* `fits_only_iff`: the same of the texts that are read as tokens.
-/

namespace FileSieve.Glob

variable {tokens before after : List Token} {token : Token} {s t : List Char}

/-! ### Pieces of a text -/

theorem fits_cons : Fits (token :: tokens) s ↔
    ∃ piece rest, s = piece ++ rest ∧ token.Takes piece ∧ Fits tokens rest := by
  constructor
  · rintro ⟨_, rfl, _ | ⟨hpiece, h⟩⟩
    exact ⟨_, _, rfl, hpiece, _, rfl, h⟩
  · rintro ⟨piece, rest, rfl, hpiece, pieces, rfl, h⟩
    exact ⟨piece :: pieces, rfl, .cons hpiece h⟩

theorem fits_append : Fits (before ++ after) s ↔
    ∃ front back, s = front ++ back ∧ Fits before front ∧ Fits after back := by
  simp only [← mem_language_iff, List.map_append, List.prod_append, Language.mem_mul]
  exact ⟨fun ⟨front, hfront, back, hback, hs⟩ => ⟨front, back, hs.symm, hfront, hback⟩,
    fun ⟨front, back, hs, hfront, hback⟩ => ⟨front, hfront, back, hback, hs.symm⟩⟩

/-- Characters that stand for themselves fit their own text. -/
theorem fits_map_char : Fits (s.map .char) t ↔ t = s := by
  induction s generalizing t with
  | nil =>
    constructor
    · rintro ⟨_, rfl, _ | _⟩
      rfl
    · rintro rfl
      exact ⟨[], rfl, .nil⟩
  | cons c s ih =>
    rw [List.map_cons, fits_cons]
    constructor
    · rintro ⟨_, rest, rfl, rfl, hrest⟩
      rw [ih.1 hrest]
      rfl
    · rintro rfl
      exact ⟨[c], s, rfl, rfl, ih.2 rfl⟩

/-! ### Wildcards -/

/-- The token is one of those that take different pieces. -/
def Token.IsWild : Token → Prop
  | .any | .run | .directories | .rest => True
  | .char _ | .oneOf _ _ => False

/-- **A wildcard takes different pieces.** -/
theorem Token.IsWild.takes (h : token.IsWild) :
    ∃ piece other, piece ≠ other ∧ token.Takes piece ∧ token.Takes other := by
  cases token with
  | char c => exact h.elim
  | oneOf negated items => exact h.elim
  | any => exact ⟨['a'], ['b'], by decide, ⟨'a', rfl⟩, ⟨'b', rfl⟩⟩
  | run | rest => exact ⟨[], ['a'], by decide, trivial, trivial⟩
  | directories => exact ⟨[], ['/'], by decide, .inl rfl, .inr ⟨[], rfl⟩⟩

/-- There is no wildcard among tokens that fit one text only. -/
theorem not_isWild_of_fits_only (h : ∀ t, Fits tokens t ↔ t = s) (hmem : token ∈ tokens) :
    ¬ token.IsWild := by
  intro hwild
  obtain ⟨before, after, rfl⟩ := List.append_of_mem hmem
  -- the piece of the wildcard may be exchanged for another one
  obtain ⟨front, back, -, hfront, hback⟩ := fits_append.1 ((h s).2 rfl)
  obtain ⟨-, rest, -, -, hrest⟩ := fits_cons.1 hback
  have hfits {piece : List Char} (hpiece : token.Takes piece) : front ++ (piece ++ rest) = s :=
    (h _).1 (fits_append.2 ⟨front, _, rfl, hfront, fits_cons.2 ⟨piece, rest, rfl, hpiece, hrest⟩⟩)
  obtain ⟨piece, other, hne, hpiece, hother⟩ := hwild.takes
  have heq := (hfits hpiece).trans (hfits hother).symm
  exact hne (List.append_cancel_right (List.append_cancel_left heq))

/-! ### Classes -/

/-- A token that is no wildcard takes one character. -/
theorem Token.Takes.length_eq (h : token.Takes s) (hwild : ¬ token.IsWild) : s.length = 1 := by
  cases token with
  | char c => exact congrArg List.length h
  | oneOf negated items =>
    obtain ⟨c, rfl, -⟩ := h
    rfl
  | any | run | directories | rest => exact absurd trivial hwild

theorem Fits.length_eq (h : Fits tokens s) (hwild : ∀ token ∈ tokens, ¬ token.IsWild) :
    s.length = tokens.length := by
  induction tokens generalizing s with
  | nil =>
    obtain ⟨_, rfl, _ | _⟩ := h
    rfl
  | cons token tokens ih =>
    obtain ⟨piece, rest, rfl, hpiece, hrest⟩ := fits_cons.1 h
    obtain ⟨htoken, htokens⟩ := List.forall_mem_cons.1 hwild
    rw [List.length_append, hpiece.length_eq htoken, ih hrest htokens, List.length_cons,
      Nat.add_comm]

theorem Token.length_written_pos (token : Token) : 0 < token.written.length := by
  cases token with
  | oneOf negated items =>
    simp only [Token.written, List.length_append, List.length_singleton]
    omega
  | char | any | run | directories | rest => exact Nat.succ_pos _

/-- A token that is written in one character is that character, or it is a wildcard. -/
theorem Token.eq_char_of_length_written (h : token.written.length ≤ 1) (hwild : ¬ token.IsWild) :
    ∃ c, token = .char c := by
  cases token with
  | char c => exact ⟨c, rfl⟩
  | oneOf negated items =>
    have hfront : 0 < (classFront negated).length := by cases negated <;> decide
    simp only [Token.written, List.length_append, List.length_singleton] at h
    omega
  | any | run | directories | rest => exact absurd trivial hwild

theorem length_le_length_written (tokens : List Token) :
    tokens.length ≤ (written tokens).length := by
  induction tokens with
  | nil => exact Nat.zero_le _
  | cons token tokens ih =>
    have hpos := token.length_written_pos
    rw [written_cons, List.length_append, List.length_cons]
    omega

/-- Tokens that are written in one character each are characters, if there is no wildcard. -/
theorem eq_map_char_of_length_written (h : (written tokens).length ≤ tokens.length)
    (hwild : ∀ token ∈ tokens, ¬ token.IsWild) : tokens = (written tokens).map .char := by
  induction tokens with
  | nil => rfl
  | cons token tokens ih =>
    obtain ⟨htoken, htokens⟩ := List.forall_mem_cons.1 hwild
    have hpos := token.length_written_pos
    have hrest := length_le_length_written tokens
    rw [written_cons, List.length_append, List.length_cons] at h
    obtain ⟨c, rfl⟩ := Token.eq_char_of_length_written (by omega) htoken
    exact congrArg (Token.char c :: ·) (ih (by omega) htokens)

/-- **The tokens that fit nothing but how they are written are characters.** -/
theorem fits_only_written_iff :
    (∀ t, Fits tokens t ↔ t = written tokens) ↔ tokens = (written tokens).map .char := by
  constructor
  · intro h
    have hwild (token : Token) (hmem : token ∈ tokens) := not_isWild_of_fits_only h hmem
    exact eq_map_char_of_length_written (((h _).2 rfl).length_eq hwild).le hwild
  · intro h t
    conv_lhs => rw [h]
    exact fits_map_char

/-- A glob takes nothing but its own text when no character of it is special. -/
theorem fits_only_iff (h : parse s = .ok tokens) :
    (∀ t, Fits tokens t ↔ t = s) ↔ looksLike s = false := by
  obtain rfl := written_of_parse h
  rw [fits_only_written_iff]
  constructor
  · intro hchars
    rw [looksLike, List.any_eq_false]
    intro c hc
    have hmem : Token.char c ∈ tokens := hchars ▸ List.mem_map_of_mem hc
    exact Bool.eq_false_iff.1 (proper_of_parse h _ hmem)
  · intro hplain
    exact Except.ok.inj (h.symm.trans (parse_plain hplain))

end FileSieve.Glob
