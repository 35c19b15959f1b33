import FileSieve.Glob.Basic
import FileSieve.Proofs.Outcome
import Mathlib.Computability.Language

/-!
# The meaning of a glob

What a glob says about a text, told without the search pattern that it is matched by: the text is
cut into one piece for each token, and each token takes its piece.

* `written_of_parse`: the tokens that are read spell the glob.
* `proper_of_parse`: no special character is read as itself, and the classes that are read have
  members and ranges in order.
* `mem_language_iff`: the language of a row of tokens holds the texts that can be cut.
-/

namespace FileSieve.Glob

/-! ### Pieces -/

/-- The character is the member, or it lies in the range of code points. -/
def ClassItem.Covers (c : Char) : ClassItem → Prop
  | .single d => c = d
  | .range low high => low.toNat ≤ c.toNat ∧ c.toNat ≤ high.toNat

/-- The token takes a piece of a text. -/
def Token.Takes : Token → List Char → Prop
  | .char c, s => s = [c]
  | .any, s => ∃ c, s = [c]
  | .run, _ => True
  | .directories, s => s = [] ∨ ∃ t, s = t ++ ['/']
  | .rest, _ => True
  | .oneOf negated items, s => ∃ c, s = [c] ∧ (negated = false ↔ ∃ item ∈ items, item.Covers c)

/-- The text can be cut into consecutive pieces, one for each token in order. -/
def Fits (tokens : List Token) (s : List Char) : Prop :=
  ∃ pieces : List (List Char), pieces.flatten = s ∧ List.Forall₂ Token.Takes tokens pieces

/-- The pieces that a token takes. -/
def Token.language (token : Token) : Language Char := {s | token.Takes s}

theorem Token.mem_language {token : Token} {s : List Char} : s ∈ token.language ↔ token.Takes s :=
  Iff.rfl

theorem mem_language_iff {tokens : List Token} {s : List Char} :
    s ∈ (tokens.map Token.language).prod ↔ Fits tokens s := by
  induction tokens generalizing s with
  | nil =>
    rw [List.map_nil, List.prod_nil, Language.mem_one]
    constructor
    · rintro rfl; exact ⟨[], rfl, .nil⟩
    · rintro ⟨pieces, rfl, h⟩; cases h; rfl
  | cons token tokens ih =>
    rw [List.map_cons, List.prod_cons, Language.mem_mul]
    constructor
    · rintro ⟨piece, hpiece, rest, hrest, rfl⟩
      obtain ⟨pieces, rfl, h⟩ := ih.1 hrest
      exact ⟨piece :: pieces, rfl, .cons hpiece h⟩
    · rintro ⟨_, rfl, _ | ⟨hpiece, h⟩⟩
      exact ⟨_, hpiece, _, ih.2 ⟨_, rfl, h⟩, rfl⟩

/-! ### Tokens as they are written -/

/-- How a member of a class is written. -/
def ClassItem.written : ClassItem → List Char
  | .single c => [c]
  | .range low high => [low, '-', high]

/-- How the front of a class is written. -/
def classFront (negated : Bool) : List Char := if negated then ['[', '!'] else ['[']

/-- How a token is written. -/
def Token.written : Token → List Char
  | .char c => [c]
  | .any => ['?']
  | .run => ['*']
  | .directories => ['*', '*', '/']
  | .rest => ['*', '*']
  | .oneOf negated items => classFront negated ++ items.flatMap ClassItem.written ++ [']']

/-- How a row of tokens is written. -/
def written (tokens : List Token) : List Char := tokens.flatMap Token.written

/-- What the reader has passed of the token it is in. -/
def Place.passed : Place → List Char
  | .outside _ => []
  | .inside negated items => classFront negated ++ items.flatMap ClassItem.written

theorem written_cons {token : Token} {tokens : List Token} :
    written (token :: tokens) = token.written ++ written tokens := rfl

theorem closes_iff {items : List ClassItem} {c : Char} :
    closes items c = true ↔ c = ']' ∧ items ≠ [] := by
  simp [closes]

theorem written_of_parseFrom {place : Place} {s : List Char} {tokens : List Token}
    (h : parseFrom place s = .ok tokens) : written tokens = place.passed ++ s := by
  fun_induction parseFrom place s generalizing tokens with
  | case1 => cases h; rfl
  | case2 => cases h
  | case3 s ih =>
    obtain ⟨rest, hrest, rfl⟩ := map_eq_ok_iff.1 h
    rw [written_cons, ih hrest]; rfl
  | case4 => cases h
  | case5 => cases h; rfl
  | case6 => cases h
  | case7 => cases h
  | case8 _ s _ _ _ _ ih =>
    obtain ⟨rest, hrest, rfl⟩ := map_eq_ok_iff.1 h
    rw [written_cons, ih hrest]; rfl
  | case9 _ s ih =>
    obtain ⟨rest, hrest, rfl⟩ := map_eq_ok_iff.1 h
    rw [written_cons, ih hrest]; rfl
  | case10 _ s ih => rw [ih h]; rfl
  | case11 _ s _ ih => rw [ih h]; rfl
  | case12 _ c s _ _ _ _ _ _ _ _ ih =>
    obtain ⟨rest, hrest, rfl⟩ := map_eq_ok_iff.1 h
    rw [written_cons, ih hrest]; rfl
  | case13 => cases h
  | case14 negated items c hc =>
    obtain ⟨rfl, -⟩ := closes_iff.1 hc
    cases h
    simp [written, Token.written, Place.passed]
  | case15 => cases h
  | case16 negated items c d hc ih =>
    obtain ⟨rfl, -⟩ := closes_iff.1 hc
    obtain ⟨rest, hrest, rfl⟩ := map_eq_ok_iff.1 h
    simp [written_cons, ih hrest, Token.written, Place.passed]
  | case17 negated items c d _ ih =>
    simp [ih h, Place.passed, ClassItem.written]
  | case18 negated items c d e s hc ih =>
    obtain ⟨rfl, -⟩ := closes_iff.1 hc
    obtain ⟨rest, hrest, rfl⟩ := map_eq_ok_iff.1 h
    simp [written_cons, ih hrest, Token.written, Place.passed]
  | case19 negated items c d e s _ hd _ ih =>
    obtain ⟨rfl, -⟩ := hd
    simp [ih h, Place.passed, ClassItem.written]
  | case20 => cases h
  | case21 negated items c d e s _ _ ih =>
    simp [ih h, Place.passed, ClassItem.written]

/-- The tokens that are read spell the glob. -/
theorem written_of_parse {s : List Char} {tokens : List Token} (h : parse s = .ok tokens) :
    written tokens = s :=
  written_of_parseFrom h

/-! ### Proper tokens -/

/-- A range has its ends in order. -/
def ClassItem.InOrder : ClassItem → Prop
  | .single _ => True
  | .range low high => low ≤ high

/-- No special character stands for itself, and a class has members and ranges in order. -/
def Token.Proper : Token → Prop
  | .char c => isSpecial c = false
  | .oneOf _ items => items ≠ [] ∧ ∀ item ∈ items, item.InOrder
  | _ => True

/-- The members that were read so far are in order. -/
def Place.Proper : Place → Prop
  | .outside _ => True
  | .inside _ items => ∀ item ∈ items, item.InOrder

theorem Place.Proper.append {negated : Bool} {items : List ClassItem} {item : ClassItem}
    (h : Place.Proper (.inside negated items)) (hitem : item.InOrder) :
    Place.Proper (.inside negated (items ++ [item])) := by
  intro other hmem
  rcases List.mem_append.1 hmem with hmem | hmem
  · exact h other hmem
  · rw [List.mem_singleton.1 hmem]; exact hitem

theorem proper_of_parseFrom {place : Place} {s : List Char} {tokens : List Token}
    (hplace : place.Proper) (h : parseFrom place s = .ok tokens) :
    ∀ token ∈ tokens, token.Proper := by
  fun_induction parseFrom place s generalizing tokens with
  | case1 => cases h; simp
  | case2 => cases h
  | case3 s ih =>
    obtain ⟨rest, hrest, rfl⟩ := map_eq_ok_iff.1 h
    exact List.forall_mem_cons.2 ⟨trivial, ih trivial hrest⟩
  | case4 => cases h
  | case5 => cases h; simp [Token.Proper]
  | case6 => cases h
  | case7 => cases h
  | case8 _ s _ _ _ _ ih =>
    obtain ⟨rest, hrest, rfl⟩ := map_eq_ok_iff.1 h
    exact List.forall_mem_cons.2 ⟨trivial, ih trivial hrest⟩
  | case9 _ s ih =>
    obtain ⟨rest, hrest, rfl⟩ := map_eq_ok_iff.1 h
    exact List.forall_mem_cons.2 ⟨trivial, ih trivial hrest⟩
  | case10 _ s ih => exact ih (by simp [Place.Proper]) h
  | case11 _ s _ ih => exact ih (by simp [Place.Proper]) h
  | case12 _ c s _ _ _ _ hstar hany _ hclass ih =>
    obtain ⟨rest, hrest, rfl⟩ := map_eq_ok_iff.1 h
    -- the earlier cases took the special characters
    have hc : isSpecial c = false := by
      simpa [isSpecial, specials] using ⟨hstar, hany, hclass⟩
    exact List.forall_mem_cons.2 ⟨hc, ih trivial hrest⟩
  | case13 => cases h
  | case14 negated items c hc =>
    cases h
    exact List.forall_mem_singleton.2 ⟨(closes_iff.1 hc).2, hplace⟩
  | case15 => cases h
  | case16 negated items c d hc ih =>
    obtain ⟨rest, hrest, rfl⟩ := map_eq_ok_iff.1 h
    exact List.forall_mem_cons.2 ⟨⟨(closes_iff.1 hc).2, hplace⟩, ih trivial hrest⟩
  | case17 negated items c d _ ih => exact ih (hplace.append trivial) h
  | case18 negated items c d e s hc ih =>
    obtain ⟨rest, hrest, rfl⟩ := map_eq_ok_iff.1 h
    exact List.forall_mem_cons.2 ⟨⟨(closes_iff.1 hc).2, hplace⟩, ih trivial hrest⟩
  | case19 negated items c d e s _ _ hle ih => exact ih (hplace.append hle) h
  | case20 => cases h
  | case21 negated items c d e s _ _ ih => exact ih (hplace.append trivial) h

/-- The tokens that are read are proper. -/
theorem proper_of_parse {s : List Char} {tokens : List Token} (h : parse s = .ok tokens) :
    ∀ token ∈ tokens, token.Proper :=
  proper_of_parseFrom (show (Place.outside true).Proper from trivial) h

end FileSieve.Glob
