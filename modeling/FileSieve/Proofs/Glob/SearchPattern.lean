import FileSieve.Glob
import FileSieve.Proofs.Glob.Meaning
import FileSieve.Proofs.Regex.Reading

/-!
# The search pattern of a glob

The pattern text of a glob is read back as the tree that it was meant to be: one item for each
token, in a group in which the dot takes every character, before the end of the text.

* `reads_token`: the pattern text of a token is read as one item.
* `setMembers_classLexemes`: the members of a class are read one after the other.
* `compile_patternText`: the pattern text of proper tokens is read as the tree of the tokens, so a
  glob that is read has a search pattern that is accepted.
-/

namespace FileSieve.Glob

open Text Regex

/-! ### Trees -/

/-- The member of a character set that stands for a member of a class. -/
def ClassItem.setItem : ClassItem → SetItem
  | .single c => .code c.toNat
  | .range low high => .range low.toNat high.toNat

/-- The tree that takes any run of characters. -/
def runTree : Node := .repeat .greedy 0 none .any

/-- The tree that stands for a token. -/
def Token.tree : Token → Node
  | .char c => .code c.toNat
  | .any => .any
  | .run | .rest => runTree
  | .directories =>
    .repeat .greedy 0 (some 1) (.scoped [] [] (.sequence [runTree, .code '/'.toNat]))
  | .oneOf negated items => .set negated (items.map ClassItem.setItem)

/-- The search pattern that stands for a row of tokens. -/
def searchTree (tokens : List Token) : Regex :=
  ⟨[], [], .sequence
    [.scoped [.dotAll] [] (.sequence (tokens.map Token.tree)), .anchor .textEnd]⟩

/-! ### Lexemes -/

/-- The lexemes of a class member. -/
def ClassItem.lexemes : ClassItem → List Lexeme
  | .single c => [verbatimLexeme c]
  | .range low high => [verbatimLexeme low, .plain '-', verbatimLexeme high]

/-- The lexemes of a token. -/
def Token.lexemes : Token → List Lexeme
  | .char c => [verbatimLexeme c]
  | .any => [.plain '.']
  | .run | .rest => [.plain '.', .plain '*']
  | .directories =>
    [.plain '(', .plain '?', .plain ':', .plain '.', .plain '*', .plain '/', .plain ')', .plain '?']
  | .oneOf negated items =>
    .plain '[' :: (if negated then [.plain '^'] else []) ++ items.flatMap ClassItem.lexemes ++
      [.plain ']']

theorem lexemes_item_append (item : ClassItem) (s : List Char) :
    Regex.lexemes (item.patternText ++ s) = item.lexemes ++ Regex.lexemes s := by
  cases item with
  | single c =>
    rw [ClassItem.patternText, lexemes_verbatim_append, ClassItem.lexemes, List.singleton_append]
  | range low high =>
    simp only [ClassItem.patternText, List.append_assoc, List.cons_append,
      lexemes_verbatim_append, ClassItem.lexemes, List.nil_append]
    rw [lexemes_cons_of_ne (by decide), lexemes_verbatim_append]

theorem lexemes_items_append (items : List ClassItem) (s : List Char) :
    Regex.lexemes (items.flatMap ClassItem.patternText ++ s) =
      items.flatMap ClassItem.lexemes ++ Regex.lexemes s := by
  induction items with
  | nil => rfl
  | cons item items ih =>
    rw [List.flatMap_cons, List.append_assoc, lexemes_item_append, ih, List.flatMap_cons,
      List.append_assoc]

theorem lexemes_token_append (token : Token) (s : List Char) :
    Regex.lexemes (token.patternText ++ s) = token.lexemes ++ Regex.lexemes s := by
  cases token with
  | char c =>
    change Regex.lexemes (verbatim c ++ s) = verbatimLexeme c :: Regex.lexemes s
    exact lexemes_verbatim_append c s
  | any =>
    change Regex.lexemes ('.' :: s) = .plain '.' :: Regex.lexemes s
    exact lexemes_cons_of_ne (by decide)
  | run | rest =>
    change Regex.lexemes ('.' :: '*' :: s) = .plain '.' :: .plain '*' :: Regex.lexemes s
    rw [lexemes_cons_of_ne (by decide), lexemes_cons_of_ne (by decide)]
  | directories =>
    have htext : Token.directories.patternText = ['(', '?', ':', '.', '*', '/', ')', '?'] := rfl
    simp [htext, Token.lexemes, lexemes_cons_of_ne]
  | oneOf negated items =>
    have htext : (Token.oneOf negated items).patternText ++ s =
        (if negated then ['[', '^'] else ['[']) ++
          (items.flatMap ClassItem.patternText ++ ']' :: s) := by
      change (_ ++ _ ++ [']']) ++ s = _
      simp
    rw [htext]
    cases negated <;>
      simp [Token.lexemes, lexemes_cons_of_ne, lexemes_items_append]

theorem lexemes_body_append (tokens : List Token) (s : List Char) :
    Regex.lexemes (bodyText tokens ++ s) =
      tokens.flatMap Token.lexemes ++ Regex.lexemes s := by
  induction tokens with
  | nil => rfl
  | cons token tokens ih =>
    rw [bodyText, List.flatMap_cons, List.append_assoc, lexemes_token_append, ← bodyText, ih,
      List.flatMap_cons, List.append_assoc]

theorem lexemes_patternText (tokens : List Token) :
    Regex.lexemes (patternText tokens) =
      [.plain '(', .plain '?', .plain 's', .plain ':'] ++
        (tokens.flatMap Token.lexemes ++ [.plain ')', .escaped 'Z']) := by
  have hfront : "(?s:".toList = ['(', '?', 's', ':'] := by decide
  have hback : ")\\Z".toList = [')', '\\', 'Z'] := by decide
  unfold patternText
  rw [hfront, hback, List.append_assoc, List.cons_append, List.cons_append,
    List.cons_append, List.cons_append, List.nil_append, lexemes_cons_of_ne (by decide),
    lexemes_cons_of_ne (by decide), lexemes_cons_of_ne (by decide),
    lexemes_cons_of_ne (by decide), lexemes_body_append, lexemes_cons_of_ne (by decide)]
  rfl

/-! ### Classes -/

theorem verbatimLexeme_ne_plain_close {c : Char} : verbatimLexeme c ≠ .plain ']' :=
  verbatimLexeme_ne (by decide)

theorem setAtom_verbatim {named? : List Char → Option Char} (c : Char) (r : Reader) :
    setAtom named? (verbatimLexeme c) r = .ok (.code c.toNat, r) := by
  by_cases h : c ∈ specialCharacters
  · simp only [verbatimLexeme, List.contains_iff_mem.2 h, if_true, setAtom]
    exact setEscape_special h r
  · simp [verbatimLexeme, h, setAtom]

/-- What may come next inside a class: no dash, and no backslash that ends the pattern. -/
def MemberNext (rest : List Lexeme) : Prop :=
  rest.head? ≠ some .loneBackslash ∧ rest.head? ≠ some (.plain '-')

theorem memberNext_items (items : List ClassItem) (rest : List Lexeme) :
    MemberNext (items.flatMap ClassItem.lexemes ++ .plain ']' :: rest) := by
  have hverbatim : ∀ (c : Char) (s : List Lexeme), MemberNext (verbatimLexeme c :: s) := by
    intro c s
    simp only [MemberNext, List.head?_cons, ne_eq, Option.some.injEq]
    exact ⟨verbatimLexeme_ne_lone, verbatimLexeme_ne (by decide)⟩
  cases items with
  | nil => simp [MemberNext]
  | cons item items =>
    cases item with
    | single c => exact hverbatim c _
    | range low high => exact hverbatim low _

/-- The members of a class are read one after the other, up to the closing bracket. -/
theorem setMembers_classLexemes (named? : List Char → Option Char) (opened pos : Nat)
    (members : List SetItem) {fuel : Nat} {items : List ClassItem} {rest : List Lexeme}
    (hfuel : items.length < fuel) (hne : members ≠ [] ∨ items ≠ [])
    (horder : ∀ item ∈ items, item.InOrder) (hrest : rest.head? ≠ some .loneBackslash) :
    ∃ pos', setMembers named? opened fuel members
        ⟨items.flatMap ClassItem.lexemes ++ .plain ']' :: rest, pos⟩ =
      .ok (members ++ items.map ClassItem.setItem, ⟨rest, pos'⟩) := by
  -- on the members ahead; those that were read before them are carried along
  induction items generalizing pos members fuel with
  | nil =>
    obtain ⟨fuel, rfl⟩ := Nat.exists_eq_succ_of_ne_zero (Nat.ne_of_gt hfuel)
    -- a bracket closes the class only behind some member
    have hmembers : members ≠ [] := by simpa using hne
    refine ⟨pos + 1, ?_⟩
    rw [setMembers]
    simp [Reader.next?, advance_cons hrest, hmembers, bind, Except.bind, pure, Except.pure,
      Lexeme.width]
  | cons item items ih =>
    obtain ⟨fuel, rfl⟩ := Nat.exists_eq_succ_of_ne_zero (Nat.ne_zero_of_lt hfuel)
    have hlength : items.length < fuel := by simpa using hfuel
    have hitems := fun other hmem => horder other (List.mem_cons_of_mem _ hmem)
    have hnext := memberNext_items items rest
    cases item with
    | single c =>
      obtain ⟨pos', h⟩ := ih (pos + (verbatimLexeme c).width) (members ++ [.code c.toNat])
        hlength (.inl (by simp)) hitems
      refine ⟨pos', ?_⟩
      rw [List.flatMap_cons, List.append_assoc, setMembers]
      simp only [ClassItem.lexemes, List.singleton_append, Reader.next?, List.head?_cons,
        advance_cons hnext.1, verbatimLexeme_ne_plain_close, false_and, if_false,
        setAtom_verbatim, accept_of_ne hnext.2, bind, Except.bind, Bool.not_false, if_true]
      simpa [ClassItem.setItem] using h
    | range low high =>
      have hle : low ≤ high := horder _ List.mem_cons_self
      have hordered : ¬ high.toNat < low.toNat := Nat.not_lt.2 hle
      obtain ⟨pos', h⟩ := ih (pos + (verbatimLexeme low).width + 1 + (verbatimLexeme high).width)
        (members ++ [.range low.toNat high.toNat]) hlength (.inl (by simp)) hitems
      refine ⟨pos', ?_⟩
      have hhigh : (verbatimLexeme high :: (items.flatMap ClassItem.lexemes ++
          .plain ']' :: rest)).head? ≠ some .loneBackslash := by
        simp [verbatimLexeme_ne_lone]
      rw [List.flatMap_cons, List.append_assoc, setMembers]
      simp only [ClassItem.lexemes, List.cons_append, List.nil_append, Reader.next?,
        List.head?_cons, advance_cons (show (Lexeme.plain '-' :: _).head? ≠ _ by simp),
        verbatimLexeme_ne_plain_close, false_and, if_false, setAtom_verbatim, accept_self hhigh,
        bind, Except.bind, Bool.not_true, Bool.false_eq_true, advance_cons hnext.1, setRange,
        hordered]
      simpa [ClassItem.setItem] using h

theorem length_le_lexemes (items : List ClassItem) :
    items.length ≤ (items.flatMap ClassItem.lexemes).length := by
  induction items with
  | nil => exact Nat.zero_le _
  | cons item items ih =>
    have : 1 ≤ item.lexemes.length := by cases item <;> simp [ClassItem.lexemes]
    rw [List.flatMap_cons, List.length_append, List.length_cons]
    omega

theorem readSet_class (named? : List Char → Option Char) (negated : Bool) (pos : Nat)
    {items : List ClassItem} {rest : List Lexeme} (hne : items ≠ [])
    (horder : ∀ item ∈ items, item.InOrder) (hrest : rest.head? ≠ some .loneBackslash) :
    ∃ pos', readSet named? ⟨(if negated then [.plain '^'] else []) ++
        (items.flatMap ClassItem.lexemes ++ .plain ']' :: rest), pos⟩ =
      .ok (.set negated (items.map ClassItem.setItem), ⟨rest, pos'⟩) := by
  have hlength : items.length < (items.flatMap ClassItem.lexemes ++
      .plain ']' :: rest).length + 1 := by
    have := length_le_lexemes items
    rw [List.length_append]
    omega
  cases negated with
  | true =>
    obtain ⟨pos', h⟩ :=
      setMembers_classLexemes named? (pos - 1) (pos + 1) [] hlength (.inr hne) horder hrest
    refine ⟨pos', ?_⟩
    simp only [readSet, if_true, List.singleton_append,
      accept_self (memberNext_items items rest).1, bind, Except.bind, h]
    rfl
  | false =>
    -- the first member is not taken for a negation, as a caret is escaped
    have hcaret : (items.flatMap ClassItem.lexemes ++ .plain ']' :: rest).head? ≠
        some (.plain '^') := by
      cases items with
      | nil => exact absurd rfl hne
      | cons item items =>
        cases item <;>
          simp [ClassItem.lexemes, verbatimLexeme_ne (show '^' ∈ specialCharacters by decide)]
    obtain ⟨pos', h⟩ :=
      setMembers_classLexemes named? (pos - 1) pos [] hlength (.inr hne) horder hrest
    refine ⟨pos', ?_⟩
    simp only [readSet, Bool.false_eq_true, if_false, List.nil_append, accept_of_ne hcaret, bind,
      Except.bind, h]
    rfl

/-! ### Tokens -/

variable {depth : Nat}

theorem reads_class {negated : Bool} {items : List ClassItem} (hne : items ≠ [])
    (horder : ∀ item ∈ items, item.InOrder) :
    Reads depth (Token.oneOf negated items).lexemes (Token.oneOf negated items).tree where
  nonempty := by simp [Token.lexemes]
  settled := by simp [Token.lexemes, Settled]
  advances := by
    intro st rest pos hdepth hverbose hrest
    obtain ⟨pos', h⟩ := readSet_class st.library.named? negated (pos + 1) hne horder hrest.1
    have hmember := (memberNext_items items rest).1
    refine ⟨pos', ?_⟩
    have hlexemes : (Token.oneOf negated items).lexemes ++ rest = .plain '[' ::
        ((if negated then [.plain '^'] else []) ++
          (items.flatMap ClassItem.lexemes ++ .plain ']' :: rest)) := by
      simp [Token.lexemes]
    rw [hlexemes]
    refine advances_plain (Nat.le_of_add_right_le hdepth) (by decide) (by decide) ?_ ?_ ?_
    · cases negated with
      | true => simp
      | false => simpa using hmember
    · simp only [State.readPlain, State.facing_frame, State.facing_library, hverbose,
        Bool.false_and, Bool.false_eq_true, if_false, h]
      rfl
    · simp only [State.facing_reader, List.length_append, List.length_cons]
      omega

theorem reads_run : Reads depth [.plain '.', .plain '*'] runTree :=
  reads_dot.star ⟨by simp, by simp⟩

/-- The group for directories: its opening, a run and a separator, its closing, and the question
mark behind it. -/
theorem reads_directories : Reads 1 Token.directories.lexemes Token.directories.tree where
  nonempty := by simp [Token.lexemes]
  settled := by simp [Token.lexemes, Settled]
  advances := by
    intro st rest pos hdepth hverbose hrest
    have hflat : st.outer.length ≤ 1 := Nat.le_of_succ_le_succ hdepth
    have hbody : ∀ x ∈ [([Lexeme.plain '.', .plain '*'], runTree),
        ([verbatimLexeme '/'], Node.code '/'.toNat)], Reads 0 x.1 x.2 := by
      rw [List.forall_mem_cons, List.forall_mem_singleton]
      exact ⟨reads_run, reads_character '/'⟩
    obtain ⟨-, pos₁, hinner⟩ := Reads.sequence hbody (.plain ')' :: .plain '?' :: rest)
      (by simp [Settled]) (pos + 3) (st.inside [] [] pos) hdepth rfl
    refine ⟨pos₁ + 1 + 1, ?_⟩
    have hopen : Advances (st.facing (Token.directories.lexemes ++ rest) pos)
        ((st.inside [] [] pos).facing
          ([.plain '.', .plain '*', .plain '/', .plain ')', .plain '?'] ++ rest) (pos + 3)) :=
      advances_openPlain (Nat.le_succ_of_le hflat) (by simp) hverbose
    have hclose := advances_close st [runTree, .code '/'.toNat] [] [] pos pos₁ hflat
      (show (Lexeme.plain '?' :: rest).head? ≠ some .loneBackslash by simp)
    exact hopen.trans (hinner.trans (hclose.trans
      (advances_repeat (.inr ⟨rfl, rfl⟩) ⟨by simp, by simp⟩ (Nat.le_succ_of_le hflat) hverbose
        hrest)))

/-- The pattern text of a token is read as one item. -/
theorem reads_token {token : Token} (h : token.Proper) : Reads 1 token.lexemes token.tree := by
  cases token with
  | char c => exact reads_character c
  | any => exact reads_dot
  | run | rest => exact reads_run
  | directories => exact reads_directories
  | oneOf negated items => exact reads_class h.1 h.2

/-! ### Whole patterns -/

variable {library : Library}

theorem parse_patternText {tokens : List Token} (h : ∀ token ∈ tokens, token.Proper) :
    Regex.parse (patternText tokens) library = .ok (searchTree tokens) := by
  let opening : List Lexeme := [.plain '(', .plain '?', .plain 's', .plain ':']
  let ending : List Lexeme := [.plain ')', .escaped 'Z']
  let ahead := opening ++ (tokens.flatMap Token.lexemes ++ ending)
  have hstart : Reader.start (patternText tokens) = .ok ⟨ahead, 0⟩ := by
    rw [Reader.start, lexemes_patternText]
    rfl
  let st := State.initial library ⟨ahead, 0⟩
  -- the steps over the opening, the tokens, the closing and the end, in this order
  obtain ⟨hsettled, pos, hbody⟩ := Reads.sequence (fun token hmem => reads_token (h token hmem))
    ending (by decide) 4 (st.inside [.dotAll] [] 0) (Nat.le_refl 2) rfl
  have hopen : Advances st
      ((st.inside [.dotAll] [] 0).facing (tokens.flatMap Token.lexemes ++ ending) 4) :=
    advances_openDotAll st 0 (Nat.zero_le 2) hsettled.1 rfl
  have hclose := advances_close st (tokens.map Token.tree) [.dotAll] [] 0 pos (Nat.zero_le 1)
    (show [Lexeme.escaped 'Z'].head? ≠ some .loneBackslash by simp)
  have hend := advances_textEnd
    (st.extended [.scoped [.dotAll] [] (.sequence (tokens.map Token.tree))]) (pos + 1)
    (Nat.zero_le 2)
    (show ([] : List Lexeme).head? ≠ some .loneBackslash by simp)
  rw [parse_of_advances hstart (hopen.trans (hbody.trans (hclose.trans hend))) rfl (Nat.zero_le 2)]
  rfl

theorem check_items {flags : Flags} {tokens : List Token} (hflags : .template ∉ flags) :
    check [] flags (.sequence (tokens.map Token.tree)) = .ok () := by
  induction tokens with
  | nil => rfl
  | cons token tokens ih =>
    have htoken : check [] flags token.tree = .ok () := by
      cases token with
      | directories =>
        simp [Token.tree, check, runTree, Node.sequence, Flags.within, bind, Except.bind, hflags]
      | _ => simp [Token.tree, runTree, check, hflags]
    rw [List.map_cons]
    change (check [] flags token.tree >>= fun _ => _) = _
    rw [htoken]
    exact ih

theorem nesting_tree_le (token : Token) : token.tree.nesting ≤ 3 := by
  cases token <;> simp [Token.tree, runTree, Node.nesting, Node.sequence]

theorem nesting_sequence_le (tokens : List Token) :
    (Node.sequence (tokens.map Token.tree)).nesting ≤ 3 := by
  induction tokens with
  | nil => exact Nat.zero_le 3
  | cons token tokens ih => exact Nat.max_le.2 ⟨nesting_tree_le token, ih⟩

/-- The pattern text of proper tokens is read as the tree of the tokens, for which there is always
room. -/
theorem compile_patternText {tokens : List Token} (h : ∀ token ∈ tokens, token.Proper) :
    Regex.compile (patternText tokens) library = .ok (searchTree tokens) := by
  have hcheck : check (searchTree tokens).widths (searchTree tokens).flags
      (searchTree tokens).tree = .ok () := by
    change (check [] (Flags.within [] [.dotAll] []) _ >>= fun _ => _) = _
    rw [check_items (by decide)]
    rfl
  have hroom : library.canTranslate (searchTree tokens) = true := by
    refine library.canTranslate_of_flat _ (Nat.max_le.2 ⟨?_, Nat.zero_le 4⟩)
    exact Nat.succ_le_succ (nesting_sequence_le tokens)
  rw [Regex.compile, parse_patternText h]
  simp only [ok_bind, hroom]
  change (check _ _ _ >>= fun _ => _) = _
  rw [hcheck]
  rfl

/-- A glob whose tokens can be read is read with the tree of its tokens. -/
theorem ofText_of_parse {s : List Char} {tokens : List Token} (h : parse s = .ok tokens) :
    ofText s library = .ok ⟨s, searchTree tokens⟩ := by
  rw [ofText, searchText, h]
  change ((Regex.compile (patternText tokens) library).mapError _ >>= fun _ => _) = _
  rw [compile_patternText (proper_of_parse h)]
  rfl

end FileSieve.Glob
