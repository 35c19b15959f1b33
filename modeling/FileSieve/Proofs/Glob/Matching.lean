import FileSieve.Proofs.Glob.SearchPattern
import FileSieve.Proofs.Regex.Language

/-!
# What a glob takes

The search pattern of a glob takes exactly the texts that the glob means. The language of the tree
is found token by token; the end of the text after the tree makes the match a match of the whole.

* `denotes_token`: the tree of a token takes the pieces that the token takes.
* `matchesFront_searchTree`: the search pattern of some tokens takes the texts that fit them.
* `takes_iff_fits`: a glob takes a text when the text can be cut into one piece for each token.
-/

namespace FileSieve.Glob

open Regex Computability

variable {widths : List Width}

/-! ### Tokens -/

/-- The flags inside the group around the tokens. -/
def bodyFlags : Flags := [.dotAll]

theorem contains_setItem {c : Char} (item : ClassItem) :
    item.setItem.contains bodyFlags c = true ↔ item.Covers c := by
  have hself : equivalents bodyFlags c.toNat = [c.toNat] := rfl
  cases item with
  | single d =>
    simp only [ClassItem.setItem, SetItem.contains, hself, List.contains_cons, List.contains_nil,
      Bool.or_false, beq_iff_eq, ClassItem.Covers, Char.toNat_inj]
    exact eq_comm
  | range low high =>
    simp [ClassItem.setItem, SetItem.contains, hself, ClassItem.Covers]

theorem denotes_char (c : Char) :
    Denotes widths bodyFlags (.code c.toNat) (Token.char c).language := by
  refine Denotes.congr (takes_pass _) fun s => ?_
  rw [mem_oneOf, Token.mem_language, Token.Takes]
  constructor
  · rintro ⟨d, rfl, hd⟩
    have : d = c := (contains_setItem (.single c)).1 hd
    rw [this]
  · rintro rfl
    exact ⟨c, rfl, (contains_setItem (.single c)).2 rfl⟩

theorem denotes_any : Denotes widths bodyFlags .any Token.any.language := by
  refine Denotes.congr (takes_pass _) fun s => ?_
  rw [mem_oneOf, Token.mem_language, Token.Takes]
  exact exists_congr fun c => and_iff_left rfl

theorem denotes_oneOf (negated : Bool) (items : List ClassItem) :
    Denotes widths bodyFlags (Token.oneOf negated items).tree
      (Token.oneOf negated items).language := by
  refine Denotes.congr (takes_pass _) fun s => ?_
  rw [mem_oneOf, Token.mem_language, Token.Takes]
  refine exists_congr fun c => and_congr_right fun _ => ?_
  have hany : (items.map ClassItem.setItem).any (·.contains bodyFlags c) = true ↔
      ∃ item ∈ items, item.Covers c := by
    simp [contains_setItem]
  rw [← hany]
  cases negated <;> simp

/-- The star of the dot takes every text. -/
theorem denotes_run : Denotes widths bodyFlags runTree Token.run.language := by
  refine Denotes.congr (Denotes.star denotes_any) fun s => ?_
  rw [Token.mem_language, Token.Takes, iff_true, Language.mem_kstar]
  -- a run is cut into its characters
  refine ⟨s.map fun c => [c], by simp [← List.flatMap_def], fun piece hpiece => ?_⟩
  obtain ⟨c, -, rfl⟩ := List.mem_map.1 hpiece
  exact ⟨c, rfl⟩

theorem denotes_directories :
    Denotes widths bodyFlags Token.directories.tree Token.directories.language := by
  have hbody : Denotes widths bodyFlags (.sequence [runTree, .code '/'.toNat])
      (Token.run.language * ((Token.char '/').language * 1)) :=
    denotes_run.cat ((denotes_char '/').cat .empty)
  refine Denotes.congr (Denotes.optional (Denotes.scoped hbody)) fun s => ?_
  rw [mul_one, Language.mem_add, Language.mem_one, Language.mem_mul, Token.mem_language,
    Token.Takes]
  refine or_congr_right ⟨?_, ?_⟩
  · rintro ⟨t, -, _, rfl, rfl⟩
    exact ⟨t, rfl⟩
  · rintro ⟨t, rfl⟩
    exact ⟨t, trivial, ['/'], rfl, rfl⟩

/-- The tree of a token takes the pieces that the token takes. -/
theorem denotes_token (token : Token) : Denotes widths bodyFlags token.tree token.language := by
  cases token with
  | char c => exact denotes_char c
  | any => exact denotes_any
  | run | rest => exact denotes_run
  | directories => exact denotes_directories
  | oneOf negated items => exact denotes_oneOf negated items

/-! ### Whole globs -/

/-- The search pattern of some tokens takes the texts that can be cut into pieces for them. -/
theorem matchesFront_searchTree {tokens : List Token} {s : List Char} :
    (searchTree tokens).matchesFront s = true ↔ Fits tokens s := by
  -- the dot takes a newline inside the group only
  have hbody : Denotes [] [] (.scoped [.dotAll] [] (.sequence (tokens.map Token.tree)))
      (tokens.map Token.language).prod :=
    Denotes.scoped (Denotes.sequence fun token _ => denotes_token token)
  rw [← mem_language_iff]
  exact hbody.whole

/-- **A glob that is read takes a text when the text can be cut into consecutive pieces, one for
each of its tokens.** The tokens spell the glob, and no special character stands for itself. -/
theorem takes_iff_fits {s : List Char} {tokens : List Token} (h : parse s = .ok tokens) :
    (written tokens = s ∧ ∀ token ∈ tokens, token.Proper) ∧
      ∃ glob, ofText s = .ok glob ∧ ∀ path, glob.takes path = true ↔ Fits tokens path :=
  ⟨⟨written_of_parse h, proper_of_parse h⟩, _, ofText_of_parse h, fun _ => matchesFront_searchTree⟩

/-- A glob with nested directories and a class whose members are special in a pattern. -/
theorem takes_nested_class :
    ∃ glob, ofText "**/a/**/[!^-a].*".toList = .ok glob ∧ ∀ path, glob.takes path = true ↔
      Fits [.directories, .char 'a', .char '/', .directories, .oneOf true [.range '^' 'a'],
        .char '.', .run] path :=
  (takes_iff_fits (s := "**/a/**/[!^-a].*".toList) (by decide)).2

end FileSieve.Glob
