import FileSieve.Proofs.Glob.Matching
import FileSieve.Proofs.Glob.Plain
import FileSieve.Proofs.Query.Building

/-!
# Tokens that look like globs

A token looks like a glob when it has a special character. This is told from the token alone, and
it is right: the tokens that mean their own text as globs are those without special characters,
whatever the same characters would mean in a search pattern.

* `FilePattern.accepts_only_iff`: the globs that match the files with their own text only.
* `looksLike_eq_false_iff`: the tokens that look like globs mean something else as globs.
-/

namespace FileSieve.Query

variable {token : List Char} {pattern : FilePattern}

/-! ### File patterns -/

/-- A token that is read as a glob matches the texts that fit what is read. -/
theorem FilePattern.exists_parse_of_readGlob (h : FilePattern.readGlob token = .ok pattern) :
    ∃ tokens, Glob.parse token = .ok tokens ∧
      ∀ file : FileRef, pattern.accepts file = true ↔ Glob.Fits tokens file.text := by
  obtain ⟨-, glob, hglob, rfl⟩ := readGlob_eq_ok_iff.1 h
  cases hparse : Glob.parse token with
  | ok tokens =>
    obtain ⟨-, glob', hglob', htakes⟩ := Glob.takes_iff_fits hparse
    cases hglob.symm.trans hglob'
    exact ⟨tokens, rfl, fun file => htakes file.text⟩
  | error fault =>
    rw [Glob.ofText, Glob.searchText, hparse] at hglob
    cases hglob

theorem FilePattern.exists_readGlob_of_plain (hne : token ≠ [])
    (hplain : Glob.looksLike token = false) : ∃ pattern, FilePattern.readGlob token = .ok pattern :=
  ⟨_, readGlob_eq_ok_iff.2 ⟨hne, _, Glob.ofText_of_parse (Glob.parse_plain hplain), rfl⟩⟩

/-- A glob matches the files with its own text only, when no character of it is special. -/
theorem FilePattern.accepts_only_iff (h : FilePattern.readGlob token = .ok pattern) :
    (∀ file : FileRef, pattern.accepts file = true ↔ file.text = token) ↔
      Glob.looksLike token = false := by
  obtain ⟨tokens, hparse, haccepts⟩ := exists_parse_of_readGlob h
  simp only [haccepts]
  rw [← Glob.fits_only_iff hparse]
  exact ⟨fun hfiles t => hfiles (.spelled t), fun htexts file => htexts file.text⟩

/-- A file whose text is the token is the one that the token names. -/
theorem path_eq_of_text_eq {file : FileRef} (h : file.text = token) :
    file.path = Path.ofText token := by
  subst h
  cases file with
  | spelled s => rfl
  | ofPath p => exact (Path.ofText_text p).symm

/-- **A token looks like a glob exactly when its meaning as a glob is another than its text.**
Without special characters it is read as a glob, and that matches the files with this text only;
with one it is no glob, or there is a file that it matches and should not, or the other way round.
So what the glob of a plain token matches is also matched by the token as it stands. -/
theorem looksLike_eq_false_iff :
    (∀ token : List Char, token ≠ [] → (Glob.looksLike token = false ↔
      ∃ pattern, FilePattern.readGlob token = .ok pattern ∧
        ∀ file : FileRef, pattern.accepts file = true ↔ file.text = token)) ∧
    ∀ (token : List Char) (glob : FilePattern), Glob.looksLike token = false →
      FilePattern.readGlob token = .ok glob →
        ∃ literal, FilePattern.readLiteral token = .ok literal ∧
          ∀ file : FileRef, glob.accepts file = true → literal.accepts file = true := by
  refine ⟨fun token hne => ⟨fun hplain => ?_, fun ⟨pattern, hread, honly⟩ => ?_⟩,
    fun token glob hplain hread => ?_⟩
  · obtain ⟨pattern, hread⟩ := FilePattern.exists_readGlob_of_plain hne hplain
    exact ⟨pattern, hread, (FilePattern.accepts_only_iff hread).2 hplain⟩
  · exact (FilePattern.accepts_only_iff hread).1 honly
  · have hne := (FilePattern.readGlob_eq_ok_iff.1 hread).1
    refine ⟨.literal token, FilePattern.readLiteral_eq_ok_iff.2 ⟨hne, rfl⟩, fun file hfile => ?_⟩
    have htext := ((FilePattern.accepts_only_iff hread).2 hplain file).1 hfile
    exact decide_eq_true (path_eq_of_text_eq htext)

/-- Characters that are special in search patterns only, and a class that lets nothing through but
its one member. -/
theorem looksLike_eq_false_iff_of_dots :
    (Glob.looksLike "./a+(b).$".toList = false ∧
      ∃ pattern, FilePattern.readGlob "./a+(b).$".toList = .ok pattern ∧
        (∀ file : FileRef, pattern.accepts file = true ↔ file.text = "./a+(b).$".toList) ∧
        ∃ literal, FilePattern.readLiteral "./a+(b).$".toList = .ok literal ∧
          ∀ file : FileRef, pattern.accepts file = true → literal.accepts file = true) ∧
      ¬ ∃ pattern, FilePattern.readGlob "[a]".toList = .ok pattern ∧
        ∀ file : FileRef, pattern.accepts file = true ↔ file.text = "[a]".toList := by
  have hplain : Glob.looksLike "./a+(b).$".toList = false := by decide
  obtain ⟨pattern, hread, honly⟩ := (looksLike_eq_false_iff.1 _ (by decide)).1 hplain
  refine ⟨⟨hplain, pattern, hread, honly, looksLike_eq_false_iff.2 _ _ hplain hread⟩, fun h => ?_⟩
  have hclass : Glob.looksLike "[a]".toList = false :=
    (looksLike_eq_false_iff.1 _ (by decide)).2 h
  revert hclass
  decide

end FileSieve.Query
