import FileSieve.Proofs.Glob.Grammar
import FileSieve.Proofs.Outcome
import FileSieve.Query.Builder

/-!
# Building queries

What a builder makes of its tokens, and that nothing else of its history matters: flags may be set
before or after the tokens they are for, and queries that were built before leave no trace.

* `Builder.run_new`: after some steps a builder has the flags as set last and all tokens in order.
* `Builder.compileTag_eq_ok_iff`, `Builder.compileFile_eq_error_iff` and so on: what becomes of a
  token.
* `Builder.build_eq_ok_iff`, `Builder.build_eq_error_iff`: which queries are built, and which fault
  is told when there are several.
* `Builder.build_run`: what is built after any steps.
-/

namespace FileSieve.Query

variable {library : Regex.Library} {token : List Char} {e : Error}

theorem compileRegex_eq_ok_iff {regex : Regex} :
    compileRegex token library = .ok regex ↔ Regex.compile token library = .ok regex := by
  unfold compileRegex
  split <;> simp_all

/-! ### Reading patterns -/

namespace TagPattern

variable {tag : TagPattern}

theorem readLiteral_eq_ok_iff :
    readLiteral token = .ok tag ↔ token ≠ [] ∧ tag = .literal token := by
  by_cases h : token = [] <;> simp [readLiteral, h, eq_comm]

theorem readLiteral_eq_error_iff :
    readLiteral token = .error e ↔ token = [] ∧ e = .rejected (.empty .tag) := by
  by_cases h : token = [] <;> simp [readLiteral, h, eq_comm]

theorem readRegex_eq_ok_iff : readRegex token library = .ok tag ↔
    token ≠ [] ∧ ∃ regex, Regex.compile token library = .ok regex ∧ tag = .regex token regex := by
  by_cases h : token = []
  · simp [readRegex, h]
  · rw [readRegex, if_neg h, map_eq_ok_iff]
    simp [h, compileRegex_eq_ok_iff, @eq_comm _ _ tag]

theorem readRegex_eq_error_iff : readRegex token library = .error e ↔
    token = [] ∧ e = .rejected (.empty .tag) ∨
      token ≠ [] ∧ compileRegex token library = .error e := by
  by_cases h : token = []
  · simp [readRegex, h, eq_comm]
  · rw [readRegex, if_neg h, map_eq_error_iff]
    simp [h]

end TagPattern

namespace FilePattern

variable {file : FilePattern}

theorem readLiteral_eq_ok_iff :
    readLiteral token = .ok file ↔ token ≠ [] ∧ file = .literal token := by
  by_cases h : token = [] <;> simp [readLiteral, h, eq_comm]

theorem readLiteral_eq_error_iff :
    readLiteral token = .error e ↔ token = [] ∧ e = .rejected (.empty .file) := by
  by_cases h : token = [] <;> simp [readLiteral, h, eq_comm]

theorem readRegex_eq_ok_iff : readRegex token library = .ok file ↔
    token ≠ [] ∧ ∃ regex, Regex.compile token library = .ok regex ∧ file = .regex token regex := by
  by_cases h : token = []
  · simp [readRegex, h]
  · rw [readRegex, if_neg h, map_eq_ok_iff]
    simp [h, compileRegex_eq_ok_iff, @eq_comm _ _ file]

theorem readRegex_eq_error_iff : readRegex token library = .error e ↔
    token = [] ∧ e = .rejected (.empty .file) ∨
      token ≠ [] ∧ compileRegex token library = .error e := by
  by_cases h : token = []
  · simp [readRegex, h, eq_comm]
  · rw [readRegex, if_neg h, map_eq_error_iff]
    simp [h]

theorem readGlob_eq_ok_iff : readGlob token library = .ok file ↔
    token ≠ [] ∧ ∃ glob, Glob.ofText token library = .ok glob ∧ file = .glob token glob := by
  by_cases h : token = []
  · simp [readGlob, h]
  · rw [readGlob, if_neg h]
    cases Glob.ofText token library <;> simp [h, eq_comm]

theorem readGlob_eq_error_iff : readGlob token library = .error e ↔
    token = [] ∧ e = .rejected (.empty .file) ∨
      token ≠ [] ∧ ∃ refusal, Glob.ofText token library = .error refusal ∧
        e = .rejected (.badGlob token refusal.reason.toList) := by
  by_cases h : token = []
  · simp [readGlob, h, eq_comm]
  · rw [readGlob, if_neg h]
    cases Glob.ofText token library <;> simp [h, eq_comm]

end FilePattern

/-! ### Tokens -/

/-- The token has a character that stands for others in a glob. -/
def HasWildcard (token : List Char) : Prop := '*' ∈ token ∨ '?' ∈ token ∨ '[' ∈ token

instance : Decidable (HasWildcard token) := inferInstanceAs (Decidable (_ ∨ _))

theorem looksLike_iff : Glob.looksLike token = true ↔ HasWildcard token := by
  simp [Glob.looksLike, Glob.isSpecial, Glob.specials, HasWildcard, and_or_left, exists_or]

theorem looksLike_eq_decide : Glob.looksLike token = decide (HasWildcard token) := by
  rw [Bool.eq_iff_iff, looksLike_iff, decide_eq_true_iff]

theorem exists_ofText_iff :
    (∃ glob, Glob.ofText token library = .ok glob) ↔ Glob.IsGlob token := by
  rw [← Glob.accepts_iff_isGlob]
  constructor
  · rintro ⟨glob, h⟩
    obtain ⟨pattern, hpattern, -⟩ := bind_eq_ok_iff.1 h
    obtain ⟨tokens, htokens, -⟩ := map_eq_ok_iff.1 hpattern
    refine ⟨tokens, ?_⟩
    cases hparse : Glob.parse token with
    | error fault =>
      rw [hparse] at htokens
      cases htokens
    | ok read =>
      rw [hparse] at htokens
      cases htokens
      exact hparse
  · rintro ⟨tokens, h⟩
    exact ⟨_, Glob.ofText_of_parse h⟩

namespace Builder

variable {b : Builder}

/-! ### Tags -/

variable {tag : TagPattern}

/-- A token that a builder takes for a tag. -/
def GoodTag (b : Builder) (token : List Char) : Prop :=
  token ≠ [] ∧ (b.regexTags = true → ∃ regex, Regex.compile token b.library = .ok regex) ∧
    (b.regexTags = false → ¬ HasWildcard token)

/-- What a builder makes of a token for tags. -/
inductive MakesTag (b : Builder) : List Char → TagPattern → Prop
  /-- The tag itself. -/
  | literal {token : List Char} (hflag : b.regexTags = false) (hne : token ≠ [])
      (hplain : ¬ HasWildcard token) : MakesTag b token (.literal token)
  /-- A search pattern. -/
  | regex {token : List Char} {regex : Regex} (hflag : b.regexTags = true) (hne : token ≠ [])
      (hcompile : Regex.compile token b.library = .ok regex) : MakesTag b token (.regex token regex)

/-- What is wrong with a token for tags. -/
inductive TagFault (b : Builder) : List Char → Error → Prop
  /-- It is empty. -/
  | empty : TagFault b [] (.rejected (.empty .tag))
  /-- It looks like a glob. -/
  | wildcard {token : List Char} (hflag : b.regexTags = false) (h : HasWildcard token) :
      TagFault b token (.rejected (.globLikeTag token))
  /-- It is no search pattern. -/
  | regex {token : List Char} {e : Error} (hflag : b.regexTags = true) (hne : token ≠ [])
      (h : compileRegex token b.library = .error e) : TagFault b token e

theorem compileTag_of_regex (hflag : b.regexTags = true) :
    b.compileTag token = TagPattern.readRegex token b.library := by
  rw [compileTag, if_pos hflag]

theorem compileTag_of_plain (hflag : b.regexTags = false) (h : ¬ HasWildcard token) :
    b.compileTag token = TagPattern.readLiteral token := by
  simp [compileTag, hflag, looksLike_eq_decide, h]

theorem compileTag_of_wildcard (hflag : b.regexTags = false) (h : HasWildcard token) :
    b.compileTag token = .error (.rejected (.globLikeTag token)) :=
  compileTag_of_globLike hflag (looksLike_iff.2 h)

theorem compileTag_eq_ok_iff : b.compileTag token = .ok tag ↔ MakesTag b token tag := by
  constructor
  · intro h
    cases hflag : b.regexTags with
    | true =>
      rw [compileTag_of_regex hflag, TagPattern.readRegex_eq_ok_iff] at h
      obtain ⟨hne, regex, hcompile, rfl⟩ := h
      exact .regex hflag hne hcompile
    | false =>
      by_cases hwild : HasWildcard token
      · rw [compileTag_of_wildcard hflag hwild] at h
        cases h
      · rw [compileTag_of_plain hflag hwild, TagPattern.readLiteral_eq_ok_iff] at h
        obtain ⟨hne, rfl⟩ := h
        exact .literal hflag hne hwild
  · intro h
    cases h with
    | literal hflag hne hplain =>
      rw [compileTag_of_plain hflag hplain, TagPattern.readLiteral_eq_ok_iff]
      exact ⟨hne, rfl⟩
    | regex hflag hne hcompile =>
      rw [compileTag_of_regex hflag, TagPattern.readRegex_eq_ok_iff]
      exact ⟨hne, _, hcompile, rfl⟩

theorem compileTag_eq_error_iff : b.compileTag token = .error e ↔ TagFault b token e := by
  constructor
  · intro h
    cases hflag : b.regexTags with
    | true =>
      rw [compileTag_of_regex hflag, TagPattern.readRegex_eq_error_iff] at h
      rcases h with ⟨rfl, rfl⟩ | ⟨hne, h⟩
      · exact .empty
      · exact .regex hflag hne h
    | false =>
      by_cases hwild : HasWildcard token
      · rw [compileTag_of_wildcard hflag hwild] at h
        cases h
        exact .wildcard hflag hwild
      · rw [compileTag_of_plain hflag hwild, TagPattern.readLiteral_eq_error_iff] at h
        obtain ⟨rfl, rfl⟩ := h
        exact .empty
  · intro h
    cases h with
    | empty =>
      -- an empty token has no wildcard, so it is told in both settings of the flag
      cases hflag : b.regexTags with
      | true => rw [compileTag_of_regex hflag]; rfl
      | false => rw [compileTag_of_plain hflag (by decide)]; rfl
    | wildcard hflag h => exact compileTag_of_wildcard hflag h
    | regex hflag hne h =>
      rw [compileTag_of_regex hflag, TagPattern.readRegex_eq_error_iff]
      exact .inr ⟨hne, h⟩

theorem exists_compileTag_iff : (∃ tag, b.compileTag token = .ok tag) ↔ GoodTag b token := by
  simp only [compileTag_eq_ok_iff]
  constructor
  · rintro ⟨tag, hflag, hne, h⟩
    · exact ⟨hne, by simp [hflag], fun _ => h⟩
    · rename_i regex hflag hne h
      exact ⟨hne, fun _ => ⟨regex, h⟩, by simp [hflag]⟩
  · rintro ⟨hne, hregex, hplain⟩
    cases hflag : b.regexTags with
    | true =>
      obtain ⟨regex, h⟩ := hregex hflag
      exact ⟨_, .regex hflag hne h⟩
    | false => exact ⟨_, .literal hflag hne (hplain hflag)⟩

/-! ### Files -/

variable {file : FilePattern}

/-- The token is for a glob, unless it is for a search pattern. -/
def TakesGlob (b : Builder) (token : List Char) : Prop :=
  b.globFiles = true ∨ b.setting = .bulk ∧ HasWildcard token

/-- A token that a builder takes for a file. -/
def GoodFile (b : Builder) (token : List Char) : Prop :=
  token ≠ [] ∧ (b.regexFiles = true → ∃ regex, Regex.compile token b.library = .ok regex) ∧
    (b.regexFiles = false → TakesGlob b token → Glob.IsGlob token)

/-- What a builder makes of a token for files. -/
inductive MakesFile (b : Builder) : List Char → FilePattern → Prop
  /-- The path itself. -/
  | literal {token : List Char} (hflag : b.regexFiles = false) (hne : token ≠ [])
      (hplain : ¬ TakesGlob b token) : MakesFile b token (.literal token)
  /-- A search pattern. -/
  | regex {token : List Char} {regex : Regex} (hflag : b.regexFiles = true) (hne : token ≠ [])
      (hcompile : Regex.compile token b.library = .ok regex) :
      MakesFile b token (.regex token regex)
  /-- A glob. -/
  | glob {token : List Char} {glob : Glob} (hflag : b.regexFiles = false) (hne : token ≠ [])
      (hglob : TakesGlob b token) (hread : Glob.ofText token b.library = .ok glob) :
      MakesFile b token (.glob token glob)

/-- What is wrong with a token for files. -/
inductive FileFault (b : Builder) : List Char → Error → Prop
  /-- It is empty. -/
  | empty : FileFault b [] (.rejected (.empty .file))
  /-- It is no search pattern. -/
  | regex {token : List Char} {e : Error} (hflag : b.regexFiles = true) (hne : token ≠ [])
      (h : compileRegex token b.library = .error e) : FileFault b token e
  /-- It is no glob. -/
  | glob {token : List Char} {refusal : Glob.Refusal} (hflag : b.regexFiles = false)
      (hne : token ≠ []) (hglob : TakesGlob b token)
      (h : Glob.ofText token b.library = .error refusal) :
      FileFault b token (.rejected (.badGlob token refusal.reason.toList))

theorem compileFile_of_regex (hflag : b.regexFiles = true) :
    b.compileFile token = FilePattern.readRegex token b.library := by
  rw [compileFile, if_pos hflag]

theorem compileFile_of_glob (hflag : b.regexFiles = false) (h : TakesGlob b token) :
    b.compileFile token = FilePattern.readGlob token b.library := by
  unfold TakesGlob at h
  simp [compileFile, hflag, looksLike_eq_decide, h]

theorem compileFile_of_literal (hflag : b.regexFiles = false) (h : ¬ TakesGlob b token) :
    b.compileFile token = FilePattern.readLiteral token := by
  unfold TakesGlob at h
  simp [compileFile, hflag, looksLike_eq_decide, h]

theorem compileFile_eq_ok_iff : b.compileFile token = .ok file ↔ MakesFile b token file := by
  constructor
  · intro h
    cases hflag : b.regexFiles with
    | true =>
      rw [compileFile_of_regex hflag, FilePattern.readRegex_eq_ok_iff] at h
      obtain ⟨hne, regex, hcompile, rfl⟩ := h
      exact .regex hflag hne hcompile
    | false =>
      by_cases hglob : TakesGlob b token
      · rw [compileFile_of_glob hflag hglob, FilePattern.readGlob_eq_ok_iff] at h
        obtain ⟨hne, glob, hread, rfl⟩ := h
        exact .glob hflag hne hglob hread
      · rw [compileFile_of_literal hflag hglob, FilePattern.readLiteral_eq_ok_iff] at h
        obtain ⟨hne, rfl⟩ := h
        exact .literal hflag hne hglob
  · intro h
    cases h with
    | literal hflag hne hplain =>
      rw [compileFile_of_literal hflag hplain, FilePattern.readLiteral_eq_ok_iff]
      exact ⟨hne, rfl⟩
    | regex hflag hne hcompile =>
      rw [compileFile_of_regex hflag, FilePattern.readRegex_eq_ok_iff]
      exact ⟨hne, _, hcompile, rfl⟩
    | glob hflag hne hglob hread =>
      rw [compileFile_of_glob hflag hglob, FilePattern.readGlob_eq_ok_iff]
      exact ⟨hne, _, hread, rfl⟩

theorem compileFile_eq_error_iff : b.compileFile token = .error e ↔ FileFault b token e := by
  constructor
  · intro h
    cases hflag : b.regexFiles with
    | true =>
      rw [compileFile_of_regex hflag, FilePattern.readRegex_eq_error_iff] at h
      rcases h with ⟨rfl, rfl⟩ | ⟨hne, h⟩
      · exact .empty
      · exact .regex hflag hne h
    | false =>
      by_cases hglob : TakesGlob b token
      · rw [compileFile_of_glob hflag hglob, FilePattern.readGlob_eq_error_iff] at h
        rcases h with ⟨rfl, rfl⟩ | ⟨hne, refusal, h, rfl⟩
        · exact .empty
        · exact .glob hflag hne hglob h
      · rw [compileFile_of_literal hflag hglob, FilePattern.readLiteral_eq_error_iff] at h
        obtain ⟨rfl, rfl⟩ := h
        exact .empty
  · intro h
    cases h with
    | empty =>
      -- whatever an empty token is taken for, that it is empty is noticed first
      cases hflag : b.regexFiles with
      | true => rw [compileFile_of_regex hflag]; rfl
      | false =>
        by_cases hglob : TakesGlob b []
        · rw [compileFile_of_glob hflag hglob]; rfl
        · rw [compileFile_of_literal hflag hglob]; rfl
    | regex hflag hne h =>
      rw [compileFile_of_regex hflag, FilePattern.readRegex_eq_error_iff]
      exact .inr ⟨hne, h⟩
    | glob hflag hne hglob h =>
      rw [compileFile_of_glob hflag hglob, FilePattern.readGlob_eq_error_iff]
      exact .inr ⟨hne, _, h, rfl⟩

theorem exists_compileFile_iff :
    (∃ file, b.compileFile token = .ok file) ↔ GoodFile b token := by
  simp only [compileFile_eq_ok_iff]
  constructor
  · rintro ⟨file, h⟩
    cases h with
    | literal hflag hne hplain =>
      exact ⟨hne, by simp [hflag], fun _ hglob => absurd hglob hplain⟩
    | regex hflag hne hcompile => exact ⟨hne, fun _ => ⟨_, hcompile⟩, by simp [hflag]⟩
    | glob hflag hne _ hread =>
      exact ⟨hne, by simp [hflag], fun _ _ => exists_ofText_iff.1 ⟨_, hread⟩⟩
  · rintro ⟨hne, hregex, hglobs⟩
    cases hflag : b.regexFiles with
    | true =>
      obtain ⟨regex, h⟩ := hregex hflag
      exact ⟨_, .regex hflag hne h⟩
    | false =>
      by_cases hglob : TakesGlob b token
      · obtain ⟨glob, h⟩ := exists_ofText_iff.2 (hglobs hflag hglob)
        exact ⟨_, .glob hflag hne hglob h⟩
      · exact ⟨_, .literal hflag hne hglob⟩

/-! ### Queries -/

variable {tagMode fileMode : Mode} {tags : Query TagPattern} {files : Query FilePattern}

/-- Why a builder builds nothing. -/
inductive Refuses (b : Builder) : Error → Prop
  /-- A token for tags is bad, and none before it. -/
  | tag {before after : List (List Char)} {token : List Char} {e : Error}
      (hcut : b.tagTokens = before ++ token :: after) (hbefore : ∀ t ∈ before, GoodTag b t)
      (hfault : TagFault b token e) : Refuses b e
  /-- A token for files is bad, and none before it and none for tags. -/
  | file {before after : List (List Char)} {token : List Char} {e : Error}
      (htags : ∀ t ∈ b.tagTokens, GoodTag b t) (hcut : b.fileTokens = before ++ token :: after)
      (hbefore : ∀ t ∈ before, GoodFile b t) (hfault : FileFault b token e) : Refuses b e
  /-- There are too many tokens for tags. -/
  | tooManyTags (htags : ∀ t ∈ b.tagTokens, GoodTag b t)
      (hfiles : ∀ t ∈ b.fileTokens, GoodFile b t) (hmany : b.limit < b.tagTokens.length) :
      Refuses b (.rejected (.tooMany b.tagTokens.length b.limit))
  /-- There are too many tokens for files, but not for tags. -/
  | tooManyFiles (htags : ∀ t ∈ b.tagTokens, GoodTag b t)
      (hfiles : ∀ t ∈ b.fileTokens, GoodFile b t) (hfew : b.tagTokens.length ≤ b.limit)
      (hmany : b.limit < b.fileTokens.length) :
      Refuses b (.rejected (.tooMany b.fileTokens.length b.limit))

theorem limited_eq_error_iff {α : Type} {patterns : List α} {mode : Mode} {limit : Int}
    {reason : RejectedPattern} : limited patterns mode limit = .error reason ↔
      limit < patterns.length ∧ reason = .tooMany patterns.length limit := by
  unfold limited
  split
  · rename_i h
    simp [h, eq_comm]
  · rename_i h
    simp [h]

/-- What a row of good tokens is made into. -/
theorem mapM_compileTag_eq_ok_iff {patterns : List TagPattern} :
    b.tagTokens.mapM b.compileTag = .ok patterns ↔
      List.Forall₂ (MakesTag b) b.tagTokens patterns := by
  simp only [mapM_eq_ok_iff, compileTag_eq_ok_iff]

theorem mapM_compileFile_eq_ok_iff {patterns : List FilePattern} :
    b.fileTokens.mapM b.compileFile = .ok patterns ↔
      List.Forall₂ (MakesFile b) b.fileTokens patterns := by
  simp only [mapM_eq_ok_iff, compileFile_eq_ok_iff]

theorem build_eq_ok_iff : b.build tagMode fileMode = .ok (tags, files) ↔
    (tags.mode = tagMode ∧ files.mode = fileMode) ∧
      List.Forall₂ (MakesTag b) b.tagTokens tags.patterns ∧
      List.Forall₂ (MakesFile b) b.fileTokens files.patterns ∧
      b.tagTokens.length ≤ b.limit ∧ b.fileTokens.length ≤ b.limit := by
  unfold build
  simp only [bind_eq_ok_iff, mapM_compileTag_eq_ok_iff, mapM_compileFile_eq_ok_iff,
    mapError_eq_ok_iff, limited_eq_ok_iff]
  constructor
  · rintro ⟨ps, hps, qs, hqs, q, ⟨hp, rfl⟩, r, ⟨hq, rfl⟩, h⟩
    cases h
    rw [← hps.length_eq] at hp
    rw [← hqs.length_eq] at hq
    exact ⟨⟨rfl, rfl⟩, hps, hqs, hp, hq⟩
  · rintro ⟨⟨rfl, rfl⟩, hps, hqs, hp, hq⟩
    rw [hps.length_eq] at hp
    rw [hqs.length_eq] at hq
    exact ⟨_, hps, _, hqs, _, ⟨hp, rfl⟩, _, ⟨hq, rfl⟩, rfl⟩

theorem exists_mapM_compileTag_iff :
    (∃ patterns, b.tagTokens.mapM b.compileTag = .ok patterns) ↔
      ∀ t ∈ b.tagTokens, GoodTag b t := by
  simp only [exists_mapM_eq_ok_iff, exists_compileTag_iff]

theorem exists_mapM_compileFile_iff :
    (∃ patterns, b.fileTokens.mapM b.compileFile = .ok patterns) ↔
      ∀ t ∈ b.fileTokens, GoodFile b t := by
  simp only [exists_mapM_eq_ok_iff, exists_compileFile_iff]

theorem exists_build_iff : (∃ queries, b.build tagMode fileMode = .ok queries) ↔
    (∀ t ∈ b.tagTokens, GoodTag b t) ∧ (∀ t ∈ b.fileTokens, GoodFile b t) ∧
      b.tagTokens.length ≤ b.limit ∧ b.fileTokens.length ≤ b.limit := by
  rw [← exists_mapM_compileTag_iff, ← exists_mapM_compileFile_iff]
  simp only [mapM_compileTag_eq_ok_iff, mapM_compileFile_eq_ok_iff]
  constructor
  · rintro ⟨⟨tags, files⟩, h⟩
    obtain ⟨-, htags, hfiles, hlimits⟩ := build_eq_ok_iff.1 h
    exact ⟨⟨_, htags⟩, ⟨_, hfiles⟩, hlimits⟩
  · rintro ⟨⟨tags, htags⟩, ⟨files, hfiles⟩, hlimits⟩
    exact ⟨(⟨tags, tagMode⟩, ⟨files, fileMode⟩),
      build_eq_ok_iff.2 ⟨⟨rfl, rfl⟩, htags, hfiles, hlimits⟩⟩

theorem build_eq_error_iff : b.build tagMode fileMode = .error e ↔ Refuses b e := by
  have htags := @mapM_compileTag_eq_ok_iff b
  have hfiles := @mapM_compileFile_eq_ok_iff b
  unfold build
  simp only [bind_eq_error_iff, mapM_eq_error_iff, mapError_eq_error_iff, mapError_eq_ok_iff,
    limited_eq_error_iff, limited_eq_ok_iff, exists_compileTag_iff, exists_compileFile_iff,
    compileTag_eq_error_iff, compileFile_eq_error_iff]
  constructor
  · rintro (⟨before, token, after, hcut, hbefore, hfault⟩ | ⟨ps, hps, h⟩)
    · exact .tag hcut hbefore hfault
    have hgood := exists_mapM_compileTag_iff.1 ⟨ps, hps⟩
    rcases h with ⟨before, token, after, hcut, hbefore, hfault⟩ | ⟨qs, hqs, h⟩
    · exact .file hgood hcut hbefore hfault
    have hgoodFiles := exists_mapM_compileFile_iff.1 ⟨qs, hqs⟩
    rw [← (htags.1 hps).length_eq, ← (hfiles.1 hqs).length_eq] at h
    rcases h with ⟨_, ⟨hmany, rfl⟩, rfl⟩ | ⟨_, ⟨hfew, rfl⟩, ⟨_, ⟨hmany, rfl⟩, rfl⟩ | ⟨_, -, h⟩⟩
    · exact .tooManyTags hgood hgoodFiles hmany
    · exact .tooManyFiles hgood hgoodFiles hfew hmany
    · cases h
  · intro h
    cases h with
    | tag hcut hbefore hfault => exact .inl ⟨_, _, _, hcut, hbefore, hfault⟩
    | file hgood hcut hbefore hfault =>
      obtain ⟨ps, hps⟩ := exists_mapM_compileTag_iff.2 hgood
      exact .inr ⟨ps, hps, .inl ⟨_, _, _, hcut, hbefore, hfault⟩⟩
    | tooManyTags hgood hgoodFiles hmany =>
      obtain ⟨ps, hps⟩ := exists_mapM_compileTag_iff.2 hgood
      obtain ⟨qs, hqs⟩ := exists_mapM_compileFile_iff.2 hgoodFiles
      rw [(htags.1 hps).length_eq] at hmany ⊢
      exact .inr ⟨ps, hps, .inr ⟨qs, hqs, .inl ⟨_, ⟨hmany, rfl⟩, rfl⟩⟩⟩
    | tooManyFiles hgood hgoodFiles hfew hmany =>
      obtain ⟨ps, hps⟩ := exists_mapM_compileTag_iff.2 hgood
      obtain ⟨qs, hqs⟩ := exists_mapM_compileFile_iff.2 hgoodFiles
      rw [(htags.1 hps).length_eq] at hfew
      rw [(hfiles.1 hqs).length_eq] at hmany ⊢
      exact .inr ⟨ps, hps, .inr ⟨qs, hqs, .inr ⟨_, ⟨hfew, rfl⟩, .inl ⟨_, ⟨hmany, rfl⟩, rfl⟩⟩⟩⟩

end Builder

/-! ### Histories -/

/-- The flags of a builder. -/
inductive Flag where
  /-- Tags are search patterns. -/
  | regexTags
  /-- Files are search patterns. -/
  | regexFiles
  /-- Files are globs. -/
  | globFiles
  deriving DecidableEq, Repr

/-- What is done with a builder. -/
inductive Step where
  /-- A flag is set. -/
  | set (flag : Flag) (enabled : Bool)
  /-- Tokens are added on one side. -/
  | add (side : Side) (tokens : List (List Char))
  /-- Queries are built, or refused. -/
  | build (tagMode fileMode : Mode)

namespace Step

/-- The value that a step gives to a flag, if it does. -/
def valueOf? (flag : Flag) : Step → Option Bool
  | .set f enabled => if f = flag then some enabled else none
  | _ => none

/-- The tokens that a step adds on a side. -/
def tokensOf (side : Side) : Step → List (List Char)
  | .add s tokens => if s = side then tokens else []
  | _ => []

/-- The value that a flag was given last; a flag that was not set is off. -/
def lastValue (flag : Flag) (steps : List Step) : Bool :=
  (steps.filterMap (valueOf? flag)).getLastD false

/-- All the tokens of a side, in order. -/
def allTokens (side : Side) (steps : List Step) : List (List Char) :=
  steps.flatMap (tokensOf side)

variable {flag : Flag} {side : Side} {steps : List Step} {step : Step}

theorem lastValue_append :
    lastValue flag (steps ++ [step]) = (valueOf? flag step).getD (lastValue flag steps) := by
  unfold lastValue
  rw [List.filterMap_append]
  cases h : valueOf? flag step <;> simp [h]

theorem allTokens_append :
    allTokens side (steps ++ [step]) = allTokens side steps ++ tokensOf side step := by
  simp [allTokens]

end Step

namespace Builder

open Step

/-- The builder after a step. -/
def after (b : Builder) : Step → Builder
  | .set .regexTags enabled => b.setRegexTags enabled
  | .set .regexFiles enabled => b.setRegexFiles enabled
  | .set .globFiles enabled => b.setGlobFiles enabled
  | .add .tag tokens => b.addTags tokens
  | .add .file tokens => b.addFiles tokens
  | .build _ _ => b

/-- The builder after some steps. -/
def run (b : Builder) (steps : List Step) : Builder := steps.foldl after b

/-- The builder with what counts of some steps. -/
def settled (library : Regex.Library) (setting : Setting) (limit : Int) (steps : List Step) :
    Builder where
  library := library
  setting := setting
  limit := limit
  regexTags := lastValue .regexTags steps
  regexFiles := lastValue .regexFiles steps
  globFiles := lastValue .globFiles steps
  tagTokens := allTokens .tag steps
  fileTokens := allTokens .file steps

variable {setting : Setting} {limit : Int} {steps : List Step} {step : Step}

theorem run_append (b : Builder) : b.run (steps ++ [step]) = (b.run steps).after step := by
  simp [run]

/-- One more step counts as it changes the builder. -/
theorem settled_append :
    settled library setting limit (steps ++ [step]) =
      (settled library setting limit steps).after step := by
  simp only [settled, lastValue_append, allTokens_append]
  cases step with
  | set flag enabled => cases flag <;> simp [after, setRegexTags, setRegexFiles, setGlobFiles,
      valueOf?, tokensOf]
  | add side tokens => cases side <;> simp [after, addTags, addFiles, valueOf?, tokensOf]
  | build tagMode fileMode => simp [after, valueOf?, tokensOf]

/-- **Only the last flags and the tokens in order are left of a history.** -/
theorem run_new (steps : List Step) :
    (new setting limit library).run steps = settled library setting limit steps := by
  induction steps using List.reverseRecOn with
  | nil => rfl
  | append_singleton steps step ih => rw [run_append, ih, settled_append]

/-- **What is built after any steps**, whatever search patterns are compiled with: it is told from
the flags as set last and the tokens in order, it fails with the first fault of the tags, then of
the files, then of the numbers, and it leaves the builder as it was. -/
theorem build_run (library : Regex.Library) (setting : Setting) (limit : Int) (steps : List Step)
    (tagMode fileMode : Mode) :
    let b := settled library setting limit steps
    let built := ((new setting limit library).run steps).build tagMode fileMode
    ((∃ queries, built = .ok queries) ↔
      (∀ t ∈ b.tagTokens, GoodTag b t) ∧ (∀ t ∈ b.fileTokens, GoodFile b t) ∧
        b.tagTokens.length ≤ limit ∧ b.fileTokens.length ≤ limit) ∧
    (∀ tags files, built = .ok (tags, files) →
      (tags.mode = tagMode ∧ files.mode = fileMode) ∧
        List.Forall₂ (MakesTag b) b.tagTokens tags.patterns ∧
        List.Forall₂ (MakesFile b) b.fileTokens files.patterns) ∧
    (∀ e, built = .error e ↔ Refuses b e) ∧
    (new setting limit library).run (steps ++ [.build tagMode fileMode]) =
      (new setting limit library).run steps := by
  intro b built
  have hbuilt : built = b.build tagMode fileMode := by
    simp only [built, b, run_new]
  rw [hbuilt]
  refine ⟨exists_build_iff, fun tags files h => ?_, fun e => build_eq_error_iff, ?_⟩
  · obtain ⟨hmodes, htags, hfiles, -⟩ := build_eq_ok_iff.1 h
    exact ⟨hmodes, htags, hfiles⟩
  · rw [run_append]
    rfl

end Builder

end FileSieve.Query
