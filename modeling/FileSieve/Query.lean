import FileSieve.FileRef
import FileSieve.Query.Error

/-!
# Patterns and queries

Tags are matched literally or by a search pattern; files literally, by a search pattern, or by a
glob. Patterns are compared by kind and source text. A query is a limited number of patterns with
the mode in which their answers are combined.

* `TagPattern.source_of_literal`, `FilePattern.source_of_glob`: a pattern keeps its source text.
* `limited_eq_ok_iff`: a query has at most as many patterns as its limit says.
-/

namespace FileSieve

namespace Query

/-! ### Search patterns -/

/-- Compiles a search pattern. -/
def compileRegex (source : List Char) (library : Regex.Library := .plain) :
    Except Error Regex :=
  match Regex.compile source library with
  | .ok regex => .ok regex
  | .error (.malformed fault position) =>
    .error (.rejected (.badRegex source (fault.reason source position).toList))
  | .error .repeatTooLarge => .error .repeatTooLarge
  | .error .numeralTooLong => .error .numeralTooLong
  | .error .bothCharsets => .error .bothCharsets
  | .error .tooDeep => .error .tooDeep

/-! ### Tag patterns -/

/-- A pattern for tags. -/
inductive TagPattern where
  /-- The tag itself. -/
  | literal (source : List Char)
  /-- A search pattern that matches somewhere in the tag. -/
  | regex (source : List Char) (compiled : Regex)
  deriving DecidableEq, Repr

namespace TagPattern

/-- The source text of a pattern. -/
def source : TagPattern → List Char
  | .literal source => source
  | .regex source _ => source

/-- Is it a search pattern? -/
def isRegex : TagPattern → Bool
  | .regex _ _ => true
  | .literal _ => false

/-- Reads a literal pattern. -/
def readLiteral (source : List Char) : Except Error TagPattern :=
  if source = [] then .error (.rejected (.empty .tag)) else .ok (.literal source)

/-- Reads a search pattern. -/
def readRegex (source : List Char) (library : Regex.Library := .plain) :
    Except Error TagPattern :=
  if source = [] then .error (.rejected (.empty .tag))
  else .regex source <$> compileRegex source library

/-- Does the pattern match a tag? -/
def accepts (tag : List Char) : TagPattern → Bool
  | .literal source => tag = source
  | .regex _ compiled => compiled.search tag

/-- The search pattern, if it is one. -/
def asRegex : TagPattern → Except RejectedPattern Regex
  | .regex _ compiled => .ok compiled
  | .literal source => .error (.notOfKind .tag source "regex")

/-- Are two patterns of the same kind and source text? -/
def same (a b : TagPattern) : Bool :=
  a.isRegex == b.isRegex && a.source = b.source

theorem source_of_literal {s : List Char} {pattern : TagPattern}
    (h : readLiteral s = .ok pattern) : pattern.source = s := by
  unfold readLiteral at h
  split at h <;> cases h
  rfl

end TagPattern

/-! ### File patterns -/

/-- A pattern for files. -/
inductive FilePattern where
  /-- The path itself, however it is spelled. -/
  | literal (source : List Char)
  /-- A search pattern that matches somewhere in the path text. -/
  | regex (source : List Char) (compiled : Regex)
  /-- A glob that takes the whole path text. -/
  | glob (source : List Char) (compiled : Glob)
  deriving DecidableEq, Repr

namespace FilePattern

/-- The source text of a pattern. -/
def source : FilePattern → List Char
  | .literal source => source
  | .regex source _ => source
  | .glob source _ => source

/-- Is it a search pattern? -/
def isRegex : FilePattern → Bool
  | .regex _ _ => true
  | _ => false

/-- Is it a glob? -/
def isGlob : FilePattern → Bool
  | .glob _ _ => true
  | _ => false

/-- Reads a literal pattern. -/
def readLiteral (source : List Char) : Except Error FilePattern :=
  if source = [] then .error (.rejected (.empty .file)) else .ok (.literal source)

/-- Reads a search pattern. -/
def readRegex (source : List Char) (library : Regex.Library := .plain) :
    Except Error FilePattern :=
  if source = [] then .error (.rejected (.empty .file))
  else .regex source <$> compileRegex source library

/-- Reads a glob. -/
def readGlob (source : List Char) (library : Regex.Library := .plain) :
    Except Error FilePattern :=
  if source = [] then .error (.rejected (.empty .file))
  else
    match Glob.ofText source library with
    | .ok compiled => .ok (.glob source compiled)
    | .error refusal => .error (.rejected (.badGlob source refusal.reason.toList))

/-- Does the pattern match a file? -/
def accepts (file : FileRef) : FilePattern → Bool
  | .literal source => file.path = Path.ofText source
  | .regex _ compiled => compiled.search file.text
  | .glob _ compiled => compiled.takes file.text

/-- The search pattern, if it is one. -/
def asRegex : FilePattern → Except RejectedPattern Regex
  | .regex _ compiled => .ok compiled
  | pattern => .error (.notOfKind .file pattern.source "regex")

/-- The glob, if it is one. -/
def asGlob : FilePattern → Except RejectedPattern Glob
  | .glob _ compiled => .ok compiled
  | pattern => .error (.notOfKind .file pattern.source "glob")

/-- Are two patterns of the same kind and source text? -/
def same (a b : FilePattern) : Bool :=
  a.isRegex == b.isRegex && a.isGlob == b.isGlob && a.source = b.source

theorem source_of_glob {library : Regex.Library} {s : List Char} {pattern : FilePattern}
    (h : readGlob s library = .ok pattern) : pattern.source = s := by
  unfold readGlob at h
  split at h
  · cases h
  · split at h <;> cases h
    rfl

end FilePattern

/-! ### Queries -/

/-- How the answers of several patterns are combined. -/
inductive Mode where
  /-- Every pattern must match. -/
  | all
  /-- One pattern must match. -/
  | any
  deriving DecidableEq, Repr

/-- The word for a mode. -/
def Mode.word : Mode → String
  | .all => "all"
  | .any => "any"

/-- Both modes. -/
def Mode.both : List Mode := [.all, .any]

/-- The mode with a word. -/
def Mode.ofWord? (s : List Char) : Option Mode :=
  both.find? fun mode => mode.word.toList = s

/-- The number of patterns a query may have. -/
def defaultLimit : Int := 1000

end Query

/-- Patterns and the mode in which their answers are combined. -/
structure Query (pattern : Type) where
  /-- The patterns, in order. -/
  patterns : List pattern
  /-- How their answers are combined. -/
  mode : Query.Mode
  deriving Repr

namespace Query

/-- A query of the given patterns, if there are not too many of them. -/
def limited {α : Type} (patterns : List α) (mode : Mode) (limit : Int) :
    Except RejectedPattern (Query α) :=
  if limit < patterns.length then .error (.tooMany patterns.length limit)
  else .ok ⟨patterns, mode⟩

theorem limited_eq_ok_iff {α : Type} {patterns : List α} {mode : Mode} {limit : Int}
    {query : Query α} :
    limited patterns mode limit = .ok query ↔
      patterns.length ≤ limit ∧ query = ⟨patterns, mode⟩ := by
  unfold limited
  split
  · simp; omega
  · simp only [Except.ok.injEq]
    constructor
    · rintro rfl; exact ⟨by omega, rfl⟩
    · rintro ⟨-, rfl⟩; rfl

end Query

end FileSieve
