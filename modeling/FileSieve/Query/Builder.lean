import FileSieve.Journal
import FileSieve.Query

/-!
# Building queries

A builder collects tokens and flags and compiles them into a tag query and a file query. What a
token becomes depends on the flags and, for files, on where the query is used; what a search pattern
is compiled with is given beforehand.

* `compileTag_of_globLike`: without the flag for search patterns a glob-like tag is refused.
-/

namespace FileSieve.Query

/-- Where a query is used. -/
inductive Setting where
  /-- On many files at once: a glob-like file token is a glob. -/
  | bulk
  /-- In a search: globs have to be asked for. -/
  | search
  deriving DecidableEq, Repr

/-- The word for a setting. -/
def Setting.word : Setting → String
  | .bulk => "bulk"
  | .search => "search"

/-- The setting with a word. -/
def Setting.ofWord? (s : List Char) : Option Setting :=
  [Setting.bulk, .search].find? fun setting => setting.word.toList = s

/-- The flags and tokens of two queries in the making. -/
structure Builder where
  /-- What search patterns are compiled with. -/
  library : Regex.Library
  /-- Where the queries are used. -/
  setting : Setting
  /-- How many patterns each query may have. -/
  limit : Int
  /-- Are tags search patterns? -/
  regexTags : Bool
  /-- Are files search patterns? -/
  regexFiles : Bool
  /-- Are files globs? -/
  globFiles : Bool
  /-- The tag tokens, in order. -/
  tagTokens : List (List Char)
  /-- The file tokens, in order. -/
  fileTokens : List (List Char)

namespace Builder

/-- A builder without flags and tokens. -/
def new (setting : Setting) (limit : Int) (library : Regex.Library := .plain) : Builder :=
  ⟨library, setting, limit, false, false, false, [], []⟩

variable (b : Builder)

/-- Takes tags for search patterns, or no longer does. -/
def setRegexTags (enabled : Bool) : Builder := { b with regexTags := enabled }

/-- Takes files for search patterns, or no longer does. -/
def setRegexFiles (enabled : Bool) : Builder := { b with regexFiles := enabled }

/-- Takes files for globs, or no longer does. -/
def setGlobFiles (enabled : Bool) : Builder := { b with globFiles := enabled }

/-- Adds tag tokens. -/
def addTags (tokens : List (List Char)) : Builder :=
  { b with tagTokens := b.tagTokens ++ tokens }

/-- Adds file tokens. -/
def addFiles (tokens : List (List Char)) : Builder :=
  { b with fileTokens := b.fileTokens ++ tokens }

/-- The pattern of a tag token. -/
def compileTag (token : List Char) : Except Error TagPattern :=
  if b.regexTags then TagPattern.readRegex token b.library
  else if Glob.looksLike token then .error (.rejected (.globLikeTag token))
  else TagPattern.readLiteral token

/-- The pattern of a file token. -/
def compileFile (token : List Char) : Except Error FilePattern :=
  if b.regexFiles then FilePattern.readRegex token b.library
  else if b.globFiles || (b.setting == .bulk && Glob.looksLike token) then
    FilePattern.readGlob token b.library
  else FilePattern.readLiteral token

/-- Both queries: the tokens are compiled, tags first, and then counted. -/
def build (tagMode fileMode : Mode) : Except Error (Query TagPattern × Query FilePattern) := do
  let tags ← b.tagTokens.mapM b.compileTag
  let files ← b.fileTokens.mapM b.compileFile
  let tagQuery ← (limited tags tagMode b.limit).mapError .rejected
  let fileQuery ← (limited files fileMode b.limit).mapError .rejected
  return (tagQuery, fileQuery)

/-- What is noted about queries that were built. -/
def builtEvent (tags : Query TagPattern) (files : Query FilePattern) : Journal.Event :=
  .of "Built pattern queries"
    [("pattern_context", .text b.setting.word.toList), ("tags", .int tags.patterns.length),
      ("files", .int files.patterns.length),
      ("globs", .int (files.patterns.countP FilePattern.isGlob))]

variable {b} {token : List Char}

theorem compileTag_of_globLike (hflag : b.regexTags = false)
    (hglob : Glob.looksLike token = true) :
    b.compileTag token = .error (.rejected (.globLikeTag token)) := by
  simp [compileTag, hflag, hglob]

end Builder

end FileSieve.Query
