import FileSieve.Glob.Basic
import FileSieve.Regex.Match

/-!
# Glob matchers

A glob is matched through a search pattern that takes a whole text: every token becomes a piece
of pattern text, and the pieces stand in a group in which the dot takes any character.
-/

namespace FileSieve

open Text Regex

/-! ### Pattern text -/

/-- The pattern text of a class member. -/
def Glob.ClassItem.patternText : ClassItem → List Char
  | .single c => verbatim c
  | .range low high => verbatim low ++ '-' :: verbatim high

/-- The pattern text of a token. -/
def Glob.Token.patternText : Token → List Char
  | .char c => verbatim c
  | .any => ['.']
  | .run | .rest => ['.', '*']
  | .directories => "(?:.*/)?".toList
  | .oneOf negated items =>
    (if negated then ['[', '^'] else ['[']) ++ items.flatMap ClassItem.patternText ++ [']']

/-- The pattern text of a row of tokens. -/
def Glob.bodyText (tokens : List Token) : List Char :=
  tokens.flatMap Token.patternText

/-- The pattern text that takes whole texts only. -/
def Glob.patternText (tokens : List Token) : List Char :=
  "(?s:".toList ++ bodyText tokens ++ ")\\Z".toList

/-! ### Refusals -/

/-- Why a text is no glob. -/
inductive Glob.Error where
  /-- The text breaks a rule for globs. -/
  | malformed (fault : Fault)
  /-- Its search pattern is refused. -/
  | pattern (error : Regex.Error)
  deriving DecidableEq, Repr

/-- A text that is refused as a glob. -/
structure Glob.Refusal where
  /-- The text. -/
  text : List Char
  /-- Why it is refused. -/
  error : Error
  deriving DecidableEq, Repr

namespace Glob

/-- The reason of a refusal, in words; the search pattern of a well-formed glob is never
refused. -/
def Refusal.reason (refusal : Refusal) : String :=
  match refusal.error with
  | .malformed fault => fault.message
  | .pattern _ => "invalid search pattern"

/-- A refusal together with the glob. -/
def Refusal.message (refusal : Refusal) : String :=
  refusal.reason ++ " in '" ++ .ofList refusal.text ++ "'"

/-- The search pattern of a glob text, as text. -/
def searchText (s : List Char) : Except Refusal (List Char) :=
  patternText <$> (parse s).mapError fun fault => ⟨s, .malformed fault⟩

end Glob

/-! ### Matchers -/

/-- A glob that is ready to match. -/
structure Glob where
  /-- The text it was read from. -/
  text : List Char
  /-- The search pattern it is matched by. -/
  regex : Regex
  deriving DecidableEq, Repr

namespace Glob

/-- Reads a glob. -/
def ofText (s : List Char) (library : Regex.Library := .plain) : Except Refusal Glob := do
  let pattern ← searchText s
  let regex ← (Regex.compile pattern library).mapError fun error => ⟨s, .pattern error⟩
  return ⟨s, regex⟩

/-- Does the glob take the whole text? -/
def takes (glob : Glob) (s : List Char) : Bool :=
  glob.regex.matchesFront s

/-- How a glob is shown. -/
def shown (glob : Glob) : String :=
  "GlobPattern(" ++ .ofList (quoted glob.text) ++ ")"

end Glob

end FileSieve
