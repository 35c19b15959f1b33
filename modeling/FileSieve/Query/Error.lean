import FileSieve.ErrorCode
import FileSieve.Glob
import FileSieve.Regex.Error

/-!
# Why a query is refused

Every refusal has a message and a code. Beside refusals there are four ways in which compiling a
search pattern breaks down.
-/

namespace FileSieve.Query

/-- The two sides of a query. -/
inductive Side where
  /-- Patterns for tags. -/
  | tag
  /-- Patterns for files. -/
  | file
  deriving DecidableEq, Repr

/-- The word for a side. -/
def Side.word : Side → String
  | .tag => "tag"
  | .file => "file"

/-- A refusal. -/
inductive RejectedPattern where
  /-- A refusal in other words. -/
  | other (message : List Char) (code : ErrorCode)
  /-- An empty token. -/
  | empty (side : Side)
  /-- A token that is no search pattern. -/
  | badRegex (pattern : List Char) (reason : List Char)
  /-- A token that is no glob. -/
  | badGlob (pattern : List Char) (reason : List Char)
  /-- A token where its kind of pattern is not allowed. -/
  | misplaced (detail : List Char)
  /-- More patterns than a query may have. -/
  | tooMany (provided limit : Int)
  /-- Something that is known but not offered. -/
  | unsupported (feature : List Char)
  /-- A pattern taken for one of another kind. -/
  | otherKind (detail : List Char)
  deriving DecidableEq, Repr

namespace RejectedPattern

/-- The message of a refusal. -/
def message : RejectedPattern → List Char
  | .other message _ => message
  | .empty side => ("Empty " ++ side.word ++ " pattern provided").toList
  | .badRegex pattern reason =>
    "Invalid regex pattern '".toList ++ pattern ++ '\'' :: ':' :: ' ' :: reason
  | .badGlob pattern reason =>
    "Invalid glob pattern '".toList ++ pattern ++ '\'' :: ':' :: ' ' :: reason
  | .misplaced detail => "Mixed pattern misuse: ".toList ++ detail
  | .tooMany provided limit =>
    ("Too many patterns provided: " ++ toString provided ++ " (max " ++ toString limit ++
      ")").toList
  | .unsupported feature => "Unsupported feature: ".toList ++ feature
  | .otherKind detail => "Incompatible conversion: ".toList ++ detail

/-- The code of a refusal. -/
def code : RejectedPattern → ErrorCode
  | .other _ code => code
  | .misplaced _ => .conflict
  | .unsupported _ => .unsupported
  | _ => .invalidInput

/-- A glob-like token among the tags. -/
def globLikeTag (token : List Char) : RejectedPattern :=
  .misplaced ("Glob-like token '".toList ++ token ++
    ("' supplied as tag. Use --regex-tag to match tags by pattern, --glob-files for file " ++
      "patterns, or remove the wildcards.").toList)

/-- A pattern that was taken for one of the given kind. -/
def notOfKind (side : Side) (pattern : List Char) (kind : String) : RejectedPattern :=
  .otherKind (side.word.toList ++ " pattern '".toList ++ pattern ++
    ("' is not a " ++ kind ++ " pattern").toList)

end RejectedPattern

/-- What can go wrong when a query is compiled. -/
inductive Error where
  /-- The query is refused. -/
  | rejected (reason : RejectedPattern)
  /-- A repeat count is too large. -/
  | repeatTooLarge
  /-- A numeral in a search pattern is too long to be read. -/
  | numeralTooLong
  /-- A search pattern chooses both charsets. -/
  | bothCharsets
  /-- The groups of a search pattern lie too deep inside each other. -/
  | tooDeep
  deriving DecidableEq, Repr

end FileSieve.Query
