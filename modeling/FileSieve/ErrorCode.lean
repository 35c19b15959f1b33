/-!
# Error codes

Numbers that tell apart the outcomes of an operation.

* `number_injective`: different codes have different numbers.
-/

namespace FileSieve

/-- The outcome of an operation. -/
inductive ErrorCode where
  | success
  | invalidInput
  | notFound
  | permissionDenied
  | conflict
  | dependencyError
  | internalError
  | unsupported
  deriving DecidableEq, Repr

namespace ErrorCode

/-- All codes, by number. -/
def all : List ErrorCode :=
  [.success, .invalidInput, .notFound, .permissionDenied, .conflict, .dependencyError,
    .internalError, .unsupported]

/-- The number of a code. -/
def number : ErrorCode → Nat
  | .success => 0
  | .invalidInput => 1
  | .notFound => 2
  | .permissionDenied => 3
  | .conflict => 4
  | .dependencyError => 5
  | .internalError => 6
  | .unsupported => 7

/-- The name of a code. -/
def name : ErrorCode → String
  | .success => "SUCCESS"
  | .invalidInput => "INVALID_INPUT"
  | .notFound => "NOT_FOUND"
  | .permissionDenied => "PERMISSION_DENIED"
  | .conflict => "CONFLICT"
  | .dependencyError => "DEPENDENCY_ERROR"
  | .internalError => "INTERNAL_ERROR"
  | .unsupported => "UNSUPPORTED"

/-- The code with a number. -/
def ofNumber? (n : Nat) : Option ErrorCode :=
  all.find? (·.number = n)

theorem number_injective {a b : ErrorCode} (h : a.number = b.number) : a = b := by
  cases a <;> cases b <;> first | rfl | exact absurd h (by decide)

end ErrorCode

end FileSieve
