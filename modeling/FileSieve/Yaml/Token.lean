import FileSieve.Yaml.Text

/-!
# Tokens of a YAML document

A document is cut into tokens. In a block, more indentation opens a list or a mapping, and less
closes it. A key is known only by the colon after it, so the places where one may have started
are remembered, and the tokens that open a mapping and a key are put there later.

* `insertAt_length`: putting a token between others adds exactly one.
-/

namespace FileSieve.Yaml

/-- A token. -/
inductive Token where
  /-- A list in a block begins. -/
  | blockList
  /-- A mapping in a block begins. -/
  | blockMapping
  /-- A list or a mapping in a block ends. -/
  | blockEnd
  /-- A list in a flow begins. -/
  | flowList
  /-- A list in a flow ends. -/
  | flowListEnd
  /-- A mapping in a flow begins. -/
  | flowMapping
  /-- A mapping in a flow ends. -/
  | flowMappingEnd
  /-- A comma in a flow. -/
  | comma
  /-- A dash before an item. -/
  | item
  /-- A key follows. -/
  | key
  /-- The value of a key follows. -/
  | value
  /-- A document begins. -/
  | documentStart
  /-- A document ends. -/
  | documentEnd
  /-- A text, plain or not. -/
  | scalar (text : List Char) (isPlain : Bool)
  deriving DecidableEq, Repr

/-- A place where a key may have started. -/
structure KeyPlace where
  /-- How many tokens come before. -/
  tokens : Nat
  /-- How many characters come before. -/
  index : Nat
  /-- The line. -/
  line : Nat
  /-- The column. -/
  column : Nat
  /-- Does a key have to start there? -/
  isRequired : Bool
  deriving Repr

/-- A document of which a part has been cut into tokens. -/
structure Scan where
  /-- Where the rest begins. -/
  cursor : Cursor
  /-- The tokens, in order. -/
  tokens : List Token
  /-- The indentations that are open, innermost first. -/
  indents : List Int
  /-- How many flows are open. -/
  flows : Nat
  /-- May a key start here? -/
  keyAllowed : Bool
  /-- Where keys may have started, by the number of flows that were open. -/
  keys : List (Nat × KeyPlace)
  deriving Repr

/-- The longest key that needs no mark, in characters. -/
def maxKeyLength : Nat := 1024

/-- A list with another element after so many. -/
def insertAt {α : Type} (n : Nat) (a : α) (items : List α) : List α :=
  items.take n ++ a :: items.drop n

theorem insertAt_length {α : Type} {n : Nat} {a : α} {items : List α} :
    (insertAt n a items).length = items.length + 1 := by
  simp [insertAt]; omega

namespace Scan

/-- A document before anything was read, but for a mark of the byte order at its start. -/
def start (s : List Char) : Scan :=
  let c := Cursor.start s
  ⟨if c.peek 0 = some byteOrderMark then c.next else c, [], [], 0, true, []⟩

/-- The indentation of the innermost block. -/
def indent (s : Scan) : Int := s.indents.headD (-1)

/-- The column of the rest. -/
def column (s : Scan) : Int := s.cursor.column

/-- More tokens. -/
def emit (s : Scan) (tokens : List Token) : Scan := { s with tokens := s.tokens ++ tokens }

/-- The place so many characters ahead. -/
def skip (s : Scan) (n : Nat) : Scan := { s with cursor := s.cursor.skip n }

/-- Says whether a key may start here. -/
def allowKey (s : Scan) (keyAllowed : Bool) : Scan := { s with keyAllowed }

/-! ### Indentation -/

/-- The indentations that stay open at a column, and how many are closed. -/
def unwound (column : Int) : List Int → List Int × Nat
  | [] => ([], 0)
  | indent :: rest =>
    if column < indent then ((unwound column rest).1, (unwound column rest).2 + 1)
    else (indent :: rest, 0)

/-- Closes the blocks that are further in than a column. -/
def unwind (s : Scan) (column : Int) : Scan :=
  if s.flows = 0 then
    let (indents, closed) := unwound column s.indents
    { s with indents, tokens := s.tokens ++ List.replicate closed .blockEnd }
  else s

/-- Opens a block at a column if that is further in, with a token after so many others. -/
def openBlock (s : Scan) (column : Int) (place : Nat) (token : Token) : Scan :=
  if s.flows = 0 ∧ s.indent < column then
    { s with indents := column :: s.indents, tokens := insertAt place token s.tokens }
  else s

/-! ### Places of keys -/

/-- Forgets the place of a key, which must not be required. -/
def forgetKey (s : Scan) : Except Error Scan :=
  match s.keys.lookup s.flows with
  | none => .ok s
  | some place =>
    if place.isRequired then .error .malformed
    else .ok { s with keys := s.keys.filter (·.1 ≠ s.flows) }

/-- Remembers that a key may start here. -/
def rememberKey (s : Scan) : Except Error Scan :=
  if s.keyAllowed then do
    let s ← s.forgetKey
    let required := s.flows = 0 ∧ s.indent = s.column
    let place : KeyPlace :=
      ⟨s.tokens.length, s.cursor.index, s.cursor.line, s.cursor.column, required⟩
    return { s with keys := (s.flows, place) :: s.keys }
  else .ok s

/-- Is the place too far back for a key? -/
def isStale (s : Scan) (place : KeyPlace) : Bool :=
  place.line ≠ s.cursor.line || maxKeyLength < s.cursor.index - place.index

/-- Forgets the places that are too far back. -/
def forgetStale (s : Scan) : Except Error Scan :=
  if s.keys.any fun (_, place) => s.isStale place && place.isRequired then .error .malformed
  else .ok { s with keys := s.keys.filter fun (_, place) => !s.isStale place }

/-! ### Single tokens -/

/-- Goes to the next token, past blanks, comments and line ends. -/
def toToken : Nat → Scan → Scan
  | 0, s => s
  | fuel + 1, s =>
    let c := s.cursor.skipWhile (· == ' ')
    let c := if c.peek 0 = some '#' then c.skipWhile (!isBreak ·) else c
    match c.lineBreak? with
    | some (_, c) => toToken fuel { s with cursor := c, keyAllowed := s.keyAllowed || s.flows = 0 }
    | none => { s with cursor := c }

/-- A token of three characters about the document as a whole. -/
def documentToken (s : Scan) (token : Token) : Except Error Scan := do
  let s ← (s.unwind (-1)).forgetKey
  return ((s.allowKey false).skip 3).emit [token]

/-- A bracket that opens a flow. -/
def openFlow (s : Scan) (token : Token) : Except Error Scan := do
  let s ← s.rememberKey
  return (({ s with flows := s.flows + 1 }.allowKey true).skip 1).emit [token]

/-- A bracket that closes a flow. -/
def closeFlow (s : Scan) (token : Token) : Except Error Scan := do
  let s ← s.forgetKey
  if s.flows = 0 then .error .malformed
  else return (({ s with flows := s.flows - 1 }.allowKey false).skip 1).emit [token]

/-- A comma. -/
def commaToken (s : Scan) : Except Error Scan := do
  return ((← (s.allowKey true).forgetKey).skip 1).emit [.comma]

/-- A dash before an item. -/
def itemToken (s : Scan) : Except Error Scan := do
  if s.flows = 0 ∧ !s.keyAllowed then .error .malformed
  else
    let s := s.openBlock s.column s.tokens.length .blockList
    return ((← (s.allowKey true).forgetKey).skip 1).emit [.item]

/-- A question mark before a key. -/
def keyToken (s : Scan) : Except Error Scan := do
  if s.flows = 0 ∧ !s.keyAllowed then .error .malformed
  else
    let s := s.openBlock s.column s.tokens.length .blockMapping
    return ((← (s.allowKey (s.flows = 0)).forgetKey).skip 1).emit [.key]

/-- A colon before a value: what stands at the remembered place before it is the key. -/
def valueToken (s : Scan) : Except Error Scan := do
  match s.keys.lookup s.flows with
  | some place =>
    let s := { s with
      keys := s.keys.filter (·.1 ≠ s.flows), tokens := insertAt place.tokens .key s.tokens }
    let s := s.openBlock place.column place.tokens .blockMapping
    return ((s.allowKey false).skip 1).emit [.value]
  | none =>
    if s.flows = 0 ∧ !s.keyAllowed then .error .malformed
    else
      let s := s.openBlock s.column s.tokens.length .blockMapping
      return ((← (s.allowKey (s.flows = 0)).forgetKey).skip 1).emit [.value]

/-- A block of lines. -/
def blockToken (s : Scan) (isFolded : Bool) : Except Error Scan := do
  let s ← (s.allowKey true).forgetKey
  let (text, cursor) ← blockText isFolded s.indent s.cursor.next
  return { s with cursor }.emit [.scalar text false]

/-- A quoted text. -/
def quotedToken (s : Scan) (quote : Char) : Except Error Scan := do
  let s ← s.rememberKey
  let (text, cursor) ← quotedText quote s.cursor.next
  return ({ s with cursor }.allowKey false).emit [.scalar text false]

/-- A plain text. -/
def plainToken (s : Scan) : Except Error Scan := do
  let s ← s.rememberKey
  let (text, broken, cursor) := plain (s.flows ≠ 0) (s.indent + 1) s.cursor
  return ({ s with cursor }.allowKey broken).emit [.scalar text true]

/-- Characters that start no plain text, unless a word goes on behind some of them. -/
def indicators : List Char :=
  ['-', '?', ':', ',', '[', ']', '\x7b', '\x7d', '#', '&', '*', '!', '|', '>', '\'', '"', '%',
    '@', '\x60']

/-- May a plain text start with this character, given the one behind it? -/
def startsPlain (inFlow : Bool) (c : Char) (behind : Option Char) : Bool :=
  !(endsWord (some c) || indicators.contains c) ||
    (!endsWord behind && (c == '-' || (!inFlow && (c == '?' || c == ':'))))

/-- The next token, which starts with the given character. -/
def token (s : Scan) (c : Char) : Except Error Scan :=
  let behind := s.cursor.peek 1
  let inFlow : Bool := s.flows ≠ 0
  if s.column = 0 ∧ c = '%' then .error .malformed
  else if s.column = 0 ∧ s.cursor.atWord ['-', '-', '-'] then s.documentToken .documentStart
  else if s.column = 0 ∧ s.cursor.atWord ['.', '.', '.'] then s.documentToken .documentEnd
  else if c = '[' then s.openFlow .flowList
  else if c = '\x7b' then s.openFlow .flowMapping
  else if c = ']' then s.closeFlow .flowListEnd
  else if c = '\x7d' then s.closeFlow .flowMappingEnd
  else if c = ',' then s.commaToken
  else if c = '-' ∧ endsWord behind then s.itemToken
  else if c = '?' ∧ (inFlow || endsWord behind) then s.keyToken
  else if c = ':' ∧ (inFlow || endsWord behind) then s.valueToken
  else if c = '|' ∧ !inFlow then s.blockToken false
  else if c = '>' ∧ !inFlow then s.blockToken true
  else if c = '\'' ∨ c = '"' then s.quotedToken c
  else if startsPlain inFlow c behind then s.plainToken
  else .error .malformed

/-! ### All tokens -/

/-- The end of the document. -/
def finish (s : Scan) : Except Error (List Token) := do
  return (← (s.unwind (-1)).forgetKey).tokens

/-- The tokens of a document of which a part was read. -/
def run : Nat → Scan → Except Error (List Token)
  | 0, s => s.finish
  | fuel + 1, s => do
    let s ← (toToken (s.cursor.rest.length + 1) s).forgetStale
    let s := s.unwind s.column
    match s.cursor.peek 0 with
    | none => s.finish
    | some c => run fuel (← s.token c)

end Scan

/-- The tokens of a document. -/
def tokens (s : List Char) : Except Error (List Token) :=
  Scan.run (s.length + 1) (.start s)

end FileSieve.Yaml
