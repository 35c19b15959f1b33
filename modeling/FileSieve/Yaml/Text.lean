import FileSieve.Yaml.Cursor

/-!
# Texts in YAML

How the texts of a document are read: plain ones, quoted ones, and blocks of lines. A line break
inside a text counts as a space; several count one less.
-/

namespace FileSieve.Yaml

/-- Why a document is not read. -/
inductive Error where
  /-- It is malformed, or uses what is not offered. -/
  | malformed
  /-- Reading it breaks off, as on a number that cannot be read. -/
  | brokeOff
  deriving DecidableEq, Repr

/-- A line break and those after it, as they count inside a text. -/
def folded (first : Char) (more : List Char) : List Char :=
  (if first ≠ '\n' then [first] else if more.isEmpty then [' '] else []) ++ more

/-! ### Plain texts -/

/-- The length of a plain word. In a flow some more characters end it. -/
def wordLength (inFlow : Bool) : List Char → Nat
  | [] => 0
  | c :: rest =>
    let ends := endsWord (some c) ||
      (c == ':' && (endsWord rest.head? ||
        (inFlow && rest.head?.any fun d => [',', '[', ']', '\x7b', '\x7d'].contains d))) ||
      (inFlow && [',', '?', '[', ']', '\x7b', '\x7d'].contains c)
    if ends then 0 else wordLength inFlow rest + 1

/-- The line breaks up to the next word; nothing if the document ends there. -/
def gapBreaks : Nat → List Char → Cursor → Option (List Char) × Cursor
  | 0, breaks, c => (some breaks, c)
  | fuel + 1, breaks, c =>
    if c.peek 0 = some ' ' then gapBreaks fuel breaks c.next
    else
      match c.lineBreak? with
      | none => (some breaks, c)
      | some (b, c) => if c.atMarker then (none, c) else gapBreaks fuel (breaks ++ [b]) c

/-- What stands between two plain words, and whether it has a line break. Nothing stands there if
the text is over. -/
def gap (c : Cursor) : List Char × Bool × Cursor :=
  let spaces := c.rest.takeWhile (· == ' ')
  let c := c.skip spaces.length
  match c.lineBreak? with
  | none => (spaces, false, c)
  | some (first, c) =>
    if c.atMarker then ([], true, c)
    else
      match gapBreaks c.rest.length [] c with
      | (none, c) => ([], true, c)
      | (some more, c) => (folded first more, true, c)

/-- A plain text after what was read of it and the blanks since: the whole text, whether a line
break came last, and the place behind. -/
def plainFrom (inFlow : Bool) (indent : Int) :
    Nat → List Char → List Char → Bool → Cursor → List Char × Bool × Cursor
  | 0, text, _, broken, c => (text, broken, c)
  | fuel + 1, text, blanks, broken, c =>
    let n := wordLength inFlow c.rest
    if c.peek 0 = some '#' ∨ n = 0 then (text, broken, c)
    else
      let text := text ++ blanks ++ c.rest.take n
      let (blanks, broken, c) := gap (c.skip n)
      if blanks.isEmpty || c.peek 0 = some '#' || (!inFlow && (c.column : Int) < indent) then
        (text, broken, c)
      else plainFrom inFlow indent fuel text blanks broken c

/-- A plain text, whether a line break came last, and the place behind. -/
def plain (inFlow : Bool) (indent : Int) (c : Cursor) : List Char × Bool × Cursor :=
  plainFrom inFlow indent (c.rest.length + 1) [] [] false c

/-! ### Quoted texts -/

/-- The character that an escape letter stands for. -/
def escaped? : Char → Option Char
  | '0' => some '\x00'
  | 'a' => some '\x07'
  | 'b' => some '\x08'
  | 't' | '\t' => some '\t'
  | 'n' => some '\n'
  | 'v' => some '\x0B'
  | 'f' => some '\x0C'
  | 'r' => some '\r'
  | 'e' => some '\x1B'
  | ' ' => some ' '
  | '"' => some '"'
  | '\\' => some '\\'
  | '/' => some '/'
  | 'N' => some '\x85'
  | '_' => some '\xA0'
  | 'L' => some '\u2028'
  | 'P' => some '\u2029'
  | _ => none

/-- How many digits follow an escape letter that gives a code point. -/
def escapeDigits? : Char → Option Nat
  | 'x' => some 2
  | 'u' => some 4
  | 'U' => some 8
  | _ => none

/-- The value of a digit to the base sixteen. -/
def hexValue? (c : Char) : Option Nat :=
  if '0' ≤ c ∧ c ≤ '9' then some (c.toNat - '0'.toNat)
  else if 'a' ≤ c ∧ c ≤ 'f' then some (c.toNat - 'a'.toNat + 10)
  else if 'A' ≤ c ∧ c ≤ 'F' then some (c.toNat - 'A'.toNat + 10)
  else none

/-- The number that some digits to the base sixteen stand for. -/
def hexNumber? (s : List Char) : Option Nat :=
  s.foldlM (fun n c => do return n * 16 + (← hexValue? c)) 0

/-- The character of a code point, if there is one. -/
def character? (code : Nat) : Except Error Char :=
  if h : code.isValidChar then .ok (.ofNatAux code h)
  else if 0x110000 ≤ code then .error .brokeOff
  else .error .malformed

/-- The line breaks that follow a line break in a quoted text. -/
def quotedBreaks : Nat → List Char → Cursor → Except Error (List Char × Cursor)
  | 0, breaks, c => .ok (breaks, c)
  | fuel + 1, breaks, c =>
    if c.atMarker then .error .malformed
    else
      let c := c.skipWhile isSpace
      match c.lineBreak? with
      | some (b, c) => quotedBreaks fuel (breaks ++ [b]) c
      | none => .ok (breaks, c)

/-- What the escape behind a backslash stands for. -/
def escape (c : Cursor) : Except Error (List Char × Cursor) :=
  match c.peek 0, c.lineBreak? with
  | none, _ => .error .malformed
  | some _, some (_, c) => quotedBreaks (c.rest.length + 1) [] c
  | some letter, none =>
    match escaped? letter, escapeDigits? letter with
    | some ch, _ => .ok ([ch], c.next)
    | none, none => .error .malformed
    | none, some n =>
      let digits := c.next.rest.take n
      match hexNumber? digits with
      | none => .error .malformed
      | some code =>
        if digits.length < n then .error .malformed
        else do return ([← character? code], c.next.skip n)

/-- The blanks before the next word of a quoted text, as they count. -/
def quotedBlanks (c : Cursor) : Except Error (List Char × Cursor) :=
  let blanks := c.rest.takeWhile isSpace
  let c := c.skip blanks.length
  match c.peek 0, c.lineBreak? with
  | none, _ => .error .malformed
  | some _, none => .ok (blanks, c)
  | some _, some (first, c) => do
    let (more, c) ← quotedBreaks (c.rest.length + 1) [] c
    return (folded first more, c)

/-- The rest of a quoted text, and the place behind the closing quote. -/
def quotedFrom (quote : Char) : Nat → List Char → Cursor → Except Error (List Char × Cursor)
  | 0, _, _ => .error .malformed
  | fuel + 1, text, c =>
    match c.peek 0 with
    | none => .error .malformed
    | some ch =>
      if ch = quote then
        if quote = '\'' ∧ c.peek 1 = some '\'' then
          quotedFrom quote fuel (text ++ ['\'']) (c.skip 2)
        else .ok (text, c.next)
      else if quote = '"' ∧ ch = '\\' then do
        let (more, c) ← escape c.next
        quotedFrom quote fuel (text ++ more) c
      else if endsWord (some ch) then do
        let (more, c) ← quotedBlanks c
        quotedFrom quote fuel (text ++ more) c
      else quotedFrom quote fuel (text ++ [ch]) c.next

/-- A quoted text, from behind the opening quote. -/
def quotedText (quote : Char) (c : Cursor) : Except Error (List Char × Cursor) :=
  quotedFrom quote (c.rest.length + 1) [] c

/-! ### Blocks of lines -/

/-- What is done with the line breaks at the end of a block. -/
inductive Chomping where
  /-- The first one is kept. -/
  | clip
  /-- None is kept. -/
  | strip
  /-- All are kept. -/
  | keep
  deriving DecidableEq, Repr

/-- The chomping that a sign asks for. -/
def chomping? : Option Char → Option Chomping
  | some '+' => some .keep
  | some '-' => some .strip
  | _ => none

/-- The indentation that a digit asks for. -/
def indentDigit? (c : Option Char) : Option Nat :=
  c.bind fun ch => if ch.isDigit then some (ch.toNat - '0'.toNat) else none

/-- The signs behind the start of a block: the chomping and the indentation. -/
def blockSigns (c : Cursor) : Chomping × Option Nat × Cursor :=
  match chomping? (c.peek 0), indentDigit? (c.peek 0) with
  | some chomp, _ =>
    match indentDigit? (c.peek 1) with
    | some n => (chomp, some n, c.skip 2)
    | none => (chomp, none, c.next)
  | none, some n =>
    match chomping? (c.peek 1) with
    | some chomp => (chomp, some n, c.skip 2)
    | none => (.clip, some n, c.next)
  | none, none => (.clip, none, c)

/-- The empty lines before the first line of a block, and the widest indentation there. -/
def leadingBreaks : Nat → List Char → Nat → Cursor → List Char × Nat × Cursor
  | 0, breaks, widest, c => (breaks, widest, c)
  | fuel + 1, breaks, widest, c =>
    if c.peek 0 = some ' ' then leadingBreaks fuel breaks (max widest c.next.column) c.next
    else
      match c.lineBreak? with
      | some (b, c) => leadingBreaks fuel (breaks ++ [b]) widest c
      | none => (breaks, widest, c)

/-- The place behind spaces, but not beyond a column. -/
def skipIndent (indent : Nat) (c : Cursor) : Cursor :=
  c.skip (min (indent - c.column) (c.rest.takeWhile (· == ' ')).length)

/-- The empty lines between two lines of a block. -/
def blockBreaks (indent : Nat) : Nat → List Char → Cursor → List Char × Cursor
  | 0, breaks, c => (breaks, c)
  | fuel + 1, breaks, c =>
    let c := skipIndent indent c
    match c.lineBreak? with
    | some (b, c) => blockBreaks indent fuel (breaks ++ [b]) c
    | none => (breaks, c)

/-- The lines of a block: the text, the line break that is open, the empty lines after it, and the
place behind. -/
def blockLines (isFolded : Bool) (indent : Nat) :
    Nat → List Char → List Char → List Char → Cursor → List Char × List Char × List Char × Cursor
  | 0, text, last, breaks, c => (text, last, breaks, c)
  | fuel + 1, text, last, breaks, c =>
    if c.column ≠ indent ∨ c.rest.isEmpty then (text, last, breaks, c)
    else
      let line := c.rest.takeWhile (!isBreak ·)
      let text := text ++ breaks ++ line
      let flush := !(c.peek 0).any isSpace
      let c := c.skip line.length
      let (last, c) := match c.lineBreak? with
        | some (b, c) => ([b], c)
        | none => ([], c)
      let (breaks, c) := blockBreaks indent (c.rest.length + 1) [] c
      if c.column = indent ∧ !c.rest.isEmpty then
        let joint :=
          if isFolded && last = ['\n'] && flush && !(c.peek 0).any isSpace then
            (if breaks.isEmpty then [' '] else [])
          else last
        blockLines isFolded indent fuel (text ++ joint) [] breaks c
      else (text, last, breaks, c)

/-- A block of lines, from behind the sign that starts it. -/
def blockText (isFolded : Bool) (parent : Int) (c : Cursor) : Except Error (List Char × Cursor) :=
  let (chomp, width, c) := blockSigns c
  if width = some 0 ∨ !(c.peek 0).all fun ch => ch == ' ' || isBreak ch then .error .malformed
  else
    let c := c.skipWhile (· == ' ')
    let c := if c.peek 0 = some '#' then c.skipWhile (!isBreak ·) else c
    match c.peek 0, c.lineBreak? with
    | some _, none => .error .malformed
    | _, broken =>
      let c := (broken.map (·.2)).getD c
      let least := (max (parent + 1) 1).toNat
      let (indent, breaks, c) := match width with
        | some n =>
          let indent := least + n - 1
          let (breaks, c) := blockBreaks indent (c.rest.length + 1) [] c
          (indent, breaks, c)
        | none =>
          let (breaks, widest, c) := leadingBreaks (c.rest.length + 1) [] 0 c
          (max least widest, breaks, c)
      let (text, last, breaks, c) := blockLines isFolded indent (c.rest.length + 1) [] [] breaks c
      match chomp with
      | .strip => .ok (text, c)
      | .clip => .ok (text ++ last, c)
      | .keep => .ok (text ++ last ++ breaks, c)

end FileSieve.Yaml
