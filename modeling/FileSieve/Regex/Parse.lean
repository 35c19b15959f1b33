import FileSieve.Regex.Escape
import FileSieve.Regex.Library
import FileSieve.Text.Identifier
import FileSieve.Text.IntegerLiteral

/-!
# From pattern text to syntax tree

The pattern is read from left to right with a stack of open groups. Each step passes at least
one lexeme: it adds an item to the innermost open group, opens a group, starts its next
alternative, or closes it.

* `parse_eq_run`: parsing is running the steps from the initial state.
-/

namespace FileSieve.Regex

open Text

/-! ### Sets and repeat counts -/

/-- One character, escape or class inside a set; its first lexeme has been passed. -/
def setAtom (named? : List Char → Option Char) (l : Lexeme) (r : Reader) :
    Except Error (SetItem × Reader) :=
  match l with
  | .plain c => .ok (.code c.toNat, r)
  | .escaped c => setEscape named? c r
  | .loneBackslash => r.fault .loneBackslash

/-- A range of a set between two of its atoms. -/
def setRange (r : Reader) (low high : Lexeme) (lowItem highItem : SetItem) :
    Except Error SetItem :=
  match lowItem, highItem with
  | .code a, .code b => if b < a then bad else .ok (.range a b)
  | _, _ => bad
where
  /-- The two atoms do not make a range. -/
  bad : Except Error SetItem :=
    r.faultBack (low.text.length + 1 + high.text.length) (.badRange low.text high.text)

/-- The members of the set that was opened at a position, up to its closing bracket; a bracket
in the first place is a member. -/
def setMembers (named? : List Char → Option Char) (opened : Nat) :
    Nat → List SetItem → Reader → Except Error (List SetItem × Reader)
  | 0, _, _ => unterminated
  | fuel + 1, members, r =>
    match r.next? with
    | none => unterminated
    | some l => do
      let r ← r.advance
      if l = .plain ']' ∧ members ≠ [] then return (members, r)
      else
        let (item, r) ← setAtom named? l r
        let (dash, r) ← r.accept '-'
        if !dash then setMembers named? opened fuel (members ++ [item]) r
        else
          match r.next? with
          | none => unterminated
          | some l' =>
            let r ← r.advance
            if l' = .plain ']' then return (members ++ [item, .code '-'.toNat], r)
            else
              let (item', r) ← setAtom named? l' r
              let range ← setRange r l l' item item'
              setMembers named? opened fuel (members ++ [range]) r
where
  /-- The set is not closed. -/
  unterminated : Except Error (List SetItem × Reader) :=
    .error (.malformed .unterminatedSet (some opened))

/-- A set whose opening bracket has been passed. -/
def readSet (named? : List Char → Option Char) (r : Reader) : Except Error (Node × Reader) := do
  let opened := r.position - 1
  let (negated, r) ← r.accept '^'
  let (members, r) ← setMembers named? opened (r.ahead.length + 1) [] r
  return (.set negated members, r)

/-- The largest repeat count, which stands for no bound. -/
def unboundedRepeat : Nat := Nat.pow 2 32 - 1

/-- A repeat count; none is written when there are no digits. -/
def repeatCount? (digits : List Char) : Except Error (Option Nat) :=
  if digits.isEmpty then .ok none
  else
    match readDigits? digits with
    | none => .error .numeralTooLong
    | some n => if unboundedRepeat ≤ n then .error .repeatTooLarge else .ok (some n)

/-- The counts between braces whose opening one has been passed; `none` if the brace does not
begin a repeat and stands for itself. -/
def readBraces (r : Reader) : Except Error (Option (Nat × Option Nat × Reader)) := do
  if r.next? = some (.plain '\x7d') then return none
  let (low, after) ← r.takeWhile (·.isDigit)
  let (comma, after) ← after.accept ','
  let (high, after) ← if comma then after.takeWhile (·.isDigit) else pure (low, after)
  let (closed, after) ← after.accept '\x7d'
  if !closed then return none
  let least ← repeatCount? low
  let most ← repeatCount? high
  match most with
  | some most =>
    if most < least.getD 0 then .error (.malformed .leastAboveMost (some r.position))
    else return some (least.getD 0, most, after)
  | none => return some (least.getD 0, none, after)

/-! ### Open groups -/

/-- A group being read. -/
structure Frame where
  /-- What was opened. -/
  kind : GroupKind
  /-- The position of the opening parenthesis. -/
  opened : Nat
  /-- Are blanks and comments skipped? -/
  verbose : Bool
  /-- The complete alternatives, the last one first. -/
  branches : List Node
  /-- The items of the current alternative, the last one first. -/
  items : List Node
  deriving Repr

namespace Frame

/-- A group with nothing read yet. -/
def fresh (kind : GroupKind) (opened : Nat) (verbose : Bool) : Frame :=
  ⟨kind, opened, verbose, [], []⟩

/-- The current alternative. -/
def current (f : Frame) : Node := .sequence f.items.reverse

/-- All that was read. -/
def body (f : Frame) : Node := .alternatives (f.branches.reverse ++ [f.current])

/-- Adds an item to the current alternative. -/
def push (f : Frame) (item : Node) : Frame := { f with items := item :: f.items }

end Frame

/-- The state between two steps. -/
structure State where
  /-- What reading depends on beside the pattern. -/
  library : Library
  /-- The place in the pattern. -/
  reader : Reader
  /-- The flags chosen for the whole pattern. -/
  flags : Flags
  /-- The named groups. -/
  names : List (List Char × Nat)
  /-- The widths of the groups opened so far, missing while a group is open. -/
  widths : List (Option Width)
  /-- How many groups there were when the outermost open lookbehind began. -/
  lookbehind : Option Nat
  /-- The groups that choices ask for by number, with the position where each is asked for
  first. -/
  asked : List (Nat × Nat)
  /-- The innermost open group. -/
  frame : Frame
  /-- The groups around it, innermost first. -/
  outer : List Frame

namespace State

/-- The state before the first step. -/
def initial (library : Library) (r : Reader) : State :=
  ⟨library, r, [], [], [], none, [], .fresh .whole 0 false, []⟩

/-- Is there room for the calls of the next step? -/
def hasRoom (st : State) : Bool :=
  st.library.canRead (st.frame.kind :: st.outer.map (·.kind)) st.reader.ahead

/-- Adds an item and moves on. -/
def push (st : State) (item : Node) (r : Reader) : State :=
  { st with reader := r, frame := st.frame.push item }

/-- The number of a group that would be opened next. -/
def nextGroup (st : State) : Nat := st.widths.length + 1

/-- The width of a group, if it is closed. -/
def closedWidth? (st : State) (index : Nat) : Option Width :=
  if index = 0 then none else (st.widths[index - 1]?).join

/-- The width of a tree of this pattern. -/
def width (st : State) (node : Node) : Width :=
  node.width (widthOf (st.widths.map (·.getD (.exactly 0))))

/-- Inside a lookbehind only groups closed before it may be referred to. -/
def checkLookbehind (st : State) (index : Nat) (r : Reader) : Except Error Unit :=
  match st.lookbehind with
  | none => .ok ()
  | some groups =>
    if (st.closedWidth? index).isNone then r.fault .openGroup
    else if groups < index then r.fault .groupOfSameLookbehind
    else .ok ()

/-! ### References -/

/-- A backslash with a digit other than zero: three octal digits are a character, all else is
a reference to a group. -/
def readReference (st : State) (first : Char) (r : Reader) : Except Error (Node × Reader) := do
  let (second, r) ← r.takeUpTo (·.isDigit) 1
  let digits := first :: second
  let (third, r') ←
    if digits.length = 2 ∧ digits.all isOctalDigit then r.takeUpTo isOctalDigit 1
    else pure ([], r)
  if third ≠ [] then
    let (code, r) ← octalEscape (digits ++ third) r'
    return (.code code, r)
  let index := digitsValue digits
  -- a reference never goes to a group that is still open
  if index < st.nextGroup then
    if (st.closedWidth? index).isNone then r.faultBack (digits.length + 1) .openGroup
    st.checkLookbehind index r
    return (.backref index, r)
  r.faultBack digits.length (.invalidReference index)

/-- The escape `\c` outside a set. -/
def readEscape (st : State) (c : Char) (r : Reader) : Except Error (Node × Reader) :=
  match anchorEscape? c, categoryEscape? c, controlEscape? c with
  | some place, _, _ => .ok (.anchor place, r)
  | none, some (negated, name), _ => .ok (.set false [.category negated name], r)
  | none, none, some code => .ok (.code code, r)
  | none, none, none =>
    if c = '0' then do
      let (digits, r) ← r.takeUpTo isOctalDigit 2
      let (code, r) ← octalEscape (c :: digits) r
      return (.code code, r)
    else if c.isDigit then st.readReference c r
    else do
      let (code, r) ← otherEscape st.library.named? c r
      return (.code code, r)

/-! ### Repetition -/

/-- Repeats the last item; the quantifier began at the given position. -/
def repeatLast (st : State) (began : Nat) (least : Nat) (most : Option Nat) (r : Reader) :
    Except Error State := do
  let fault (fault : Fault) : Except Error State := .error (.malformed fault (some began))
  match st.frame.items with
  | [] => fault .nothingToRepeat
  | .anchor _ :: _ => fault .nothingToRepeat
  | .repeat _ _ _ _ :: _ => fault .multipleRepeat
  | item :: items =>
    -- a sign behind the sign says how much is given back
    let (lazy, r) ← r.accept '?'
    let (possessive, r) ← if lazy then pure (false, r) else r.accept '+'
    let greed := if lazy then .lazy else if possessive then .possessive else .greedy
    return { st with
      reader := r
      frame := { st.frame with items := .repeat greed least most item :: items } }

/-! ### Flags -/

/-- The flag of a letter. -/
def flagOf? : Lexeme → Option Flag
  | .plain 'i' => some .ignoreCase
  | .plain 'm' => some .multiline
  | .plain 's' => some .dotAll
  | .plain 'x' => some .verbose
  | .plain 'a' => some .ascii
  | .plain 'u' => some .unicode
  | .plain 't' => some .template
  | _ => none

/-- Does the lexeme begin a group of flags? -/
def beginsFlags (l : Lexeme) : Bool :=
  (flagOf? l).isSome || l = .plain 'L' || l = .plain '-'

/-- A lexeme that is no flag where a flag was due. -/
def noFlag {α : Type} (r : Reader) (l : Lexeme) (due : Fault) : Except Error α :=
  match l with
  | .plain c => r.faultBack 1 (if isLetter c then .unknownFlag else due)
  | _ => r.faultBack l.width due

/-- The flags to turn on, up to and with the lexeme that ends them. -/
def flagsOn : Nat → Flags → Lexeme → Reader → Except Error (Flags × Char × Reader)
  | 0, _, _, r => r.fault .missingFlagsEnd
  | fuel + 1, flags, l, r =>
    if l = .plain 'L' then r.fault .localeFlag
    else
      match flagOf? l with
      | none => noFlag r l .missingFlagsEnd
      | some flag =>
        let flags := flag :: flags
        if flag.isCharset ∧ flags.any (fun other => other.isCharset && other != flag) then
          r.fault .clashingCharsets
        else
          match r.next? with
          | none => r.fault .missingFlagsEnd
          | some l => do
            let r ← r.advance
            if l = .plain ')' then return (flags, ')', r)
            else if l = .plain '-' then return (flags, '-', r)
            else if l = .plain ':' then return (flags, ':', r)
            else if l = .plain 'L' then flagsOn fuel flags l r
            else if (flagOf? l).isNone then noFlag r l .missingFlagsEnd
            else flagsOn fuel flags l r

/-- The flags to turn off, up to and with the colon. -/
def flagsOff : Nat → Flags → Lexeme → Reader → Except Error (Flags × Reader)
  | 0, _, _, r => r.fault .missingColon
  | fuel + 1, flags, l, r =>
    if l = .plain 'L' then r.fault .charsetOff
    else
      match flagOf? l with
      | none => noFlag r l .missingColon
      | some flag =>
        if flag.isCharset then r.fault .charsetOff
        else
          let flags := flag :: flags
          match r.next? with
          | none => r.fault .missingColon
          | some l => do
            let r ← r.advance
            if l = .plain ':' then return (flags, r)
            else if (flagOf? l).isNone ∧ l ≠ .plain 'L' then noFlag r l .missingColon
            else flagsOff fuel flags l r

/-- What a group of flags asks for. -/
inductive FlagGroup where
  /-- Flags for the whole pattern. -/
  | global (flags : Flags)
  /-- Flags for the group that follows. -/
  | scoped (added removed : Flags)
  deriving Repr

/-- A group of flags whose first lexeme has been passed. -/
def readFlags (l : Lexeme) (r : Reader) : Except Error (FlagGroup × Reader) := do
  let fuel := r.ahead.length + 1
  let (added, ending, r) ← if l = .plain '-' then pure ([], '-', r) else flagsOn fuel [] l r
  if ending = ')' then return (.global added, r)
  if added.contains .template then r.faultBack 1 .globalFlagOn
  if ending = ':' then return (.scoped added [], r)
  match r.next? with
  | none => r.fault .missingFlag
  | some l =>
    let r ← r.advance
    if (flagOf? l).isNone ∧ l ≠ .plain 'L' then noFlag r l .missingFlag
    let (removed, r) ← flagsOff fuel [] l r
    if removed.contains .template then r.faultBack 1 .globalFlagOff
    if added.any removed.contains then r.faultBack 1 .flagOnAndOff
    return (.scoped added removed, r)

/-! ### Opening a group -/

/-- Opens a group inside the current one. -/
def openGroup (st : State) (kind : GroupKind) (opened : Nat) (verbose : Bool) (r : Reader) :
    State :=
  { st with reader := r, frame := .fresh kind opened verbose, outer := st.frame :: st.outer }

/-- Opens a numbered group. -/
def openCapture (st : State) (opened : Nat) (r : Reader) : State :=
  let st' := st.openGroup (.capture st.nextGroup) opened st.frame.verbose r
  { st' with widths := st.widths ++ [none] }

/-- A name must be an identifier. -/
def checkName (name : List Char) (r : Reader) : Except Error Unit :=
  if isIdentifier name then .ok () else r.faultBack (name.length + 1) (.badGroupName name)

/-- `(?P` has been passed: a named group or a reference to one. -/
def openNamed (st : State) (opened : Nat) (r : Reader) : Except Error State := do
  match r.next? with
  | none => r.fault .unexpectedEnd
  | some l =>
    let r ← r.advance
    if l = .plain '<' then
      let (name, r) ← nameUntil '>' "group name" r
      checkName name r
      match st.names.lookup name with
      | some former =>
        r.faultBack (name.length + 1) (.groupRedefined name st.nextGroup former)
      | none => return { st.openCapture opened r with names := (name, st.nextGroup) :: st.names }
    else if l = .plain '=' then
      let (name, r) ← nameUntil ')' "group name" r
      checkName name r
      match st.names.lookup name with
      | none => r.faultBack (name.length + 1) (.unknownGroupName name)
      | some index =>
        if (st.closedWidth? index).isNone then r.faultBack (name.length + 1) .openGroup
        st.checkLookbehind index r
        return st.push (.backref index) r
    else r.faultBack (l.width + 2) (.unknownExtension ('P' :: l.text))

/-- The number from which on there are no groups. -/
def maxGroups : Nat := Nat.pow 2 30 - 1

/-- `(?(` has been passed: a choice by group. -/
def openConditional (st : State) (opened : Nat) (r : Reader) : Except Error State := do
  let (name, r) ← nameUntil ')' "group name" r
  let back := name.length + 1
  let (index, asked) ←
    if isIdentifier name then
      match st.names.lookup name with
      | some index => pure (index, st.asked)
      | none => r.faultBack back (.unknownGroupName name)
    else
      match integerLiteral? name with
      | none => r.faultBack back (.badGroupName name)
      | some (.negSucc _) => r.faultBack back (.badGroupName name)
      | some (.ofNat 0) => r.faultBack back .badGroupNumber
      | some (.ofNat (n + 1)) =>
        if maxGroups ≤ n + 1 then r.faultBack back (.invalidReference (n + 1))
        else if (st.asked.lookup (n + 1)).isSome then pure (n + 1, st.asked)
        else pure (n + 1, st.asked ++ [(n + 1, r.position - back)])
  st.checkLookbehind index r
  let st := st.openGroup (.conditional index none) opened st.frame.verbose r
  return { st with asked := asked }

/-- Passes a comment up to and with its parenthesis. -/
def skipComment (opened : Nat) : Nat → Reader → Except Error Reader
  | 0, _ => .error (.malformed .unterminatedComment (some opened))
  | fuel + 1, r =>
    match r.next? with
    | none => .error (.malformed .unterminatedComment (some opened))
    | some l => do
      let r ← r.advance
      if l = .plain ')' then return r else skipComment opened fuel r

/-- Opens a condition on the surroundings. -/
def openLook (st : State) (opened : Nat) (behind negated : Bool) (r : Reader) : State :=
  let outermost := behind && st.lookbehind.isNone
  let st' := st.openGroup (.look behind negated outermost) opened st.frame.verbose r
  if outermost then { st' with lookbehind := some st.widths.length } else st'

/-- A parenthesis has been passed. -/
def openParenthesis (st : State) (r : Reader) : Except Error State := do
  let opened := r.position - 1
  let verbose := st.frame.verbose
  let (special, r) ← r.accept '?'
  if !special then return st.openCapture opened r
  match r.next? with
  | none => r.fault .unexpectedEnd
  | some l =>
    let r ← r.advance
    match l with
    | .plain 'P' => st.openNamed opened r
    | .plain ':' => return st.openGroup (.scoped [] []) opened verbose r
    | .plain '#' => return { st with reader := ← skipComment opened (r.ahead.length + 1) r }
    | .plain '=' => return st.openLook opened false false r
    | .plain '!' => return st.openLook opened false true r
    | .plain '<' =>
      match r.next? with
      | none => r.fault .unexpectedEnd
      | some l =>
        let r ← r.advance
        if l = .plain '=' then return st.openLook opened true false r
        else if l = .plain '!' then return st.openLook opened true true r
        else r.faultBack (l.width + 2) (.unknownExtension ('<' :: l.text))
    | .plain '(' => st.openConditional opened r
    | .plain '>' => return st.openGroup .atomic opened verbose r
    | _ =>
      if !beginsFlags l then r.faultBack (l.width + 1) (.unknownExtension l.text)
      else
        let (flagGroup, r) ← readFlags l r
        match flagGroup with
        | .global flags =>
          if st.outer ≠ [] ∨ st.frame.branches ≠ [] ∨ st.frame.items ≠ [] then
            .error (.malformed .lateGlobalFlags (some opened))
          else
            let flags := st.flags ++ flags
            return { st with
              reader := r
              flags := flags
              frame := { st.frame with verbose := flags.contains .verbose } }
        | .scoped added removed =>
          let verbose := (verbose || added.contains .verbose) && !removed.contains .verbose
          return st.openGroup (.scoped added removed) opened verbose r

/-! ### Alternatives and closing -/

/-- A bar is ahead. -/
def nextBranch (st : State) : Except Error State := do
  let frame := st.frame
  match frame.kind with
  | .conditional index none =>
    let r ← st.reader.advance
    return { st with
      reader := r
      frame := { frame with kind := .conditional index (some frame.current), items := [] } }
  | .conditional _ (some _) => st.reader.fault .thirdBranch
  | _ =>
    let r ← st.reader.advance
    let verbose := if st.outer.isEmpty then st.flags.contains .verbose else frame.verbose
    return { st with
      reader := r
      frame := { frame with
        branches := frame.current :: frame.branches, items := [], verbose := verbose } }

/-- Ends the innermost group and adds it to the group around it. -/
def closeGroup (st : State) (around : Frame) (outer : List Frame) (r : Reader) : State :=
  let body := st.frame.body
  let st' := { st with reader := r, frame := around, outer := outer }
  match st.frame.kind with
  | .whole => st'.push body r
  | .capture index =>
    { st'.push (.group index body) r with
      widths := st.widths.set (index - 1) (some (st.width body)) }
  | .scoped added removed => st'.push (.scoped added removed body) r
  | .atomic => st'.push (.atomic body) r
  | .look behind negated outermost =>
    { st'.push (.look behind negated body) r with
      lookbehind := if outermost then none else st.lookbehind }
  | .conditional index none => st'.push (.conditional index body .empty) r
  | .conditional index (some taken) => st'.push (.conditional index taken body) r

/-! ### Steps -/

/-- Passes a comment of a verbose pattern up to the end of its line. -/
def skipLine : Nat → Reader → Except Error Reader
  | 0, r => .ok r
  | fuel + 1, r =>
    match r.next? with
    | none => .ok r
    | some l => do
      let r ← r.advance
      if l = .plain '\n' then return r else skipLine fuel r

/-- Is the character skipped in a verbose pattern? -/
def isVerboseBlank (c : Char) : Bool :=
  [' ', '\t', '\n', '\r', '\x0b', '\x0c'].contains c

/-- A character without backslash has been passed. -/
def readPlain (st : State) (c : Char) (r : Reader) : Except Error State := do
  let began := r.position - 1
  if st.frame.verbose && isVerboseBlank c then return { st with reader := r }
  else if st.frame.verbose && c == '#' then
    return { st with reader := ← skipLine r.ahead.length r }
  else
    match c with
    | '[' =>
      let (node, r) ← readSet st.library.named? r
      return st.push node r
    | '*' => st.repeatLast began 0 none r
    | '+' => st.repeatLast began 1 none r
    | '?' => st.repeatLast began 0 (some 1) r
    | '\x7b' =>
      match ← readBraces r with
      | none => return st.push (.code c.toNat) r
      | some (least, most, after) => st.repeatLast began least most after
    | '.' => return st.push .any r
    | '(' => st.openParenthesis r
    | '^' => return st.push (.anchor .lineStart) r
    | '$' => return st.push (.anchor .lineEnd) r
    | _ => return st.push (.code c.toNat) r

/-- One step over the lexeme ahead; a closing parenthesis needs an open group. -/
def step (st : State) (l : Lexeme) : Except Error State := do
  match l, st.outer with
  | .plain '|', _ => st.nextBranch
  | .plain ')', around :: outer =>
    let r ← st.reader.advance
    return st.closeGroup around outer r
  | .plain c, _ => st.readPlain c (← st.reader.advance)
  | .escaped c, _ =>
    let r ← st.reader.advance
    let (node, r) ← st.readEscape c r
    return st.push node r
  | .loneBackslash, _ => st.reader.fault .loneBackslash

/-- The pattern that was read, once all steps are done. -/
def finish (st : State) : Except Error Regex :=
  if st.outer ≠ [] then .error (.malformed .unterminatedGroup (some st.frame.opened))
  else if st.flags.contains .ascii ∧ st.flags.contains .unicode then .error .bothCharsets
  else if st.reader.ahead ≠ [] then st.reader.fault .unbalancedParenthesis
  else
    match st.asked.find? (st.widths.length < ·.1) with
    | some (index, position) => .error (.malformed (.invalidReference index) (some position))
    | none => .ok ⟨st.flags, st.widths.map (·.getD (.exactly 0)), st.frame.body⟩

/-- Runs steps until the pattern ends or a parenthesis closes no group, as long as there is
room. -/
def run : Nat → State → Except Error Regex
  | 0, st => st.finish
  | fuel + 1, st =>
    if !st.hasRoom then .error .tooDeep
    else
      match st.reader.next? with
      | none => st.finish
      | some l =>
        if l = .plain ')' ∧ st.outer = [] then st.finish
        else do run fuel (← st.step l)

end State

/-- Reads a pattern. -/
def parse (pattern : List Char) (library : Library := .plain) : Except Error Regex := do
  let r ← Reader.start pattern
  State.run (r.ahead.length + 1) (.initial library r)

theorem parse_eq_run {library : Library} {pattern : List Char} {r : Reader}
    (h : Reader.start pattern = .ok r) : parse pattern library =
      State.run (r.ahead.length + 1) (.initial library r) := by
  simp [parse, h, bind, Except.bind]

end FileSieve.Regex
