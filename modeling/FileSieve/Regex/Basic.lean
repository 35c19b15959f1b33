/-!
# Regular expressions

The syntax trees of search patterns, their flags, and how many characters a tree can take.
-/

namespace FileSieve.Regex

/-! ### Flags -/

/-- What a flag letter asks for. -/
inductive Flag where
  /-- `i`: upper and lower case are equal. -/
  | ignoreCase
  /-- `m`: the line anchors look at every line. -/
  | multiline
  /-- `s`: the dot takes a newline too. -/
  | dotAll
  /-- `x`: blanks and comments in the pattern are skipped. -/
  | verbose
  /-- `a`: classes and case know ASCII only. -/
  | ascii
  /-- `u`: classes and case know all scripts. -/
  | unicode
  /-- `t`: repetition is forbidden. -/
  | template
  deriving DecidableEq, Repr

/-- A set of flags. -/
abbrev Flags := List Flag

/-- Does the flag choose between ASCII and all scripts? -/
def Flag.isCharset : Flag → Bool
  | .ascii | .unicode => true
  | _ => false

/-- The flags inside a group that turns some on and others off; a charset replaces the one
chosen outside. -/
def Flags.within (flags added removed : Flags) : Flags :=
  let kept := if added.any Flag.isCharset then flags.filter (!·.isCharset) else flags
  (kept ++ added).filter (!removed.contains ·)

/-! ### Trees -/

/-- A character class with a name. -/
inductive Category where
  /-- Decimal digits. -/
  | digit
  /-- Blank characters. -/
  | space
  /-- Word characters. -/
  | word
  deriving DecidableEq, Repr

/-- A member of a character set. -/
inductive SetItem where
  /-- One code point. -/
  | code (value : Nat)
  /-- A closed range of code points. -/
  | range (low high : Nat)
  /-- A named class or its complement. -/
  | category (negated : Bool) (name : Category)
  deriving DecidableEq, Repr

/-- A condition on the place between two characters. -/
inductive Anchor where
  /-- `^`. -/
  | lineStart
  /-- `$`. -/
  | lineEnd
  /-- `\A`. -/
  | textStart
  /-- `\Z`. -/
  | textEnd
  /-- `\b`. -/
  | wordEdge
  /-- `\B`. -/
  | noWordEdge
  deriving DecidableEq, Repr

/-- Which of several repetition counts is preferred. -/
inductive Greed where
  /-- As many as possible, fewer if the rest asks for it. -/
  | greedy
  /-- As few as possible, more if the rest asks for it. -/
  | lazy
  /-- As many as possible and no other count. -/
  | possessive
  deriving DecidableEq, Repr

/-- The syntax tree of a search pattern. -/
inductive Node where
  /-- Takes nothing. -/
  | empty
  /-- Takes one code point. -/
  | code (value : Nat)
  /-- The dot. -/
  | any
  /-- Takes one member of a set, or one character that is no member. -/
  | set (negated : Bool) (items : List SetItem)
  /-- Takes nothing, at certain places. -/
  | anchor (place : Anchor)
  /-- One after the other. -/
  | cat (first second : Node)
  /-- The first or else the second. -/
  | alt (first second : Node)
  /-- A numbered group. -/
  | group (index : Nat) (body : Node)
  /-- A group without number, with its own flags. -/
  | scoped (added removed : Flags) (body : Node)
  /-- Repetition; no upper bound when `most` is missing. -/
  | repeat (greed : Greed) (least : Nat) (most : Option Nat) (body : Node)
  /-- What a group took. -/
  | backref (index : Nat)
  /-- A condition on what follows or precedes. -/
  | look (behind negated : Bool) (body : Node)
  /-- A group that never revises its choice. -/
  | atomic (body : Node)
  /-- One of two trees, as a group took part or not. -/
  | conditional (index : Nat) (taken missed : Node)
  deriving DecidableEq, Repr

namespace Node

/-- The items one after the other. -/
def sequence (items : List Node) : Node :=
  items.foldr cat empty

/-- The branches, the first preferred; a single branch stands for itself. -/
def alternatives : List Node → Node
  | [] => empty
  | [node] => node
  | node :: rest => alt node (alternatives rest)

end Node

/-! ### Width -/

/-- Bounds on the number of characters taken; no upper bound when `most` is missing. -/
structure Width where
  /-- The fewest characters. -/
  least : Nat
  /-- The most characters, if there is a bound. -/
  most : Option Nat
  deriving DecidableEq, Repr

namespace Width

/-- Always the same number of characters. -/
def exactly (n : Nat) : Width := ⟨n, some n⟩

/-- One part after the other. -/
def add (a b : Width) : Width :=
  ⟨a.least + b.least, return (← a.most) + (← b.most)⟩

/-- Either of two parts. -/
def join (a b : Width) : Width :=
  ⟨min a.least b.least, return max (← a.most) (← b.most)⟩

/-- A part repeated between two counts; nothing times anything is nothing. -/
def times (w : Width) (least : Nat) (most : Option Nat) : Width where
  least := least * w.least
  most :=
    match w.most, most with
    | some 0, _ => some 0
    | _, some 0 => some 0
    | some n, some k => some (k * n)
    | _, _ => none

/-- Is the number of characters always the same? -/
def isFixed (w : Width) : Bool :=
  w.most == some w.least

end Width

/-- The width of a tree, given the widths of the groups it refers to. -/
def Node.width (groups : Nat → Width) : Node → Width
  | .empty => .exactly 0
  | .code _ => .exactly 1
  | .any => .exactly 1
  | .set _ _ => .exactly 1
  | .anchor _ => .exactly 0
  | .cat a b => (a.width groups).add (b.width groups)
  | .alt a b => (a.width groups).join (b.width groups)
  | .group _ body => body.width groups
  | .scoped _ _ body => body.width groups
  | .repeat _ least most body => (body.width groups).times least most
  | .backref index => groups index
  | .look _ _ _ => .exactly 0
  | .atomic body => body.width groups
  | .conditional _ taken missed => (taken.width groups).join (missed.width groups)

end Regex

/-- A search pattern: its flags, the widths of its groups in order, and its syntax tree. -/
structure Regex where
  /-- The flags of the whole pattern. -/
  flags : Regex.Flags
  /-- The widths of the groups, from group 1 on. -/
  widths : List Regex.Width
  /-- The syntax tree. -/
  tree : Regex.Node
  deriving DecidableEq, Repr

namespace Regex

/-- The width of a group; a group that does not exist takes nothing. -/
def widthOf (widths : List Width) (index : Nat) : Width :=
  if index = 0 then .exactly 0 else widths.getD (index - 1) (.exactly 0)

end FileSieve.Regex
