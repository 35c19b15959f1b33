import FileSieve.Regex.Basic
import FileSieve.Regex.Reader

/-!
# What compiling a pattern depends on

Two things that the text of a pattern does not tell: which characters have names, and how many
calls may lie inside each other where the pattern is compiled. Reading makes more of them for every
group that is open, and translating for every tree inside another one. A pattern whose groups lie
at most one inside another always has room.

* `Library.plain`: no character has a name, and there is room for everything.
* `Library.ofRoom`: there is room for a number of calls.
-/

namespace FileSieve.Regex

/-- What a parenthesis opened. -/
inductive GroupKind where
  /-- The whole pattern. -/
  | whole
  /-- A numbered group. -/
  | capture (index : Nat)
  /-- A group without number. -/
  | scoped (added removed : Flags)
  /-- A group that never revises its choice. -/
  | atomic
  /-- A condition on the surroundings; `outermost` marks a lookbehind inside no other. -/
  | look (behind negated outermost : Bool)
  /-- A choice by group, with its first branch once that is complete. -/
  | conditional (index : Nat) (taken : Option Node)
  deriving Repr

/-- How deep trees lie inside each other; items and alternatives lie side by side. -/
def Node.nesting : Node → Nat
  | .cat a b | .alt a b => max a.nesting b.nesting
  | .group _ body | .scoped _ _ body | .repeat _ _ _ body | .look _ _ body | .atomic body =>
    body.nesting + 1
  | .conditional _ taken missed => max taken.nesting missed.nesting + 1
  | _ => 0

/-- What compiling a pattern depends on beside its text. -/
structure Library where
  /-- The character with a name. -/
  named? : List Char → Option Char
  /-- Is there room to read on? It depends on the groups that are open, innermost first, and on what
  is ahead. -/
  canRead : List GroupKind → List Lexeme → Bool
  /-- Is there room to translate a pattern that was read? -/
  canTranslate : Regex → Bool
  canRead_of_flat : ∀ groups ahead, groups.length ≤ 3 → canRead groups ahead = true
  canTranslate_of_flat : ∀ regex, regex.tree.nesting ≤ 4 → canTranslate regex = true

namespace Library

/-- No character has a name, and there is room for everything. -/
def plain : Library := ⟨fun _ => none, fun _ _ => true, fun _ => true, fun _ _ _ => rfl,
  fun _ _ => rfl⟩

/-- How many calls lie inside each other for a group that is open. -/
def callsOf : GroupKind → Nat
  | .whole => 0
  | .conditional _ _ => 1
  | _ => 2

/-- How many calls lie inside each other for all groups that are open. -/
def callsOfAll : List GroupKind → Nat
  | [] => 0
  | kind :: groups => callsOf kind + callsOfAll groups

theorem callsOf_le (kind : GroupKind) : callsOf kind ≤ 2 := by
  cases kind <;> simp [callsOf]

theorem callsOfAll_le (groups : List GroupKind) : callsOfAll groups ≤ 2 * groups.length := by
  induction groups with
  | nil => exact Nat.le_refl 0
  | cons kind groups ih =>
    have hkind := callsOf_le kind
    rw [callsOfAll, List.length_cons]
    omega

/-- There is room for a number of calls that lie inside each other. -/
def ofRoom (named? : List Char → Option Char) (room : Nat) (h : 6 ≤ room) : Library where
  named? := named?
  canRead groups _ := callsOfAll groups ≤ room
  canTranslate regex := regex.tree.nesting ≤ room
  canRead_of_flat groups _ hflat := by
    have hcalls := callsOfAll_le groups
    exact decide_eq_true (by omega)
  canTranslate_of_flat _ hflat := decide_eq_true (by omega)

end Library

end FileSieve.Regex
