import FileSieve.Regex.Match
import Mathlib.Computability.Language

/-!
# The language of a tree

Matching a tree tries its ways in order of preference and hands each point that is reached to what
comes next. Whether some way succeeds does not depend on that order: for a tree without groups
that are looked at later, it only matters which texts the tree takes.

* `Denotes`: a tree takes exactly the texts of a language, whatever stands around them.
* `Denotes.cat`, `Denotes.alt`, `Denotes.star`, `Denotes.optional`: the language of a tree is read
  off its parts.
* `Denotes.whole`: a tree before the end of the text matches a text of its language.
-/

namespace FileSieve.Regex

open Computability

/-! ### Points further on -/

/-- The point behind a piece of the text ahead. -/
def Point.past (p : Point) (piece : List Char) : Point :=
  ⟨piece.reverse ++ p.before, p.after.drop piece.length, p.position + piece.length, p.taken⟩

variable {p : Point}

theorem Point.past_nil : p.past [] = p := by
  simp [past]

theorem Point.past_append (a b : List Char) : p.past (a ++ b) = (p.past a).past b := by
  simp [past, Nat.add_assoc]

theorem Point.pass?_eq (test : Char → Bool) :
    p.pass? test = match p.after with
      | [] => none
      | c :: _ => if test c then some (p.past [c]) else none := by
  unfold pass?
  cases h : p.after with
  | nil => rfl
  | cons c rest => simp [past, h]

theorem prefix_append_iff {a b : List Char} :
    a ++ b <+: p.after ↔ a <+: p.after ∧ b <+: (p.past a).after := by
  constructor
  · rintro ⟨rest, h⟩
    refine ⟨⟨b ++ rest, by rw [← h, List.append_assoc]⟩, rest, ?_⟩
    rw [Point.past, ← h, List.append_assoc, List.drop_left]
  · rintro ⟨⟨rest, h⟩, b', hb⟩
    rw [Point.past, ← h, List.drop_left] at hb
    exact ⟨b', by rw [List.append_assoc, hb, h]⟩

theorem length_after_past {piece : List Char} (h : piece <+: p.after) :
    (p.past piece).after.length + piece.length = p.after.length := by
  have := h.length_le
  simp only [Point.past, List.length_drop]
  omega

/-! ### Languages -/

/-- A way of matching takes exactly the texts of a language: it succeeds when what comes next
succeeds behind some text of the language. -/
def Takes (visit : Point → Continuation → Option Point) (L : Language Char) : Prop :=
  ∀ p next, (visit p next).isSome ↔
    ∃ piece ∈ L, piece <+: p.after ∧ (next (p.past piece)).isSome

/-- A tree takes exactly the texts of a language. -/
def Denotes (widths : List Width) (flags : Flags) (node : Node) (L : Language Char) : Prop :=
  Takes (visit widths flags node) L

variable {widths : List Width} {flags : Flags} {a b node : Node} {L M : Language Char}

theorem isSome_orElse {x y : Option Point} : (x <|> y).isSome ↔ x.isSome ∨ y.isSome := by
  cases x <;> simp

theorem Denotes.congr (h : Denotes widths flags node L) (heq : ∀ s, s ∈ L ↔ s ∈ M) :
    Denotes widths flags node M := by
  intro p next
  rw [h p next]
  exact exists_congr fun s => and_congr_left fun _ => heq s

theorem Denotes.empty : Denotes widths flags .empty 1 := by
  intro p next
  simp only [visit, Language.mem_one]
  constructor
  · exact fun h => ⟨[], rfl, List.nil_prefix, by rwa [Point.past_nil]⟩
  · rintro ⟨piece, rfl, -, h⟩
    rwa [Point.past_nil] at h

/-- The texts of one character that satisfies a test. -/
def oneOf (test : Char → Bool) : Language Char := {s | ∃ c, s = [c] ∧ test c = true}

theorem mem_oneOf {test : Char → Bool} {s : List Char} :
    s ∈ oneOf test ↔ ∃ c, s = [c] ∧ test c = true := Iff.rfl

theorem takes_pass (test : Char → Bool) :
    Takes (fun p next => (p.pass? test).bind next) (oneOf test) := by
  intro p next
  simp only [Point.pass?_eq, mem_oneOf]
  constructor
  · intro h
    split at h
    · cases h
    · rename_i c rest heq
      split at h
      · rename_i hc
        exact ⟨[c], ⟨c, rfl, hc⟩, ⟨rest, heq.symm⟩, h⟩
      · cases h
  · rintro ⟨_, ⟨c, rfl, hc⟩, ⟨rest, heq⟩, h⟩
    rw [List.singleton_append] at heq
    simp only [← heq, hc, if_true, Option.bind_some]
    exact h

theorem Denotes.cat (ha : Denotes widths flags a L) (hb : Denotes widths flags b M) :
    Denotes widths flags (.cat a b) (L * M) := by
  intro p next
  rw [visit_cat, ha]
  constructor
  · rintro ⟨s, hs, hpre, h⟩
    obtain ⟨t, ht, hpre', h⟩ := (hb _ _).1 h
    exact ⟨s ++ t, Language.append_mem_mul hs ht, prefix_append_iff.2 ⟨hpre, hpre'⟩,
      by rwa [Point.past_append]⟩
  · rintro ⟨_, hmem, hpre, h⟩
    -- the piece is cut where the first part ends
    obtain ⟨s, hs, t, ht, rfl⟩ := Language.mem_mul.1 hmem
    obtain ⟨hs', ht'⟩ := prefix_append_iff.1 hpre
    exact ⟨s, hs, hs', (hb _ _).2 ⟨t, ht, ht', by rwa [← Point.past_append]⟩⟩

theorem Denotes.alt (ha : Denotes widths flags a L) (hb : Denotes widths flags b M) :
    Denotes widths flags (.alt a b) (L + M) := by
  intro p next
  rw [visit_alt, isSome_orElse, ha, hb]
  simp only [Language.mem_add, or_and_right, exists_or]

theorem Denotes.scoped {added removed : Flags}
    (h : Denotes widths (flags.within added removed) node L) :
    Denotes widths flags (.scoped added removed node) L := h

/-- A sequence takes a text of the product of its languages. -/
theorem Denotes.sequence {α : Type} {tree : α → Node} {lang : α → Language Char} {items : List α}
    (h : ∀ x ∈ items, Denotes widths flags (tree x) (lang x)) :
    Denotes widths flags (.sequence (items.map tree)) (items.map lang).prod := by
  induction items with
  | nil => exact .empty
  | cons x items ih =>
    rw [List.map_cons, List.map_cons, List.prod_cons]
    exact .cat (h x List.mem_cons_self) (ih fun y hy => h y (List.mem_cons_of_mem _ hy))

/-! ### Repetition -/

theorem append_mem_kstar {s t : List Char} (hs : s ∈ L) (ht : t ∈ L∗) : s ++ t ∈ L∗ := by
  obtain ⟨pieces, rfl, hpieces⟩ := Language.mem_kstar.1 ht
  exact Language.mem_kstar.2 ⟨s :: pieces, rfl, List.forall_mem_cons.2 ⟨hs, hpieces⟩⟩

/-- Repeating as often as possible succeeds when some number of repetitions does. The fuel is
enough for one repetition per character, and a repetition that takes nothing adds nothing. -/
theorem takes_greedily {body : Point → Continuation → Option Point} (hbody : Takes body L)
    {next : Continuation} {fuel : Nat} (hfuel : p.after.length < fuel) :
    (greedily body fuel none p next).isSome ↔
      ∃ piece ∈ L∗, piece <+: p.after ∧ (next (p.past piece)).isSome := by
  constructor
  · -- a way that succeeds takes a text of the language each time that fuel is spent
    clear hfuel
    intro h
    induction fuel generalizing p with
    | zero => exact ⟨[], Language.nil_mem_kstar L, List.nil_prefix, by rwa [Point.past_nil]⟩
    | succ fuel ih =>
      simp only [greedily, reduceCtorEq, if_false, isSome_orElse] at h
      rcases h with h | h
      · obtain ⟨s, hs, hpre, h⟩ := (hbody _ _).1 h
        split at h
        · exact ⟨s, by simpa using append_mem_kstar hs (Language.nil_mem_kstar L), hpre, h⟩
        · obtain ⟨t, ht, hpre', h⟩ := ih h
          exact ⟨s ++ t, append_mem_kstar hs ht,
            prefix_append_iff.2 ⟨hpre, hpre'⟩, by rwa [Point.past_append]⟩
      · exact ⟨[], Language.nil_mem_kstar L, List.nil_prefix, by rwa [Point.past_nil]⟩
  · -- the pieces may be taken to be nonempty, so that the point moves on with each of them
    rintro ⟨_, hmem, hpre, h⟩
    obtain ⟨pieces, rfl, hpieces⟩ := Language.mem_kstar_iff_exists_nonempty.1 hmem
    clear hmem
    induction pieces generalizing p fuel with
    | nil =>
      rw [List.flatten_nil, Point.past_nil] at h
      cases fuel with
      | zero => exact h
      | succ fuel =>
        simp only [greedily, reduceCtorEq, if_false, isSome_orElse]
        exact .inr h
    | cons s pieces ih =>
      rw [List.flatten_cons] at hpre h
      obtain ⟨hs, hrest⟩ := prefix_append_iff.1 hpre
      obtain ⟨hmem, hne⟩ := hpieces s List.mem_cons_self
      have hpos := List.length_pos_of_ne_nil hne
      have hlen := length_after_past hs
      cases fuel with
      | zero => omega
      | succ fuel =>
        simp only [greedily, reduceCtorEq, if_false, isSome_orElse]
        refine .inl ((hbody _ _).2 ⟨s, hmem, hs, ?_⟩)
        -- the point has moved on, so the repetition is not the last
        have hmoved : (p.past s).position ≠ p.position := by simp only [Point.past]; omega
        rw [if_neg hmoved]
        exact ih (by omega) (fun t ht => hpieces t (List.mem_cons_of_mem _ ht)) hrest
          (by rwa [← Point.past_append])

theorem Denotes.star (h : Denotes widths flags node L) :
    Denotes widths flags (.repeat .greedy 0 none node) L∗ := by
  intro p next
  exact takes_greedily h (Nat.lt_succ_self _)

theorem Denotes.optional (h : Denotes widths flags node L) :
    Denotes widths flags (.repeat .greedy 0 (some 1) node) (1 + L) := by
  intro p next
  have hvisit : visit widths flags (.repeat .greedy 0 (some 1) node) p next =
      (visit widths flags node p next <|> next p) := by
    simp only [visit, repeated, exactly, Option.map_some, greedily]
    -- nothing is left to repeat behind the first repetition
    have hlast : ∀ q, greedily (visit widths flags node) p.after.length (oneLess (some 1)) q next =
        next q := by
      intro q
      cases p.after.length <;> simp [greedily, oneLess]
    simp [hlast]
  rw [hvisit, isSome_orElse, h p next, or_comm]
  simp only [Language.mem_add, Language.mem_one, or_and_right, exists_or]
  refine or_congr_left ⟨fun h => ⟨[], rfl, List.nil_prefix, by rwa [Point.past_nil]⟩, ?_⟩
  rintro ⟨_, rfl, -, h⟩
  rwa [Point.past_nil] at h

/-! ### Whole texts -/

/-- A tree that has to reach the end of the text matches at the front of the texts of its
language. -/
theorem Denotes.whole (h : Denotes widths flags node L) {s : List Char} :
    matchesFront ⟨flags, widths, .sequence [node, .anchor .textEnd]⟩ s = true ↔ s ∈ L := by
  have hend : ∀ q : Point, (visit widths flags (.sequence [.anchor .textEnd]) q some).isSome ↔
      q.after = [] := by
    intro q
    simp [Node.sequence, visit, Point.satisfies]
  change (visit widths flags (.cat node (.sequence [.anchor .textEnd])) (.start s) some).isSome ↔ _
  rw [visit_cat, h]
  simp only [hend]
  constructor
  · rintro ⟨piece, hmem, ⟨rest, hrest⟩, hall⟩
    have hs : piece ++ rest = s := hrest
    have : rest = [] := by simpa [Point.past, Point.start, ← hs] using hall
    rwa [← hs, this, List.append_nil]
  · intro hmem
    exact ⟨s, hmem, List.prefix_refl s, by simp [Point.past, Point.start]⟩

end FileSieve.Regex
