import FileSieve.Text.Split

/-!
# Paths

A path is a root and the names below it. Reading a text drops repeated separators and the name
`.`, and keeps `..`; a text that starts with exactly two separators has a root of its own.

* `ofText_text`: a path is read back from its text.
* `exists_mem_names_iff`: which characters are in its names.
-/

namespace FileSieve

open Text

/-- Where a path starts. -/
inductive Path.Root where
  /-- Below the current directory. -/
  | none
  /-- At `/`. -/
  | single
  /-- At `//`. -/
  | double
  deriving DecidableEq, Repr

/-- The text of a root. -/
def Path.Root.text : Path.Root → List Char
  | .none => []
  | .single => ['/']
  | .double => ['/', '/']

/-- A piece of a path that is kept: not empty, not `.`, without a separator. -/
def Path.IsName (name : List Char) : Prop :=
  name ≠ [] ∧ name ≠ ['.'] ∧ '/' ∉ name

instance (name : List Char) : Decidable (Path.IsName name) :=
  inferInstanceAs (Decidable (_ ∧ _ ∧ _))

/-- A path: its root and the names below it. -/
structure Path where
  /-- Where it starts. -/
  root : Path.Root
  /-- The names, outermost first. -/
  names : List (List Char)
  /-- Every name can stand in a path. -/
  isName : ∀ name ∈ names, Path.IsName name
  deriving DecidableEq

namespace Path

/-! ### Reading and writing -/

/-- The root of a path text. -/
def rootOf : List Char → Root
  | '/' :: '/' :: '/' :: _ => .single
  | '/' :: '/' :: _ => .double
  | '/' :: _ => .single
  | _ => .none

/-- The path that a text stands for. -/
def ofText (s : List Char) : Path where
  root := rootOf s
  names := (splitAtEach '/' s).filter fun name => name ≠ [] ∧ name ≠ ['.']
  isName := by
    intro name h
    rw [List.mem_filter] at h
    have := h.2
    simp only [ne_eq, Bool.decide_and, decide_not, Bool.and_eq_true, Bool.not_eq_eq_eq_not,
      Bool.not_true, decide_eq_false_iff_not] at this
    exact ⟨this.1, this.2, not_mem_of_mem_splitAtEach h.1⟩

/-- The text of a path; an empty path is written `.`. -/
def text (p : Path) : List Char :=
  let body := p.root.text ++ joinWith ['/'] p.names
  if body = [] then ['.'] else body

/-- Every character but the separator and the dot is in a name. -/
theorem exists_mem_names_iff {s : List Char} {c : Char} (hsep : c ≠ '/') (hdot : c ≠ '.') :
    (∃ name ∈ (ofText s).names, c ∈ name) ↔ c ∈ s := by
  rw [← exists_mem_splitAtEach_iff hsep]
  refine exists_congr fun name => and_congr_left fun hname => ?_
  have hkept : name ≠ [] ∧ name ≠ ['.'] := by
    refine ⟨List.ne_nil_of_mem hname, ?_⟩
    rintro rfl
    exact hdot (List.mem_singleton.1 hname)
  simp [ofText, List.mem_filter, hkept]

/-! ### Components -/

/-- The components of a path: its root, if it has one, and its names. -/
def parts (p : Path) : List (List Char) :=
  if p.root = .none then p.names else p.root.text :: p.names

/-- The last name, empty if there is none. -/
def name (p : Path) : List Char :=
  p.names.getLast?.getD []

/-- The path without its last name. -/
def parent (p : Path) : Path :=
  ⟨p.root, p.names.dropLast, fun n h => p.isName n (List.dropLast_subset _ h)⟩

/-- The path with some names below it. -/
def below (p : Path) (names : List (List Char)) (h : ∀ name ∈ names, IsName name) : Path :=
  ⟨p.root, p.names ++ names, fun n hn => (List.mem_append.1 hn).elim (p.isName n) (h n)⟩

/-- The end of a name from its last dot on, unless that dot is its first or last character. -/
def suffixOf (name : List Char) : List Char :=
  let after := (name.reverse.takeWhile (· ≠ '.')).reverse
  if after = [] ∨ name.length ≤ after.length + 1 then [] else '.' :: after

/-- The end of the last name from its last dot on. -/
def suffix (p : Path) : List Char := suffixOf p.name

/-- Is the file's directory the given one, or does it end with all of its components? -/
def liesIn (p directory : Path) : Bool :=
  p.parent = directory ||
    (!directory.parts.isEmpty && directory.parts.isSuffixOf p.parent.parts)

/-! ### Round trip -/

theorem filter_names (p : Path) :
    p.names.filter (fun name => name ≠ [] ∧ name ≠ ['.']) = p.names :=
  List.filter_eq_self.2 fun name h => by
    have := p.isName name h
    simp [this.1, this.2.1]

/-- The names of a path do not start with a separator. -/
theorem head_joinWith_ne {names : List (List Char)} (h : ∀ name ∈ names, IsName name) :
    ∀ rest, joinWith ['/'] names ≠ '/' :: rest := by
  intro rest heq
  cases names with
  | nil => simp [joinWith] at heq
  | cons name names =>
    obtain ⟨hne, -, hsep⟩ := h name List.mem_cons_self
    cases name with
    | nil => exact hne rfl
    | cons c name =>
      have : c = '/' := by
        cases names with
        | nil => simp [joinWith] at heq; exact heq.1
        | cons next names =>
          rw [joinWith_cons (by simp)] at heq
          simp at heq
          exact heq.1
      exact hsep (this ▸ List.mem_cons_self)

variable {s : List Char}

theorem rootOf_of_head (h : ∀ rest, s ≠ '/' :: rest) : rootOf s = .none := by
  unfold rootOf
  split
  · exact absurd rfl (h _)
  · exact absurd rfl (h _)
  · exact absurd rfl (h _)
  · rfl

theorem rootOf_single_of_head (h : ∀ rest, s ≠ '/' :: rest) : rootOf ('/' :: s) = .single := by
  cases s with
  | nil => rfl
  | cons c s =>
    have : c ≠ '/' := fun hc => h s (hc ▸ rfl)
    simp [rootOf, this]

theorem rootOf_double_of_head (h : ∀ rest, s ≠ '/' :: rest) :
    rootOf ('/' :: '/' :: s) = .double := by
  cases s with
  | nil => rfl
  | cons c s =>
    have : c ≠ '/' := fun hc => h s (hc ▸ rfl)
    simp [rootOf]

theorem ofText_text (p : Path) : ofText p.text = p := by
  obtain ⟨root, names, isName⟩ := p
  have hsplit : (splitAtEach '/' (joinWith ['/'] names)).filter
      (fun name => name ≠ [] ∧ name ≠ ['.']) = names := by
    by_cases hne : names = []
    · subst hne; rfl
    · rw [splitAtEach_joinWith hne fun n hm => (isName n hm).2.2]
      exact filter_names ⟨root, names, isName⟩
  have hhead := head_joinWith_ne isName
  suffices rootOf (text ⟨root, names, isName⟩) = root ∧
      (splitAtEach '/' (text ⟨root, names, isName⟩)).filter
        (fun name => name ≠ [] ∧ name ≠ ['.']) = names by
    simp only [ofText, this.1]
    congr 1
    exact this.2
  cases root with
  | none =>
    by_cases hnil : joinWith ['/'] names = []
    · have : names = [] := by
        cases names with
        | nil => rfl
        | cons name names =>
          obtain ⟨hne, -, -⟩ := isName name List.mem_cons_self
          cases names with
          | nil => exact absurd (by simpa [joinWith] using hnil) hne
          | cons => rw [joinWith_cons (by simp)] at hnil; simp at hnil
      subst this
      exact ⟨rfl, rfl⟩
    · simp only [text, Root.text, List.nil_append, hnil, if_false]
      exact ⟨rootOf_of_head hhead, hsplit⟩
  | single =>
    simp only [text, Root.text, List.singleton_append, List.cons_ne_nil, if_false]
    exact ⟨rootOf_single_of_head hhead, by simpa [splitAtEach] using hsplit⟩
  | double =>
    simp only [text, Root.text, List.cons_append, List.nil_append, List.cons_ne_nil, if_false]
    exact ⟨rootOf_double_of_head hhead, by simpa [splitAtEach] using hsplit⟩

end Path

end FileSieve
