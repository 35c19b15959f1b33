import Mathlib.Data.List.Forall2

/-!
# Outcomes

A computation that may fail succeeds when all of its parts do, and fails with the first part that
does not.

* `bind_eq_ok_iff`, `map_eq_ok_iff`: what a successful computation tells about its first part.
* `exists_bind_eq_ok_iff`, `exists_bind_pure_iff`: which computations succeed.
* `bind_eq_error_iff`, `map_eq_error_iff`: which part of a computation an error is from.
* `mapError_eq_ok_iff`, `mapError_eq_error_iff`: an error is told in other words.
* `foldlM_preserves`: what a list that is gone through leaves as it was.
* `mapM_eq_ok_iff`, `mapM_eq_error_iff`, `mapM_eq_some_iff`: the same of a list that is gone
  through.
* `Ends.bind`: what holds at the end of a computation in parts, however it ends.
* `FailsOnly.bind`, `failsOnly_foldlM`: a computation fails in no other way than its parts.
-/

namespace FileSieve

variable {ε α β : Type} {x : Except ε α} {b : β} {e : ε}

theorem ok_bind {a : α} {f : α → Except ε β} : (.ok a >>= f) = f a := rfl

theorem bind_eq_ok_iff {f : α → Except ε β} :
    (x >>= f) = .ok b ↔ ∃ a, x = .ok a ∧ f a = .ok b := by
  cases x with
  | error e => simp [bind, Except.bind]
  | ok a => simp [bind, Except.bind]

theorem bind_eq_error_iff {f : α → Except ε β} :
    (x >>= f) = .error e ↔ x = .error e ∨ ∃ a, x = .ok a ∧ f a = .error e := by
  cases x with
  | error e => simp [bind, Except.bind]
  | ok a => simp [bind, Except.bind]

theorem map_eq_ok_iff {f : α → β} : f <$> x = .ok b ↔ ∃ a, x = .ok a ∧ f a = b := by
  cases x with
  | error e => simp [Functor.map, Except.map]
  | ok a => simp [Functor.map, Except.map]

theorem map_eq_error_iff {f : α → β} : f <$> x = .error e ↔ x = .error e := by
  cases x with
  | error e => simp [Functor.map, Except.map]
  | ok a => simp [Functor.map, Except.map]

theorem exists_bind_eq_ok_iff {f : α → Except ε β} :
    (∃ b, (x >>= f) = .ok b) ↔ ∃ a, x = .ok a ∧ ∃ b, f a = .ok b := by
  simp only [bind_eq_ok_iff, exists_comm (α := β), exists_and_left]

/-- A computation with a pure end succeeds when its beginning does. -/
theorem exists_bind_pure_iff {f : α → β} :
    (∃ b, (x >>= fun a => pure (f a)) = .ok b) ↔ ∃ a, x = .ok a := by
  rw [exists_bind_eq_ok_iff]
  exact exists_congr fun a => and_iff_left ⟨f a, rfl⟩

theorem mapError_eq_ok_iff {δ : Type} {f : ε → δ} {a : α} {x : Except ε α} :
    x.mapError f = .ok a ↔ x = .ok a := by
  cases x <;> simp [Except.mapError]

theorem mapError_eq_error_iff {δ : Type} {f : ε → δ} {d : δ} :
    x.mapError f = .error d ↔ ∃ e, x = .error e ∧ f e = d := by
  cases x <;> simp [Except.mapError]

/-- What every step preserves, a successful run through a list preserves. -/
theorem foldlM_preserves {p : β → Prop} {f : β → α → Except ε β}
    (hstep : ∀ b x c, p b → f b x = .ok c → p c) {xs : List α} {b c : β} (hb : p b)
    (h : xs.foldlM f b = .ok c) : p c := by
  induction xs generalizing b with
  | nil =>
    cases h
    exact hb
  | cons x xs ih =>
    rw [List.foldlM_cons, bind_eq_ok_iff] at h
    obtain ⟨next, hnext, h⟩ := h
    exact ih (hstep b x next hb hnext) h

variable {f : α → Except ε β} {xs : List α} {ys : List β}

theorem mapM_eq_ok_iff : xs.mapM f = .ok ys ↔ List.Forall₂ (fun x y => f x = .ok y) xs ys := by
  induction xs generalizing ys with
  | nil => cases ys <;> simp [pure, Except.pure]
  | cons x xs ih =>
    simp only [List.mapM_cons, bind_eq_ok_iff, ih, pure, Except.pure, Except.ok.injEq]
    constructor
    · rintro ⟨y, hy, rest, hrest, rfl⟩
      exact .cons hy hrest
    · intro h
      cases h with
      | cons hy hrest => exact ⟨_, hy, _, hrest, rfl⟩

theorem exists_mapM_eq_ok_iff : (∃ ys, xs.mapM f = .ok ys) ↔ ∀ x ∈ xs, ∃ y, f x = .ok y := by
  simp only [mapM_eq_ok_iff]
  induction xs with
  | nil => simp
  | cons x xs ih =>
    rw [List.forall_mem_cons, ← ih]
    constructor
    · rintro ⟨_, h⟩
      cases h with
      | cons hy hrest => exact ⟨⟨_, hy⟩, _, hrest⟩
    · rintro ⟨⟨y, hy⟩, rest, hrest⟩
      exact ⟨y :: rest, .cons hy hrest⟩

/-- The error is from the first part that fails. -/
theorem mapM_eq_error_iff : xs.mapM f = .error e ↔
    ∃ before x after, xs = before ++ x :: after ∧ (∀ y ∈ before, ∃ b, f y = .ok b) ∧
      f x = .error e := by
  induction xs with
  | nil => simp [pure, Except.pure]
  | cons x xs ih =>
    simp only [List.mapM_cons, bind_eq_error_iff, pure, Except.pure, reduceCtorEq, and_false,
      exists_false, or_false, ih]
    constructor
    · rintro (h | ⟨b, hb, before, y, after, rfl, hbefore, hy⟩)
      · exact ⟨[], x, xs, rfl, by simp, h⟩
      · exact ⟨x :: before, y, after, rfl, by simpa using ⟨⟨b, hb⟩, hbefore⟩, hy⟩
    · rintro ⟨before, y, after, hcut, hbefore, hy⟩
      cases before with
      | nil =>
        obtain ⟨rfl, rfl⟩ := List.cons.inj hcut
        exact .inl hy
      | cons first before =>
        obtain ⟨rfl, rfl⟩ := List.cons.inj hcut
        obtain ⟨b, hb⟩ := hbefore x (List.mem_cons_self ..)
        exact .inr ⟨b, hb, before, y, after, rfl,
          fun z hz => hbefore z (List.mem_cons_of_mem _ hz), hy⟩

theorem mapM_eq_some_iff {f : α → Option β} :
    xs.mapM f = some ys ↔ List.Forall₂ (fun x y => f x = some y) xs ys := by
  induction xs generalizing ys with
  | nil => cases ys <;> simp
  | cons x xs ih =>
    simp only [List.mapM_cons, Option.bind_eq_bind, Option.bind_eq_some_iff, ih, Option.pure_def,
      Option.some.injEq]
    constructor
    · rintro ⟨y, hy, rest, hrest, rfl⟩
      exact .cons hy hrest
    · intro h
      cases h with
      | cons hy hrest => exact ⟨_, hy, _, hrest, rfl⟩

/-! ### Ways of ending -/

/-- If the computation fails, something holds of its error; otherwise something holds of what comes
out. -/
def Ends (p : ε → Prop) (q : α → Prop) : Except ε α → Prop
  | .error e => p e
  | .ok a => q a

variable {p p' : ε → Prop} {q q' : α → Prop}

@[simp] theorem ends_ok_iff {a : α} : Ends p q (.ok a) ↔ q a := Iff.rfl

@[simp] theorem ends_error_iff : Ends p q (.error e) ↔ p e := Iff.rfl

theorem Ends.mono (h : Ends p q x) (hp : ∀ e, p e → p' e) (hq : ∀ a, q a → q' a) :
    Ends p' q' x := by
  cases x with
  | error e => exact hp e h
  | ok a => exact hq a h

/-- What holds at the end of the first part is there to be used in the second. -/
theorem Ends.bind {q' : β → Prop} {f : α → Except ε β} (hx : Ends p q x)
    (hf : ∀ a, x = .ok a → q a → Ends p q' (f a)) : Ends p q' (x >>= f) := by
  cases x with
  | error e => exact hx
  | ok a => exact hf a rfl hx

/-- The first part of a computation is one of two. -/
theorem Ends.either_bind {c : Prop} [Decidable c] {y : Except ε α} {q' : β → Prop}
    {f : α → Except ε β} (hx : c → Ends p q x) (hy : ¬ c → Ends p q y)
    (hf : ∀ a, q a → Ends p q' (f a)) : Ends p q' (if c then x >>= f else y >>= f) := by
  split
  · exact (hx ‹_›).bind fun a _ ha => hf a ha
  · exact (hy ‹_›).bind fun a _ ha => hf a ha

/-- A computation goes on unless it fails at once. -/
theorem Ends.unless {c : Prop} [Decidable c] {refusal : Except ε β} (hx : Ends p q x)
    (hrefusal : Ends p (fun _ => False) refusal) :
    Ends p q (if c then refusal >>= fun _ => x else x) := by
  split
  · exact hrefusal.bind fun _ _ h => h.elim
  · exact hx

/-- If the computation fails, then with an error of which something holds. -/
abbrev FailsOnly (p : ε → Prop) (x : Except ε α) : Prop := Ends p (fun _ => True) x

theorem failsOnly_ok {a : α} : FailsOnly p (.ok a) := trivial

theorem FailsOnly.bind {f : α → Except ε β} (hx : FailsOnly p x)
    (hf : ∀ a, x = .ok a → FailsOnly p (f a)) : FailsOnly p (x >>= f) :=
  Ends.bind hx fun a ha _ => hf a ha

theorem failsOnly_foldlM {f : β → α → Except ε β} {b : β}
    (h : ∀ b, ∀ x ∈ xs, FailsOnly p (f b x)) : FailsOnly p (xs.foldlM f b) := by
  induction xs generalizing b with
  | nil => exact failsOnly_ok
  | cons x xs ih =>
    rw [List.foldlM_cons]
    refine (h b x List.mem_cons_self).bind fun next _ => ?_
    exact ih fun b y hy => h b y (List.mem_cons_of_mem _ hy)

end FileSieve
