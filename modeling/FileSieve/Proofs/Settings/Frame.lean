import FileSieve.Proofs.Settings.Change

/-!
# What setting a value changes

Setting a value may make tables on the way to it, and in the other layers there may be anything at
these places. Still, what is looked up elsewhere stays: a layer says about a path that leads
elsewhere what it said before, and that is all that counts when the layers are laid over each other.

* `Value.setAt?_apart`: in one value, a path that leads elsewhere ends where it ended before.
* `Layers.get?_congr`: what is looked up depends on what each layer has to say about the path.
* `Layers.assign_changes_only_key`: setting a value changes its key, and nothing beside it.
-/

namespace FileSieve

open Text

/-! ### Paths that part -/

/-- The paths part before the end of either of them. -/
def Apart (names other : List (List Char)) : Prop := ¬ names <+: other ∧ ¬ other <+: names

instance (names other : List (List Char)) : Decidable (Apart names other) :=
  inferInstanceAs (Decidable (_ ∧ _))

namespace Apart

variable {name : List Char} {names other : List (List Char)}

theorem ne_nil_left (h : Apart names other) : names ≠ [] := by
  rintro rfl
  exact h.1 List.nil_prefix

theorem ne_nil_right (h : Apart names other) : other ≠ [] := by
  rintro rfl
  exact h.2 List.nil_prefix

theorem of_cons (h : Apart (name :: names) (name :: other)) : Apart names other := by
  rw [Apart, List.prefix_cons_inj, List.prefix_cons_inj] at h
  exact h

end Apart

namespace Value

variable {new v changed : Value} {names other : List (List Char)}

theorem at?_nothing (h : other ≠ []) : (map []).at? other = none := by
  cases other with
  | nil => exact absurd rfl h
  | cons name names => rfl

theorem not_shadows_nothing : ¬ (map []).Shadows other := by
  cases other with
  | nil => exact not_shadows_nil
  | cons name names =>
    intro h
    obtain ⟨w, hw, -⟩ := shadows_cons.1 h
    cases hw

/-- **A path that leads elsewhere ends where it ended before**, and nothing else is in its way. -/
theorem setAt?_apart (hset : setAt? new names v = some changed) (h : Apart names other) :
    changed.at? other = v.at? other ∧ (changed.Shadows other ↔ v.Shadows other) := by
  induction names generalizing v changed other with
  | nil => exact absurd rfl h.ne_nil_left
  | cons name names ih =>
    cases v with
    | map entries =>
      obtain ⟨inner, hinner, rfl⟩ := Option.map_eq_some_iff.1 hset
      cases other with
      | nil => exact absurd rfl h.ne_nil_right
      | cons first other =>
        rw [shadows_cons, shadows_cons, at?, at?]
        by_cases hfirst : first = name
        · subst hfirst
          have hrest := h.of_cons
          obtain ⟨hat, hshadows⟩ := ih hinner hrest
          rw [Table.find?_put_self, Option.bind_some, hat]
          cases hfind : Table.find? (.text first) entries with
          | some w =>
            rw [hfind, Option.getD_some] at hshadows
            simpa using hshadows
          | none =>
            -- a new table has nothing to say about the rest of the path
            have hnames : names.isEmpty = false := by
              simpa using hrest.ne_nil_left
            rw [hfind, Option.getD_none, hnames, if_neg Bool.false_ne_true] at hshadows
            simpa [hnames, at?_nothing hrest.ne_nil_right, not_shadows_nothing] using hshadows
        · rw [Table.find?_put_of_ne (Ne.symm hfirst)]
          exact ⟨rfl, Iff.rfl⟩
    | _ => cases hset

end Value

/-! ### Layers -/

namespace Layers

variable {layers changed : Layers} {key : List Char} {names : List (List Char)} {v : Value}
  {source : Source}

/-- A path that leads elsewhere is decided by the layers that decided it before, and ends in them
where it ended before. -/
theorem set?_apart (hset : layers.set? key v source = some changed)
    (h : Apart (splitAtEach '.' key) names) (other : Source) :
    changed.at? names other = layers.at? names other ∧
      (changed.Decides names other ↔ layers.Decides names other) := by
  by_cases hother : other = source
  · subst hother
    obtain ⟨new, hnew, hset⟩ := Option.bind_eq_some_iff.1 hset
    cases hset
    obtain ⟨hat, hshadows⟩ := Value.setAt?_apart hnew h
    rw [at?, Decides, layer_put_self, Option.bind_some, hat]
    cases hlayer : layers.layer other with
    | none =>
      rw [hlayer, Option.getD_none] at hshadows hat
      rw [Value.at?_nothing h.ne_nil_right] at hat
      simp [at?, Decides, Value.Decides, hlayer, hat, hshadows, Value.not_shadows_nothing,
        Value.at?_nothing h.ne_nil_right]
    | some old =>
      rw [hlayer, Option.getD_some] at hshadows hat
      simp [at?, Decides, Value.Decides, hlayer, hat, hshadows]
  · have hlayer := set?_layer_of_ne hset hother
    rw [at?, at?, Decides, Decides, hlayer]
    exact ⟨rfl, Iff.rfl⟩

/-- What lies at the end of a path in the layers laid over each other depends on what each of them
has to say about the path. -/
theorem at?_overlaid_congr (hlayers : layers.Keyed) (hchanged : changed.Keyed) (hnames : names ≠ [])
    (h : ∀ source, changed.at? names source = layers.at? names source ∧
      (changed.Decides names source ↔ layers.Decides names source)) (sources : List Source) :
    (changed.overlaid sources).at? names = (layers.overlaid sources).at? names := by
  induction sources with
  | nil => rw [at?_overlaid_nil hnames, at?_overlaid_nil hnames]
  | cons source below ih =>
    obtain ⟨hat, hdecides⟩ := h source
    by_cases hsource : layers.Decides names source
    · cases hfound : layers.at? names source with
      | none =>
        rw [at?_overlaid_of_blocked hlayers hsource hfound,
          at?_overlaid_of_blocked hchanged (hdecides.2 hsource) (hat.trans hfound)]
      | some w =>
        rw [at?_overlaid_of_found hlayers hfound,
          at?_overlaid_of_found hchanged (hat.trans hfound), ih]
    · rw [at?_overlaid_of_not_decides hlayers hsource,
        at?_overlaid_of_not_decides hchanged (mt hdecides.1 hsource), ih]

/-- **What is looked up depends on what each layer has to say about the path.** -/
theorem get?_congr (hlayers : layers.Keyed) (hchanged : changed.Keyed)
    (h : ∀ source, changed.at? (splitAtEach '.' key) source =
        layers.at? (splitAtEach '.' key) source ∧
      (changed.Decides (splitAtEach '.' key) source ↔
        layers.Decides (splitAtEach '.' key) source)) (default : Value) :
    changed.get? key default = layers.get? key default := by
  rw [get?_eq hlayers, get?_eq hchanged,
    at?_overlaid_congr hlayers hchanged splitAtEach_ne_nil h]

/-- What the highest layer has at the end of a path is what is looked up, unless it is a table or
null. -/
theorem get?_of_runtime (h : layers.Keyed)
    (hat : layers.at? (splitAtEach '.' key) .runtime = some v)
    (hnull : v ≠ .null) (hshape : v.isTable = false) (default : Value) :
    layers.get? key default = some v := by
  have htop : (layers.overlaid Source.all.reverse).at? (splitAtEach '.' key) = some v := by
    rw [show Source.all.reverse = .runtime :: Source.all.dropLast.reverse from rfl,
      at?_overlaid_of_found h hat, mergeValue_of_other hshape]
  rw [get?_eq h, htop]
  cases v with
  | null => exact absurd rfl hnull
  | _ => rfl

/-- **Setting a value changes its key, and nothing beside it.** The value is found in its layer, the
other layers stay, and so does whatever is looked up under a name that parts from the key before
the end of either; what is set last of all is looked up itself, unless it is a table or null. -/
theorem assign_changes_only_key (h : layers.Reachable) (hv : v.isKeyed = true)
    (hset : (assign key v source).apply layers = (.ok (), changed)) :
    changed.at? (splitAtEach '.' key) source = some v ∧
    (∀ other, other ≠ source → changed.layer other = layers.layer other) ∧
    (∀ other default, Apart (splitAtEach '.' key) (splitAtEach '.' other) →
      changed.get? other default = layers.get? other default) ∧
    (source = .runtime → v ≠ .null → v.isTable = false →
      ∀ default, changed.get? key default = some v) := by
  rw [← set?_eq_some_iff] at hset
  have hchanged : changed.Keyed := h.keyed.set hv hset
  have hat : changed.at? (splitAtEach '.' key) source = some v := by
    obtain ⟨new, hnew, hput⟩ := Option.bind_eq_some_iff.1 hset
    cases hput
    rw [at?, layer_put_self]
    exact Value.at?_setAt? hnew
  refine ⟨hat, fun other hother => set?_layer_of_ne hset hother,
    fun other default hapart => ?_, fun hsource hnull hshape default => ?_⟩
  · exact get?_congr h.keyed hchanged (set?_apart hset hapart) default
  · rw [hsource] at hat
    exact get?_of_runtime hchanged hat hnull hshape default

/-- Below a number of the system, new tables are made for the user. What the arguments say beside
the key is looked up as before. -/
theorem assign_changes_only_key_below_number :
    let layers := (Layers.initial.put .system (.map [(.text ['a'], .int 5)])).put .arguments
      (.map [(.text ['a'], .map [(.text ['x'], .int 1)])])
    let changed := ((assign "a.b.c".toList (.int 7) .user).apply layers).2
    layers.Reachable ∧ (assign "a.b.c".toList (.int 7) .user).apply layers = (.ok (), changed) ∧
      changed.at? (splitAtEach '.' "a.b.c".toList) .user = some (.int 7) ∧
      changed.get? "a.x".toList .null = some (.int 1) := by
  intro layers changed
  have h : layers.Reachable := by
    refine .loadTable _ (.loadTable _ .initial ?_) ?_ <;> decide
  have hset : (assign "a.b.c".toList (.int 7) .user).apply layers = (.ok (), changed) := rfl
  obtain ⟨hat, -, hget, -⟩ := assign_changes_only_key h (by decide) hset
  have hbefore : layers.get? "a.x".toList .null = some (.int 1) := rfl
  refine ⟨h, hset, hat, ?_⟩
  rw [hget "a.x".toList .null (by decide), hbefore]

end Layers

end FileSieve
