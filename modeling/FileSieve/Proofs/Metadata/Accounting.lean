import FileSieve.Proofs.Metadata.History

/-!
# The books of a cache

A cache counts how often an entry was of use, how often it was necessary to look, and how many
entries were dropped because they were too old. Over any history these counts agree with what was
asked and with what has become of the entries: a look has failed, or it has made an entry that is
still there, was dropped for its age, or was thrown out by hand.

* `size_drop`, `size_keep`: how many entries there are after one was dropped or made.
* `hits_add_misses_get`, `misses_get`: what asking does to the counts.
* `find?_get_of_error`: asking in vain leaves no entry for the path.
* `Situation.misses_after`, `Situation.misses_run`: the looks and the entries of a step, and of a
  history.
* `accounts_of_history`: the books after any history of a new cache.
-/

namespace FileSieve.MetadataCache

variable {τ : Type} {cache : MetadataCache τ} {files : FileTable} {path other : List Char}
  {now : τ} {m : Metadata}

/-! ### Numbers of entries -/

/-- No path has two entries. -/
def IsDistinct (cache : MetadataCache τ) : Prop := (cache.entries.map Prod.fst).Nodup

theorem IsDistinct.filter (h : cache.IsDistinct) (p : List Char × CacheEntry τ → Bool) :
    ((cache.entries.filter p).map Prod.fst).Nodup :=
  (List.filter_sublist.map Prod.fst).nodup h

theorem IsDistinct.drop (h : cache.IsDistinct) : (cache.drop path).IsDistinct := h.filter _

theorem IsDistinct.missed (h : cache.IsDistinct) {found : Lookup} :
    (cache.missed path found).IsDistinct := by
  cases found with
  | expired => exact h.drop
  | fresh | absent => exact h

theorem IsDistinct.keep (h : cache.IsDistinct) : (cache.keep path m now).IsDistinct := by
  unfold MetadataCache.keep
  split
  · refine List.nodup_cons.2 ⟨?_, h.filter _⟩
    simp
  · exact h

theorem contains_iff : cache.contains path = true ↔ path ∈ cache.entries.map Prod.fst := by
  unfold contains find?
  rw [Option.isSome_iff_ne_none, Ne, List.lookup_eq_none_iff]
  simp

/-- Where no path has two entries, a path is there once or not at all. -/
theorem IsDistinct.count_eq (h : cache.IsDistinct) :
    (cache.entries.map Prod.fst).count path = (cache.contains path).toNat := by
  cases hcontains : cache.contains path with
  | true => exact List.count_eq_one_of_mem h (contains_iff.1 hcontains)
  | false =>
    refine List.count_eq_zero_of_not_mem ?_
    rw [← contains_iff, hcontains]
    exact Bool.false_ne_true

/-- **Dropping a path takes away its entry, and no other.** -/
theorem size_drop (h : cache.IsDistinct) (path : List Char) :
    (cache.drop path).size + (cache.contains path).toNat = cache.size := by
  have hkept : (cache.drop path).size =
      cache.entries.countP fun entry => decide ¬(entry.1 == path) = true := by
    simp [size, drop, List.countP_eq_length_filter]
  rw [hkept, ← h.count_eq, List.count, List.countP_map, Nat.add_comm]
  exact (List.length_eq_countP_add_countP _).symm

/-- **Metadata of a path that was not there is one more entry.** -/
theorem size_keep (h : cache.IsDistinct) (henabled : cache.isEnabled = true)
    (habsent : cache.find? path = none) : (cache.keep path m now).size = cache.size + 1 := by
  have hdrop := size_drop h path
  rw [contains, habsent, Option.isSome_none, Bool.toNat_false, Nat.add_zero] at hdrop
  rw [← hdrop, keep, if_pos henabled]
  rfl

theorem keep_counts : (cache.keep path m now).hits = cache.hits ∧
    (cache.keep path m now).misses = cache.misses ∧
    (cache.keep path m now).expirations = cache.expirations := by
  unfold keep
  split <;> exact ⟨rfl, rfl, rfl⟩

theorem missed_counts (cache : MetadataCache τ) (path : List Char) (found : Lookup) :
    (cache.missed path found).hits = cache.hits ∧
      (cache.missed path found).misses = cache.misses + 1 := by
  cases found <;> exact ⟨rfl, rfl⟩

variable [Clock τ]

theorem contains_of_expired (h : cache.lookup path now = .expired) :
    cache.contains path = true := by
  unfold lookup at h
  split at h
  · unfold contains
    cases hfind : cache.find? path with
    | none => simp [hfind] at h
    | some entry => rfl
  · cases h

theorem find?_of_absent (henabled : cache.isEnabled = true)
    (h : cache.lookup path now = .absent) : cache.find? path = none := by
  unfold lookup at h
  rw [if_pos henabled] at h
  split at h
  · assumption
  · split at h <;> cases h

/-- When it is necessary to look, nothing is left of the path. -/
theorem find?_missed_self (henabled : cache.isEnabled = true) (hmisses : cache.Misses path now) :
    (cache.missed path (cache.lookup path now)).find? path = none := by
  cases hlookup : cache.lookup path now with
  | fresh m => exact absurd hlookup (hmisses m)
  | expired => exact find?_drop_self
  | absent => exact find?_of_absent henabled hlookup

/-- An entry that is too old is dropped, and counted. -/
theorem size_missed (h : cache.IsDistinct) (path : List Char) (now : τ) :
    (cache.missed path (cache.lookup path now)).size +
        (cache.missed path (cache.lookup path now)).expirations =
      cache.size + cache.expirations := by
  cases hlookup : cache.lookup path now with
  | expired =>
    have hdrop := size_drop h path
    rw [contains_of_expired hlookup, Bool.toNat_true] at hdrop
    change (cache.drop path).size + (cache.expirations + 1) = _
    omega
  | fresh | absent => rfl

/-- What was tidied up is counted. -/
theorem size_cleanup (cache : MetadataCache τ) (now : τ) :
    (cache.cleanup now).1.size + (cache.cleanup now).1.expirations =
      cache.size + cache.expirations := by
  have hle := List.length_filter_le (fun entry => !cache.isExpired now entry.2) cache.entries
  simp only [cleanup, size]
  omega

/-! ### Asking -/

/-- How many failures an outcome is. -/
def failureCount : Except FileError Metadata → Nat
  | .ok _ => 0
  | .error _ => 1

/-- **Asking counts once.** -/
theorem hits_add_misses_get :
    (cache.get files path now).1.hits + (cache.get files path now).1.misses =
      cache.hits + cache.misses + 1 := by
  by_cases hmisses : cache.Misses path now
  · have hmissed := missed_counts cache path (cache.lookup path now)
    rw [get_of_misses hmisses]
    split
    · simp only [hmissed]
      omega
    · simp only [keep_counts, hmissed]
      omega
  · obtain ⟨m, hfresh⟩ := not_forall_not.1 hmisses
    rw [get_of_fresh hfresh]
    simp only
    omega

/-- **A look fails, or it makes an entry; an entry that is too old is counted.** -/
theorem misses_get (h : cache.IsDistinct) (henabled : cache.isEnabled = true) :
    (cache.get files path now).1.misses + (cache.size + cache.expirations) =
      cache.misses + failureCount (cache.get files path now).2 +
        ((cache.get files path now).1.size + (cache.get files path now).1.expirations) := by
  by_cases hmisses : cache.Misses path now
  · have hmissed := missed_counts cache path (cache.lookup path now)
    have hsize := size_missed h path now
    rw [get_of_misses hmisses]
    split
    · simp only [failureCount, hmissed]
      omega
    · rw [size_keep h.missed (missed_settings.2.trans henabled)
        (find?_missed_self henabled hmisses)]
      simp only [failureCount, keep_counts, hmissed]
      omega
  · obtain ⟨m, hfresh⟩ := not_forall_not.1 hmisses
    rw [get_of_fresh hfresh]
    rfl

theorem IsDistinct.get (h : cache.IsDistinct) : (cache.get files path now).1.IsDistinct := by
  by_cases hmisses : cache.Misses path now
  · rw [get_of_misses hmisses]
    split
    · exact h.missed
    · exact h.missed.keep
  · obtain ⟨m, hfresh⟩ := not_forall_not.1 hmisses
    rw [get_of_fresh hfresh]
    exact h

variable {failure : FileError}

/-- Only a look can fail. -/
theorem misses_of_error (h : (cache.get files path now).2 = .error failure) :
    cache.Misses path now := by
  intro m hfresh
  rw [get_of_fresh hfresh] at h
  cases h

theorem get_of_error (h : (cache.get files path now).2 = .error failure) :
    (cache.get files path now).1 = cache.missed path (cache.lookup path now) := by
  have hmisses := misses_of_error h
  rw [get_of_misses hmisses] at h ⊢
  split at h
  · rfl
  · cases h

/-- **Asking in vain leaves no entry for the path.** -/
theorem find?_get_of_error (henabled : cache.isEnabled = true)
    (h : (cache.get files path now).2 = .error failure) :
    (cache.get files path now).1.find? path = none := by
  rw [get_of_error h]
  exact find?_missed_self henabled (misses_of_error h)

/-! ### Caches that keep nothing -/

/-- The cache has kept nothing so far. -/
structure IsIdle (cache : MetadataCache τ) : Prop where
  entries : cache.entries = []
  hits : cache.hits = 0
  expirations : cache.expirations = 0

theorem IsIdle.get (h : cache.IsIdle) (hdisabled : cache.isEnabled = false) :
    (cache.get files path now).1.IsIdle := by
  rw [get_of_disabled hdisabled]
  exact ⟨h.entries, h.hits, h.expirations⟩

/-! ### Steps -/

/-- Does the step ask for metadata? -/
def Step.isGet : Step τ → Bool
  | .get _ _ => true
  | .invalidate _ | .cleanup _ | .clear | .rewrite _ => false

namespace Situation

variable {s start : Situation τ} {step : Step τ} {history : List (Step τ)}

/-- How many times the step asks in vain. -/
def failures (s : Situation τ) : Step τ → Nat
  | .get path now => failureCount (s.cache.get s.files path now).2
  | .invalidate _ | .cleanup _ | .clear | .rewrite _ => 0

/-- How many entries the step invalidates. -/
def invalidations (s : Situation τ) : Step τ → Nat
  | .invalidate path => (s.cache.contains path).toNat
  | .get _ _ | .cleanup _ | .clear | .rewrite _ => 0

/-- How many entries there are when the step clears them. -/
def clearances (s : Situation τ) : Step τ → Nat
  | .clear => s.cache.size
  | .get _ _ | .invalidate _ | .cleanup _ | .rewrite _ => 0

/-- What the steps of a history come to, each in the situation that it meets. -/
def total (count : Situation τ → Step τ → Nat) (s : Situation τ) : List (Step τ) → Nat
  | [] => 0
  | step :: history => count s step + total count (s.after step) history

theorem total_append {count : Situation τ → Step τ → Nat} :
    s.total count (history ++ [step]) = s.total count history + count (s.run history) step := by
  induction history generalizing s with
  | nil => exact Nat.add_comm _ _
  | cons first history ih =>
    rw [List.cons_append, total, total, ih, Nat.add_assoc]
    rfl

theorem distinct_after (h : s.cache.IsDistinct) : (s.after step).cache.IsDistinct := by
  cases step with
  | get path now => exact h.get
  | invalidate path => exact h.drop
  | cleanup now => exact h.filter _
  | clear => exact List.nodup_nil
  | rewrite files => exact h

theorem distinct_run (h : s.cache.IsDistinct) (history : List (Step τ)) :
    (s.run history).cache.IsDistinct := by
  induction history using List.reverseRecOn with
  | nil => exact h
  | append_singleton history step ih =>
    rw [run_append]
    exact distinct_after ih

/-- Each step that asks counts once, and no other step does. -/
theorem hits_add_misses_after : (s.after step).cache.hits + (s.after step).cache.misses =
    s.cache.hits + s.cache.misses + step.isGet.toNat := by
  cases step with
  | get path now => exact hits_add_misses_get
  | invalidate | cleanup | clear | rewrite => rfl

/-- **What a step does to the books**: the looks that it takes fail or make entries, and the entries
that go are those that were too old, invalidated, or cleared. -/
theorem misses_after (h : s.cache.IsDistinct) (henabled : s.cache.isEnabled = true)
    (step : Step τ) :
    (s.after step).cache.misses + (s.cache.size + s.cache.expirations) =
      s.cache.misses + s.failures step +
        ((s.after step).cache.size + (s.after step).cache.expirations) +
        s.invalidations step + s.clearances step := by
  cases step with
  | get path now => exact misses_get h henabled
  | invalidate path =>
    have hdrop := size_drop h path
    change s.cache.misses + (s.cache.size + s.cache.expirations) = s.cache.misses + 0 +
      ((s.cache.drop path).size + s.cache.expirations) + (s.cache.contains path).toNat + 0
    omega
  | cleanup now =>
    have hcleanup := size_cleanup s.cache now
    change s.cache.misses + (s.cache.size + s.cache.expirations) = s.cache.misses + 0 +
      ((s.cache.cleanup now).1.size + (s.cache.cleanup now).1.expirations) + 0 + 0
    omega
  | clear =>
    change s.cache.misses + (s.cache.size + s.cache.expirations) = s.cache.misses + 0 +
      (0 + s.cache.expirations) + 0 + s.cache.size
    omega
  | rewrite files => rfl

theorem idle_after (h : s.cache.IsIdle) (hdisabled : s.cache.isEnabled = false) :
    (s.after step).cache.IsIdle := by
  have hnone {p : List Char × CacheEntry τ → Bool} : s.cache.entries.filter p = [] := by
    rw [h.entries]
    rfl
  cases step with
  | get path now => exact h.get hdisabled
  | invalidate path => exact ⟨hnone, h.hits, h.expirations⟩
  | cleanup now =>
    refine ⟨hnone, h.hits, ?_⟩
    change s.cache.expirations + (s.cache.entries.length - _) = 0
    rw [h.entries, h.expirations]
    rfl
  | clear => exact ⟨rfl, h.hits, h.expirations⟩
  | rewrite files => exact h

/-! ### Histories -/

theorem hits_add_misses_run : (s.run history).cache.hits + (s.run history).cache.misses =
    s.cache.hits + s.cache.misses + history.countP Step.isGet := by
  induction history using List.reverseRecOn with
  | nil => rfl
  | append_singleton history step ih =>
    rw [run_append, hits_add_misses_after, ih, List.countP_append, Nat.add_assoc]
    cases hget : step.isGet <;> simp [hget]

theorem misses_run (h : s.cache.IsDistinct) (henabled : s.cache.isEnabled = true)
    (history : List (Step τ)) :
    (s.run history).cache.misses + (s.cache.size + s.cache.expirations) =
      s.cache.misses + s.total failures history +
        ((s.run history).cache.size + (s.run history).cache.expirations) +
        s.total invalidations history + s.total clearances history := by
  induction history using List.reverseRecOn with
  | nil => rfl
  | append_singleton history step ih =>
    have hstep := misses_after (distinct_run h history) (run_settings.2.trans henabled) step
    rw [run_append, total_append, total_append, total_append]
    omega

theorem idle_run (h : s.cache.IsIdle) (hdisabled : s.cache.isEnabled = false) :
    (s.run history).cache.IsIdle := by
  induction history using List.reverseRecOn with
  | nil => exact h
  | append_singleton history step ih =>
    rw [run_append]
    exact idle_after ih (run_settings.2.trans hdisabled)

end Situation

/-! ### The books -/

/-- **The books of a new cache balance after any history.** Its hits and misses are as many as the
steps that asked. While it keeps anything, each miss is one that failed, an entry that is there, or
one that was too old, invalidated or cleared; otherwise there is nothing to count but misses. And
asking in vain changes nothing but the misses and what was there for the path itself. -/
theorem accounts_of_history (lifetime : Lifetime) (isEnabled : Bool) (files : FileTable)
    (history : List (Step τ)) :
    let start : Situation τ := ⟨.empty lifetime isEnabled, files⟩
    let here := start.run history
    here.cache.hits + here.cache.misses = history.countP Step.isGet ∧
    (isEnabled = true → here.cache.misses = start.total Situation.failures history +
      (here.cache.size + here.cache.expirations) +
      start.total Situation.invalidations history + start.total Situation.clearances history) ∧
    (isEnabled = false →
      here.cache.size = 0 ∧ here.cache.hits = 0 ∧ here.cache.expirations = 0) ∧
    ∀ path now failure, (here.cache.get here.files path now).2 = .error failure →
      let next := (here.cache.get here.files path now).1
      (∀ other, other ≠ path → next.find? other = here.cache.find? other) ∧
        next.find? path = none ∧ next.hits = here.cache.hits := by
  intro start here
  have hdistinct : start.cache.IsDistinct := List.nodup_nil
  have henabled : here.cache.isEnabled = isEnabled := Situation.run_settings.2
  have hidle (hdisabled : isEnabled = false) : here.cache.IsIdle :=
    Situation.idle_run ⟨rfl, rfl, rfl⟩ hdisabled
  refine ⟨?_, fun hon => ?_, fun hoff => ?_, fun path now failure hfailed => ?_⟩
  · exact Situation.hits_add_misses_run.trans (Nat.zero_add _)
  · have hbooks := Situation.misses_run hdistinct hon history
    rwa [show start.cache.misses = 0 from rfl, Nat.zero_add] at hbooks
  · obtain ⟨hentries, hhits, hexpirations⟩ := hidle hoff
    exact ⟨congrArg List.length hentries, hhits, hexpirations⟩
  · intro next
    refine ⟨fun other hother => find?_get_of_ne hother, ?_, ?_⟩
    · cases hon : isEnabled with
      | true => exact find?_get_of_error (henabled.trans hon) hfailed
      | false =>
        have hnext : next.IsIdle := (hidle hon).get (henabled.trans hon)
        rw [find?, hnext.entries]
        rfl
    · change (here.cache.get here.files path now).1.hits = _
      rw [get_of_error hfailed, (missed_counts _ _ _).1]

/-- A file is removed while its entry is there, which is still of use at the age of 300 seconds, and
too old a second later. -/
theorem accounts_of_removed_file :
    let node : FileNode := ⟨.file, 0o644, 5, .finite 0, none, none, [], none, none⟩
    let files : FileTable := ⟨[("a".toList, node)], false⟩
    let start : Situation Rat := ⟨.empty (.whole 300) true, files⟩
    let history := [.get "a".toList 0, .rewrite ⟨[], false⟩, .get "b".toList 200,
      .get "a".toList 300]
    let here := start.run history
    here.cache.hits + here.cache.misses = 3 ∧ here.cache.misses = 1 + (1 + 0) + 0 + 0 ∧
      (here.cache.get here.files "a".toList 301).2 = .error (.refused ⟨.missing, "a".toList⟩) ∧
      (here.cache.get here.files "a".toList 301).1.find? "a".toList = none := by
  intro node files start history here
  obtain ⟨hasked, hlooked, -, hvain⟩ := accounts_of_history (.whole 300) true files history
  have hfailed : (here.cache.get here.files "a".toList 301).2 =
      .error (.refused ⟨.missing, "a".toList⟩) := by
    decide +kernel
  exact ⟨hasked, (hlooked rfl).trans (by decide +kernel), hfailed, (hvain _ _ _ hfailed).2.1⟩

end FileSieve.MetadataCache
