import FileSieve.Proofs.Metadata.Tidying

/-!
# What a cache says it has

An entry stays until it is thrown out by hand, or until its path is asked for or the cache tidied up
when it is too old. A cache says of a path that it has it as long as there is an entry, so that it
does so of entries that are too old and would not be used any more.

* `Situation.find?_after_iff`: what there is of a path after a step.
* `Situation.find?_run_iff`: what there is of a path after a history.
* `Situation.contains_run_iff`, `Situation.isHit_run_iff`: what a cache then says it has, and what
  of it is a hit.
* `contains_of_history`: which paths a cache says it has, and which of them are hits.
* `not_contains_iff_isHit`: the two are not the same.
-/

namespace FileSieve

theorem CacheEntry.exists_iff {τ : Type} {p : CacheEntry τ → Prop} :
    (∃ entry, p entry) ↔ ∃ since m, p ⟨m, since⟩ := by
  constructor
  · rintro ⟨⟨m, since⟩, h⟩
    exact ⟨since, m, h⟩
  · rintro ⟨since, m, h⟩
    exact ⟨⟨m, since⟩, h⟩

namespace MetadataCache

variable {τ : Type} [Clock τ] {cache : MetadataCache τ} {files : FileTable} {path : List Char}
  {now since : τ} {entry : CacheEntry τ} {m : Metadata}

/-! ### Hits -/

/-- A hit is an entry that is not too old. -/
theorem isHit_iff (henabled : cache.isEnabled = true) : cache.isHit path now = true ↔
    ∃ entry, cache.find? path = some entry ∧ cache.isExpired now entry = false := by
  by_cases hmisses : cache.Misses path now
  · rw [isHit_of_misses hmisses]
    refine iff_of_false Bool.false_ne_true ?_
    rintro ⟨entry, hentry, hage⟩
    exact hmisses _ (lookup_eq_fresh_iff.2 ⟨henabled, entry, hentry, hage, rfl⟩)
  · obtain ⟨m, hfresh⟩ := not_forall_not.1 hmisses
    obtain ⟨-, entry, hentry, hage, -⟩ := lookup_eq_fresh_iff.1 hfresh
    exact iff_of_true (isHit_of_fresh hfresh) ⟨entry, hentry, hage⟩

/-- A request is counted as a hit when it is one. -/
theorem hits_get :
    (cache.get files path now).1.hits = cache.hits + (cache.isHit path now).toNat := by
  by_cases hmisses : cache.Misses path now
  · rw [isHit_of_misses hmisses, (counts_get_of_misses hmisses).1]
    rfl
  · obtain ⟨m, hfresh⟩ := not_forall_not.1 hmisses
    rw [isHit_of_fresh hfresh, get_of_fresh hfresh]
    rfl

/-- What there is of a path after it was asked for: what was found on disk if it was necessary to
look, and otherwise what was there before. -/
theorem find?_get_self_iff (henabled : cache.isEnabled = true) :
    (cache.get files path now).1.find? path = some entry ↔
      (cache.Misses path now ∧ files.metadata path = .ok entry.metadata ∧ now = entry.since) ∨
        cache.find? path = some entry ∧ cache.isExpired now entry = false := by
  by_cases hmisses : cache.Misses path now
  · have hold : ¬ (cache.find? path = some entry ∧ cache.isExpired now entry = false) :=
      fun ⟨hentry, hage⟩ => hmisses _ (lookup_eq_fresh_iff.2 ⟨henabled, entry, hentry, hage, rfl⟩)
    rw [find?_get_self_of_misses henabled hmisses, and_iff_right hmisses, or_iff_left hold]
    obtain ⟨m, since⟩ := entry
    cases files.metadata path with
    | error failure => simp [Except.toOption]
    | ok found => simp [Except.toOption]
  · obtain ⟨m, hfresh⟩ := not_forall_not.1 hmisses
    obtain ⟨-, used, hused, hage, -⟩ := lookup_eq_fresh_iff.1 hfresh
    rw [get_of_fresh hfresh, or_iff_right fun h => hmisses h.1]
    refine (and_iff_left_of_imp fun hentry => ?_).symm
    cases hused.symm.trans hentry
    exact hage

/-! ### Steps -/

/-- The step throws out an entry of the path that was made at a reading of the clock: by hand, or as
it is too old when the path is asked for or the cache tidied up. -/
def Step.ThrowsOut (lifetime : Lifetime) (path : List Char) (since : τ) : Step τ → Prop
  | .get asked now => asked = path ∧ lifetime.isOver since now = true
  | .invalidate dropped => dropped = path
  | .cleanup now => lifetime.isOver since now = true
  | .clear => True
  | .rewrite _ => False

namespace Situation

variable {start s : Situation τ} {step : Step τ} {history : List (Step τ)}

/-- The step asks for the path at a reading of the clock, has to look, and finds the metadata. -/
def Fetches (s : Situation τ) (path : List Char) (since : τ) (m : Metadata) (step : Step τ) :
    Prop :=
  step = .get path since ∧ s.cache.Misses path since ∧ s.files.metadata path = .ok m

/-- **What there is of a path after a step**: what the step has fetched, or what was there before
unless the step throws it out. -/
theorem find?_after_iff (hdistinct : s.cache.IsDistinct) (henabled : s.cache.isEnabled = true) :
    (s.after step).cache.find? path = some ⟨m, since⟩ ↔
      s.Fetches path since m step ∨
        s.cache.find? path = some ⟨m, since⟩ ∧
          ¬ step.ThrowsOut s.cache.lifetime path since := by
  cases step with
  | get asked now =>
    by_cases hasked : asked = path
    · subst hasked
      refine (find?_get_self_iff henabled).trans (or_congr ?_ (and_congr_right fun _ => ?_))
      · constructor
        · rintro ⟨hmisses, hfound, rfl⟩
          exact ⟨rfl, hmisses, hfound⟩
        · rintro ⟨hget, hmisses, hfound⟩
          cases hget
          exact ⟨hmisses, hfound, rfl⟩
      · rw [Step.ThrowsOut, and_iff_right rfl, Bool.not_eq_true]
        rfl
    · have hfetch : ¬ s.Fetches path since m (.get asked now) := fun h => by
        cases h.1
        exact hasked rfl
      rw [or_iff_right hfetch, and_iff_left fun h => hasked h.1]
      change (s.cache.get s.files asked now).1.find? path = _ ↔ _
      rw [find?_get_of_ne (Ne.symm hasked)]
  | invalidate dropped =>
    rw [or_iff_right fun h => by cases h.1]
    change (s.cache.drop dropped).find? path = _ ↔ _ ∧ ¬ dropped = path
    by_cases hdropped : dropped = path
    · subst hdropped
      simp [find?_drop_self]
    · rw [find?_drop_of_ne (Ne.symm hdropped), and_iff_left hdropped]
  | cleanup now =>
    rw [or_iff_right fun h => by cases h.1]
    change (s.cache.cleanup now).1.find? path = _ ↔ _
    rw [hdistinct.find?_cleanup, Option.filter_eq_some_iff, Bool.not_eq_true', ← Bool.not_eq_true]
    rfl
  | clear =>
    refine iff_of_false (fun h => by cases h) ?_
    rintro (h | h)
    · cases h.1
    · exact h.2 trivial
  | rewrite files =>
    rw [or_iff_right fun h => by cases h.1]
    exact (and_iff_left id).symm

/-- At some step of the history the metadata of the path was found on disk, and no step since then
has thrown it out. -/
def KeptIn (start : Situation τ) (history : List (Step τ)) (path : List Char) (since : τ)
    (m : Metadata) : Prop :=
  ∃ before step after, history = before ++ step :: after ∧
    (start.run before).Fetches path since m step ∧
    ∀ later ∈ after, ¬ later.ThrowsOut start.cache.lifetime path since

theorem not_keptIn_nil : ¬ start.KeptIn [] path since m := by
  rintro ⟨before, step, after, h, -⟩
  cases before <;> cases h

/-- What is kept in a history with one more step. -/
theorem keptIn_append_iff : start.KeptIn (history ++ [step]) path since m ↔
    (start.run history).Fetches path since m step ∨
      start.KeptIn history path since m ∧ ¬ step.ThrowsOut start.cache.lifetime path since := by
  constructor
  · rintro ⟨before, made, after, heq, hmade, hkept⟩
    rcases List.eq_nil_or_concat after with rfl | ⟨after, last, rfl⟩
    · obtain ⟨hbefore, hlast⟩ := List.append_inj' heq rfl
      cases hbefore
      cases hlast
      exact .inl hmade
    · rw [List.concat_eq_append] at heq hkept
      rw [← List.cons_append, ← List.append_assoc] at heq
      obtain ⟨hbefore, hlast⟩ := List.append_inj' heq rfl
      cases hlast
      rw [List.forall_mem_append] at hkept
      exact .inr ⟨⟨before, made, after, hbefore, hmade, hkept.1⟩,
        hkept.2 step List.mem_cons_self⟩
  · rintro (hmade | ⟨⟨before, made, after, rfl, hmade, hkept⟩, hlast⟩)
    · exact ⟨history, step, [], rfl, hmade, by simp⟩
    · refine ⟨before, made, after ++ [step], by simp, hmade, ?_⟩
      rw [List.forall_mem_append]
      exact ⟨hkept, by simpa using hlast⟩

/-- **What there is of a path after a history**: what a step of it has fetched and no later one has
thrown out. -/
theorem find?_run_iff (hempty : start.cache.entries = [])
    (henabled : start.cache.isEnabled = true) :
    (start.run history).cache.find? path = some ⟨m, since⟩ ↔
      start.KeptIn history path since m := by
  have hdistinct : start.cache.IsDistinct := by
    rw [IsDistinct, hempty]
    exact List.nodup_nil
  induction history using List.reverseRecOn with
  | nil =>
    refine iff_of_false (fun h => ?_) not_keptIn_nil
    have hmem := mem_of_find? h
    change _ ∈ start.cache.entries at hmem
    rw [hempty] at hmem
    cases hmem
  | append_singleton history step ih =>
    rw [run_append, find?_after_iff (distinct_run hdistinct history)
      (run_settings.2.trans henabled), keptIn_append_iff, run_settings.1]
    exact or_congr_right (and_congr_left' ih)

/-- **A cache says that it has what is kept**, however old it is. -/
theorem contains_run_iff (hempty : start.cache.entries = [])
    (henabled : start.cache.isEnabled = true) :
    (start.run history).cache.contains path = true ↔
      ∃ since m, start.KeptIn history path since m := by
  rw [contains, Option.isSome_iff_exists, CacheEntry.exists_iff]
  simp only [find?_run_iff hempty henabled]

/-- **What is kept is a hit unless it is too old.** -/
theorem isHit_run_iff (hempty : start.cache.entries = [])
    (henabled : start.cache.isEnabled = true) :
    (start.run history).cache.isHit path now = true ↔
      ∃ since m, start.KeptIn history path since m ∧
        start.cache.lifetime.isOver since now = false := by
  rw [isHit_iff (run_settings.2.trans henabled), CacheEntry.exists_iff]
  simp only [find?_run_iff hempty henabled, isExpired, run_settings.1]

/-- There is only one reading of the clock at which what is kept was found. -/
theorem KeptIn.since_eq (hempty : start.cache.entries = [])
    (henabled : start.cache.isEnabled = true) {other : τ} {found : Metadata}
    (h : start.KeptIn history path since m) (hother : start.KeptIn history path other found) :
    since = other := by
  rw [← find?_run_iff hempty henabled] at h hother
  cases h.symm.trans hother
  rfl

end Situation

/-! ### Presence -/

/-- **Which paths a cache says it has, and which of them are hits.** After any history of a new
cache, it says that it has a path when its metadata was found at some step and no later one has
thrown it out, however old it is. A request at a reading of the clock is a hit when it is not older
than the lifetime. So the two agree unless what is kept of the path is too old. -/
theorem contains_of_history (lifetime : Lifetime) (files : FileTable) (history : List (Step τ))
    (path : List Char) (now : τ) :
    let start : Situation τ := ⟨.empty lifetime true, files⟩
    let here := start.run history
    (here.cache.contains path = true ↔ ∃ since m, start.KeptIn history path since m) ∧
      (here.cache.isHit path now = true ↔
        ∃ since m, start.KeptIn history path since m ∧ lifetime.isOver since now = false) ∧
      (here.cache.get here.files path now).1.hits =
        here.cache.hits + (here.cache.isHit path now).toNat ∧
      ((here.cache.contains path = true ↔ here.cache.isHit path now = true) ↔
        ¬ ∃ since m, start.KeptIn history path since m ∧ lifetime.isOver since now = true) := by
  intro start here
  have hcontains : here.cache.contains path = true ↔
      ∃ since m, start.KeptIn history path since m := Situation.contains_run_iff rfl rfl
  have hhit : here.cache.isHit path now = true ↔
      ∃ since m, start.KeptIn history path since m ∧ lifetime.isOver since now = false :=
    Situation.isHit_run_iff rfl rfl
  refine ⟨hcontains, hhit, hits_get, ?_⟩
  rw [hcontains, hhit]
  constructor
  · rintro heq ⟨since, m, h, hold⟩
    obtain ⟨other, _, hother, hyoung⟩ := heq.1 ⟨since, m, h⟩
    rw [← h.since_eq rfl rfl hother, hold] at hyoung
    cases hyoung
  · intro hyoung
    constructor
    · rintro ⟨since, m, h⟩
      exact ⟨since, m, h, Bool.eq_false_iff.2 fun hold => hyoung ⟨since, m, h, hold⟩⟩
    · rintro ⟨since, m, h, -⟩
      exact ⟨since, m, h⟩

/-- Seen a second after its lifetime, a file is still said to be there, and it is not a hit. -/
theorem not_contains_iff_isHit : ¬ ∀ (lifetime : Lifetime) (files : FileTable)
    (history : List (Step Binary64)) (path : List Char) (now : Binary64),
    let here := Situation.run ⟨.empty lifetime true, files⟩ history
    here.cache.contains path = true ↔ here.cache.isHit path now = true := by
  intro h
  have hfile := h (.whole 300)
    ⟨[("a".toList, ⟨.file, 0o644, 5, .finite 0, none, none, [], none, none⟩)], false⟩
    [.get "a".toList (.finite 0)] "a".toList (.finite 301)
  revert hfile
  decide +kernel

end MetadataCache

end FileSieve
