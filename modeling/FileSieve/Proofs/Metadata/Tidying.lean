import FileSieve.Proofs.Metadata.Accounting
import FileSieve.Proofs.Metadata.Refetch

/-!
# Tidying up is not seen

Tidying up only takes away what would not be used any more: an entry that is too old stays so while
the clock does not go back. So a history in which somebody tidies up more often looks the same to
those who ask.

* `Situation.Agrees`: the situations that look the same from now on.
* `Situation.Agrees.after`, `Situation.Agrees.cleanup`: a step that both take, and tidying up that
  only one does.
* `Situation.Agrees.run`: a history, and the same with more tidying up.
* `replies_tidied`: whoever asks is told the same.
-/

namespace FileSieve.MetadataCache

variable {τ : Type} {cache : MetadataCache τ} {files : FileTable} {path other : List Char}
  {now : τ} {entry : CacheEntry τ} {m : Metadata}

/-- The second history is the first one with more tidying up in it. -/
inductive Tidied : List (Step τ) → List (Step τ) → Prop where
  | nil : Tidied [] []
  | keep (step : Step τ) {history tidied : List (Step τ)} (h : Tidied history tidied) :
      Tidied (step :: history) (step :: tidied)
  | cleanup (now : τ) {history tidied : List (Step τ)} (h : Tidied history tidied) :
      Tidied history (.cleanup now :: tidied)

/-- What is seen of a request, and the counts after it. -/
structure Reply where
  /-- The metadata, or why there is none. -/
  outcome : Except FileError Metadata
  /-- Was an entry used? -/
  isHit : Bool
  /-- How often an entry was used so far. -/
  hits : Nat
  /-- How often it was necessary to look so far. -/
  misses : Nat

/-! ### Entries -/

/-- Where no path has two entries, a path has the one that is there. -/
theorem IsDistinct.find?_eq_some_iff (h : cache.IsDistinct) :
    cache.find? path = some entry ↔ (path, entry) ∈ cache.entries := by
  refine ⟨mem_of_find?, fun hmem => ?_⟩
  obtain ⟨before, after, hentries⟩ := List.append_of_mem hmem
  refine List.lookup_eq_some_iff.2 ⟨before, after, hentries, fun head hhead => ?_⟩
  have hnodup : ((before ++ (path, entry) :: after).map Prod.fst).Nodup := hentries ▸ h
  rw [List.map_append, List.nodup_append] at hnodup
  exact bne_iff_ne.2 (hnodup.2.2 head.1 (List.mem_map_of_mem hhead) path List.mem_cons_self).symm

variable [Clock τ]

theorem IsDistinct.cleanup (h : cache.IsDistinct) (now : τ) : (cache.cleanup now).1.IsDistinct :=
  h.filter _

/-- Tidying up keeps the entry of a path if it is not too old. -/
theorem IsDistinct.find?_cleanup (h : cache.IsDistinct) (now : τ) (path : List Char) :
    (cache.cleanup now).1.find? path =
      (cache.find? path).filter fun entry => !cache.isExpired now entry := by
  refine Option.ext fun entry => ?_
  rw [(h.cleanup now).find?_eq_some_iff, mem_entries_cleanup, ← h.find?_eq_some_iff,
    Option.filter_eq_some_iff, Bool.not_eq_true']

theorem outcome_get_of_misses (hmisses : cache.Misses path now) :
    (cache.get files path now).2 = files.metadata path := by
  rw [get_of_misses hmisses]
  cases files.metadata path <;> rfl

/-- What there is for a path once it was necessary to look. -/
theorem find?_get_self_of_misses (henabled : cache.isEnabled = true)
    (hmisses : cache.Misses path now) :
    (cache.get files path now).1.find? path =
      (files.metadata path).toOption.map (⟨·, now⟩) := by
  cases hfound : files.metadata path with
  | ok m => exact find?_get_of_misses henabled hmisses hfound
  | error failure =>
    exact find?_get_of_error henabled ((outcome_get_of_misses hmisses).trans hfound)

theorem counts_get_of_misses (hmisses : cache.Misses path now) :
    (cache.get files path now).1.hits = cache.hits ∧
      (cache.get files path now).1.misses = cache.misses + 1 := by
  rw [get_of_misses hmisses]
  cases files.metadata path with
  | error failure => exact missed_counts _ _ _
  | ok m =>
    simp only [keep_counts]
    exact missed_counts _ _ _

/-- Would an entry be used for the path? -/
def isHit (cache : MetadataCache τ) (path : List Char) (now : τ) : Bool :=
  match cache.lookup path now with
  | .fresh _ => true
  | .expired | .absent => false

theorem isHit_of_misses (hmisses : cache.Misses path now) : cache.isHit path now = false := by
  unfold isHit
  split
  · rename_i m hfresh
    exact absurd hfresh (hmisses m)
  · rfl
  · rfl

theorem isHit_of_fresh (h : cache.lookup path now = .fresh m) : cache.isHit path now = true := by
  simp only [isHit, h]

namespace Situation

variable {s t : Situation τ} {step : Step τ} {history tidied : List (Step τ)} {ticks : List τ}

/-- What is seen when the metadata of a path is asked for. -/
def reply (s : Situation τ) (path : List Char) (now : τ) : Reply :=
  let (cache, outcome) := s.cache.get s.files path now
  ⟨outcome, s.cache.isHit path now, cache.hits, cache.misses⟩

/-- What is seen of a step. -/
def reply? (s : Situation τ) : Step τ → Option Reply
  | .get path now => some (s.reply path now)
  | .invalidate _ | .cleanup _ | .clear | .rewrite _ => none

/-- What is seen of a history. -/
def replies (s : Situation τ) : List (Step τ) → List Reply
  | [] => []
  | step :: history => (s.reply? step).toList ++ (s.after step).replies history

/-! ### Situations that look the same -/

/-- The situations look the same at any of some readings of the clock: whatever entry the second
one lacks is too old then. -/
structure Agrees (ticks : List τ) (s t : Situation τ) : Prop where
  files : t.files = s.files
  lifetime : t.cache.lifetime = s.cache.lifetime
  enabled : s.cache.isEnabled = true
  enabled' : t.cache.isEnabled = true
  distinct : s.cache.IsDistinct
  distinct' : t.cache.IsDistinct
  hits : t.cache.hits = s.cache.hits
  misses : t.cache.misses = s.cache.misses
  entries : ∀ path, t.cache.find? path = s.cache.find? path ∨
    t.cache.find? path = none ∧ ∃ entry, s.cache.find? path = some entry ∧
      ∀ tick ∈ ticks, s.cache.isExpired tick entry = true

namespace Agrees

theorem refl (henabled : s.cache.isEnabled = true) (hdistinct : s.cache.IsDistinct) :
    s.Agrees ticks s :=
  ⟨rfl, rfl, henabled, henabled, hdistinct, hdistinct, rfl, rfl, fun _ => .inl rfl⟩

theorem mono {fewer : List τ} (h : s.Agrees ticks t) (hsubset : fewer ⊆ ticks) :
    s.Agrees fewer t :=
  { h with
    entries := fun path => (h.entries path).imp id fun ⟨hnone, entry, hentry, hold⟩ =>
      ⟨hnone, entry, hentry, fun tick htick => hold tick (hsubset htick)⟩ }

theorem isExpired_eq (h : s.Agrees ticks t) (now : τ) (entry : CacheEntry τ) :
    t.cache.isExpired now entry = s.cache.isExpired now entry := by
  rw [isExpired, h.lifetime, ← isExpired]

/-- An entry that is used in the one situation is used in the other. -/
theorem lookup_eq_fresh_iff (h : s.Agrees ticks t) (hnow : now ∈ ticks) :
    t.cache.lookup path now = .fresh m ↔ s.cache.lookup path now = .fresh m := by
  simp only [MetadataCache.lookup_eq_fresh_iff, h.enabled, h.enabled', h.isExpired_eq]
  rcases h.entries path with heq | ⟨hnone, entry, hentry, hold⟩
  · rw [heq]
  · simp [hnone, hentry, hold now hnow]

theorem misses_iff (h : s.Agrees ticks t) (hnow : now ∈ ticks) :
    t.cache.Misses path now ↔ s.cache.Misses path now :=
  forall_congr' fun _ => not_congr (h.lookup_eq_fresh_iff hnow)

/-- **The same is seen of a request.** -/
theorem reply_eq (h : s.Agrees ticks t) (hnow : now ∈ ticks) :
    t.reply path now = s.reply path now := by
  unfold reply
  by_cases hmisses : s.cache.Misses path now
  · have hmisses' := (h.misses_iff hnow).2 hmisses
    simp only [outcome_get_of_misses hmisses, outcome_get_of_misses hmisses', h.files,
      isHit_of_misses hmisses, isHit_of_misses hmisses', counts_get_of_misses hmisses,
      counts_get_of_misses hmisses', h.hits, h.misses]
  · obtain ⟨m, hfresh⟩ := not_forall_not.1 hmisses
    have hfresh' := (h.lookup_eq_fresh_iff hnow).2 hfresh
    simp only [get_of_fresh hfresh, get_of_fresh hfresh', isHit_of_fresh hfresh,
      isHit_of_fresh hfresh', h.hits, h.misses]

theorem reply?_eq (h : s.Agrees ticks t)
    (hreading : ∀ tick, step.reading? = some tick → tick ∈ ticks) :
    t.reply? step = s.reply? step := by
  cases step with
  | get path now => exact congrArg some (h.reply_eq (hreading now rfl))
  | invalidate | cleanup | clear | rewrite => rfl

/-! ### Steps -/

/-- Both situations ask for the same. -/
theorem get (h : s.Agrees ticks t) (hnow : now ∈ ticks) :
    (s.after (.get path now)).Agrees ticks (t.after (.get path now)) := by
  have hreply : t.reply path now = s.reply path now := h.reply_eq hnow
  refine ⟨h.files, ?_, after_settings.2.trans h.enabled, after_settings.2.trans h.enabled',
    distinct_after h.distinct, distinct_after h.distinct', congrArg Reply.hits hreply,
    congrArg Reply.misses hreply, fun asked => ?_⟩
  · rw [after_settings.1, after_settings.1, h.lifetime]
  change (t.cache.get t.files path now).1.find? asked =
    (s.cache.get s.files path now).1.find? asked ∨ _
  by_cases hasked : asked = path
  · subst hasked
    left
    by_cases hmisses : s.cache.Misses asked now
    · rw [find?_get_self_of_misses h.enabled hmisses,
        find?_get_self_of_misses h.enabled' ((h.misses_iff hnow).2 hmisses), h.files]
    · obtain ⟨m, hfresh⟩ := not_forall_not.1 hmisses
      have hfresh' := (h.lookup_eq_fresh_iff hnow).2 hfresh
      rw [get_of_fresh hfresh, get_of_fresh hfresh']
      -- an entry that is used is not one of those that are lacking
      rcases h.entries asked with heq | ⟨hnone, -⟩
      · exact heq
      · obtain ⟨-, entry, hentry, -⟩ := MetadataCache.lookup_eq_fresh_iff.1 hfresh'
        cases hnone.symm.trans hentry
  · rw [find?_get_of_ne hasked]
    refine (h.entries asked).imp (·.trans (find?_get_of_ne hasked).symm) ?_
    rintro ⟨hnone, entry, hentry, hold⟩
    refine ⟨(find?_get_of_ne hasked).trans hnone, entry,
      (find?_get_of_ne hasked).trans hentry, fun tick htick => ?_⟩
    rw [isExpired, after_settings.1]
    exact hold tick htick

/-- Both situations lose the entry of a path. -/
theorem invalidate (h : s.Agrees ticks t) :
    (s.after (.invalidate path)).Agrees ticks (t.after (.invalidate path)) :=
  { h with
    distinct := h.distinct.drop
    distinct' := h.distinct'.drop
    entries := fun other => by
      change (t.cache.drop path).find? other = (s.cache.drop path).find? other ∨
        (t.cache.drop path).find? other = none ∧ ∃ entry,
          (s.cache.drop path).find? other = some entry ∧ _
      by_cases hother : other = path
      · subst hother
        exact .inl (find?_drop_self.trans find?_drop_self.symm)
      · rw [find?_drop_of_ne hother, find?_drop_of_ne hother]
        exact h.entries other }

/-- Both situations are tidied up. -/
theorem cleanup (h : s.Agrees ticks t) (hnow : now ∈ ticks) :
    (s.after (.cleanup now)).Agrees ticks (t.after (.cleanup now)) :=
  { h with
    distinct := h.distinct.cleanup now
    distinct' := h.distinct'.cleanup now
    entries := fun path => by
      left
      change (t.cache.cleanup now).1.find? path = (s.cache.cleanup now).1.find? path
      rw [h.distinct.find?_cleanup, h.distinct'.find?_cleanup]
      rcases h.entries path with heq | ⟨hnone, entry, hentry, hold⟩
      · simp only [heq, h.isExpired_eq]
      · rw [hnone, hentry, Option.filter_none, Option.filter_some_neg (by simp [hold now hnow])] }

/-- **Only the second situation is tidied up**, at a reading that is not after the others. -/
theorem cleanup_right {s t : Situation Rat} {ticks : List Rat} {now : Rat} (h : s.Agrees ticks t)
    (hlater : ∀ tick ∈ ticks, now ≤ tick) : s.Agrees ticks (t.after (.cleanup now)) :=
  { h with
    distinct' := h.distinct'.cleanup now
    entries := fun path => by
      have hkept := h.distinct'.find?_cleanup now path
      change (t.cache.cleanup now).1.find? path = s.cache.find? path ∨
        (t.cache.cleanup now).1.find? path = none ∧ _
      rw [hkept]
      rcases h.entries path with heq | ⟨hnone, hlacking⟩
      · cases hentry : s.cache.find? path with
        | none => exact .inl (by rw [heq, hentry, Option.filter_none])
        | some entry =>
          rw [heq, hentry]
          cases hexpired : s.cache.isExpired now entry with
          | false => exact .inl (Option.filter_some_pos (by simp [h.isExpired_eq, hexpired]))
          | true =>
            -- it is lacking from now on, when it stays too old
            exact .inr ⟨Option.filter_some_neg (by simp [h.isExpired_eq, hexpired]), entry, rfl,
              fun tick htick => Lifetime.isOver_mono hexpired (hlater tick htick)⟩
      · rw [hnone]
        exact .inr ⟨rfl, hlacking⟩ }

/-- **A step that both situations take.** -/
theorem after (h : s.Agrees ticks t)
    (hreading : ∀ tick, step.reading? = some tick → tick ∈ ticks) :
    (s.after step).Agrees ticks (t.after step) := by
  cases step with
  | get path now => exact h.get (hreading now rfl)
  | invalidate path => exact h.invalidate
  | cleanup now => exact h.cleanup (hreading now rfl)
  | clear =>
    exact { h with
      distinct := List.nodup_nil
      distinct' := List.nodup_nil
      entries := fun _ => .inl rfl }
  | rewrite files => exact { h with files := rfl }

/-- **A history, and the same with more tidying up.** -/
theorem run {s t : Situation Rat} {history tidied : List (Step Rat)}
    (htidied : Tidied history tidied) (hclock : Step.InOrder tidied)
    (h : s.Agrees (tidied.filterMap Step.reading?) t) :
    t.replies tidied = s.replies history ∧ (s.run history).Agrees [] (t.run tidied) := by
  induction htidied generalizing s t with
  | nil => exact ⟨rfl, h⟩
  | @keep step history tidied _ ih =>
    have hlater : tidied.filterMap Step.reading? ⊆ (step :: tidied).filterMap Step.reading? :=
      ((List.sublist_cons_self step tidied).filterMap _).subset
    have hreading (tick : Rat) (htick : step.reading? = some tick) :
        tick ∈ (step :: tidied).filterMap Step.reading? :=
      List.mem_filterMap.2 ⟨step, List.mem_cons_self, htick⟩
    have hrest := ih (hclock.sublist ((List.sublist_cons_self step tidied).filterMap _))
      ((h.after hreading).mono hlater)
    refine ⟨?_, hrest.2⟩
    rw [replies, replies, h.reply?_eq hreading, hrest.1]
  | @cleanup now history tidied _ ih =>
    have hreadings := List.pairwise_cons.1 hclock
    exact ih hreadings.2 ((h.mono (List.subset_cons_self _ _)).cleanup_right hreadings.1)

end Agrees
end Situation

/-! ### Whoever asks -/

/-- **Tidying up is not seen.** Somebody may tidy up more often in a history of a new cache, at
whatever readings of a clock that does not go back: each request comes to the same metadata or the
same failure, it is a hit where it was one, and the hits and misses are as many at any time. And
after tidying up there is nothing that is too old. -/
theorem replies_tidied (lifetime : Lifetime) (files : FileTable)
    {history tidied : List (Step Rat)} (htidied : Tidied history tidied)
    (hclock : Step.InOrder tidied) :
    let start : Situation Rat := ⟨.empty lifetime true, files⟩
    let here := (start.run tidied).cache
    start.replies tidied = start.replies history ∧
      here.hits = (start.run history).cache.hits ∧
      here.misses = (start.run history).cache.misses ∧
      ∀ now path entry, (path, entry) ∈ (here.cleanup now).1.entries →
        here.isExpired now entry = false := by
  intro start here
  have hstart : start.Agrees (tidied.filterMap Step.reading?) start := .refl rfl List.nodup_nil
  obtain ⟨hreplies, hagrees⟩ := hstart.run htidied hclock
  exact ⟨hreplies, hagrees.hits, hagrees.misses, fun now path entry => cleanup_fresh⟩

/-- Tidied up twice before it is asked for again, and once more after the file is gone. -/
theorem replies_tidied_twice :
    let node : FileNode := ⟨.file, 0o644, 5, .finite 0, none, none, [], none, none⟩
    let files : FileTable := ⟨[("a".toList, node)], false⟩
    let start : Situation Rat := ⟨.empty (.whole 300) true, files⟩
    let history := [.get "a".toList 0, .get "a".toList 301, .rewrite ⟨[], false⟩,
      .get "a".toList 602]
    let tidied := [.get "a".toList 0, .cleanup 300, .cleanup 301, .get "a".toList 301,
      .rewrite ⟨[], false⟩, .cleanup 602, .get "a".toList 602]
    Tidied history tidied ∧ Step.InOrder tidied ∧
      start.replies tidied = start.replies history := by
  intro node files start history tidied
  have htidied : Tidied history tidied :=
    .keep _ <| .cleanup _ <| .cleanup _ <| .keep _ <| .keep _ <| .cleanup _ <| .keep _ .nil
  have hclock : Step.InOrder tidied := by
    unfold Step.InOrder
    decide +kernel
  exact ⟨htidied, hclock, (replies_tidied (.whole 300) files htidied hclock).1⟩

end FileSieve.MetadataCache
