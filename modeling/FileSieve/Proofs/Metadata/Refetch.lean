import FileSieve.Proofs.Metadata.History

/-!
# Looking at the disk again

Once the metadata of a path was found on disk, the path is not looked at again within the lifetime,
unless its entry is thrown out by hand. An entry also goes when it is asked for or tidied up too
late, but then a clock that does not go back shows later on that the lifetime is over.

* `find?_after`: a step keeps an entry, or its clock shows that the entry is too old.
* `Situation.FetchedIn.find?_run`: the same of all the steps since the entry was made.
* `lifetime_lt_of_refetch`: between two looks at a path more than the lifetime passes.
-/

namespace FileSieve

/-! ### Ages -/

theorem Binary64.lt_finite_mono {x : Binary64} {v w : Rat} (h : x.lt (.finite v) = true)
    (hvw : v ≤ w) : x.lt (.finite w) = true := by
  cases x with
  | finite u =>
    rw [lt_finite, decide_eq_true_iff] at h ⊢
    exact lt_of_lt_of_le h hvw
  | negativeZero =>
    -- it is compared as the other zero
    have hzero (u : Rat) : negativeZero.lt (.finite u) = decide (0 < u) := lt_finite (v := 0)
    rw [hzero, decide_eq_true_iff] at h ⊢
    exact lt_of_lt_of_le h hvw
  | infinite negative => cases negative <;> exact h
  | nan => exact h

/-- What is too old stays so while the clock does not go back. -/
theorem Lifetime.isOver_mono {lifetime : Lifetime} {since now later : Rat}
    (h : lifetime.isOver since now = true) (hlater : now ≤ later) :
    lifetime.isOver since later = true :=
  Binary64.lt_finite_mono h (sub_le_sub_right hlater since)

namespace MetadataCache

variable {τ : Type} {cache : MetadataCache τ} {files : FileTable} {path other : List Char}
  {now : τ} {entry : CacheEntry τ} {m : Metadata}

/-! ### Steps -/

/-- The reading of the clock that a step looks at. -/
def Step.reading? : Step τ → Option τ
  | .get _ now | .cleanup now => some now
  | .invalidate _ | .clear | .rewrite _ => none

variable [Clock τ]

/-- An entry that is not too old is not tidied up. -/
theorem find?_cleanup (h : cache.find? path = some entry)
    (hage : cache.isExpired now entry = false) :
    (cache.cleanup now).1.find? path = some entry := by
  obtain ⟨before, after, heq, hbefore⟩ := List.lookup_eq_some_iff.1 h
  change (cache.entries.filter fun entry => !cache.isExpired now entry.2).lookup path = some entry
  rw [heq, List.filter_append, List.filter_cons_of_pos (by simp [hage])]
  exact List.lookup_eq_some_iff.2 ⟨_, _, rfl, fun head hhead =>
    hbefore head (List.mem_filter.1 hhead).1⟩

/-- An entry that is not too old is kept when it is asked for. -/
theorem find?_get_self (henabled : cache.isEnabled = true) (h : cache.find? path = some entry)
    (hage : cache.isExpired now entry = false) :
    (cache.get files path now).1.find? path = some entry := by
  have hfresh := lookup_eq_fresh_iff.2 ⟨henabled, entry, h, hage, rfl⟩
  rw [get_of_fresh hfresh]
  exact h

/-- What was just found on disk is kept. -/
theorem find?_get_of_misses (henabled : cache.isEnabled = true) (hmisses : cache.Misses path now)
    (hfound : files.metadata path = .ok m) :
    (cache.get files path now).1.find? path = some ⟨m, now⟩ := by
  rw [get_of_misses hmisses, hfound]
  exact find?_keep_self (missed_settings.2.trans henabled)

/-- **A step keeps an entry, or its clock shows that the entry is too old**, as long as it does not
throw the entry out. -/
theorem find?_after {s : Situation τ} {step : Step τ} (henabled : s.cache.isEnabled = true)
    (h : s.cache.find? path = some entry)
    (hvoid : step ≠ .invalidate path ∧ step ≠ .clear) :
    (s.after step).cache.find? path = some entry ∨
      ∃ tick, step.reading? = some tick ∧ s.cache.isExpired tick entry = true := by
  cases step with
  | get asked tick =>
    by_cases hasked : path = asked
    · subst hasked
      rcases Bool.eq_false_or_eq_true (s.cache.isExpired tick entry) with hold | hfresh
      · exact .inr ⟨tick, rfl, hold⟩
      · exact .inl (find?_get_self henabled h hfresh)
    · exact .inl ((find?_get_of_ne hasked).trans h)
  | invalidate dropped =>
    have hne : path ≠ dropped := by
      rintro rfl
      exact hvoid.1 rfl
    exact .inl ((find?_drop_of_ne hne).trans h)
  | cleanup tick =>
    rcases Bool.eq_false_or_eq_true (s.cache.isExpired tick entry) with hold | hfresh
    · exact .inr ⟨tick, rfl, hold⟩
    · exact .inl (find?_cleanup h hfresh)
  | clear => exact absurd rfl hvoid.2
  | rewrite files => exact .inl h

namespace Situation

variable {start s : Situation τ} {history after : List (Step τ)} {since : τ}

theorem run_append_list (s : Situation τ) (history after : List (Step τ)) :
    s.run (history ++ after) = (s.run history).run after :=
  List.foldl_append

/-- An entry is kept through some steps, or the clock of one of them shows that it is too old. -/
theorem find?_run (henabled : s.cache.isEnabled = true) (h : s.cache.find? path = some entry)
    (hvoid : ∀ step ∈ after, step ≠ .invalidate path ∧ step ≠ .clear) :
    (s.run after).cache.find? path = some entry ∨
      ∃ tick ∈ after.filterMap Step.reading?,
        s.cache.lifetime.isOver entry.since tick = true := by
  induction after using List.reverseRecOn with
  | nil => exact .inl h
  | append_singleton after step ih =>
    rw [run_append, List.filterMap_append]
    rcases ih fun step hstep => hvoid step (List.mem_append_left _ hstep) with hkept | hover
    · have hlast := hvoid step (List.mem_append_right _ List.mem_cons_self)
      refine (find?_after (run_settings.2.trans henabled) hkept hlast).imp id ?_
      rintro ⟨tick, htick, hold⟩
      rw [isExpired, run_settings.1] at hold
      refine ⟨tick, List.mem_append_right _ ?_, hold⟩
      rw [List.mem_filterMap]
      exact ⟨step, List.mem_cons_self, htick⟩
    · -- once it was seen to be too old, nothing has to be known about the entry any more
      obtain ⟨tick, htick, hold⟩ := hover
      exact .inr ⟨tick, List.mem_append_left _ htick, hold⟩

/-- **What was found on disk is kept, or the clock shows that it is too old.** -/
theorem FetchedIn.find?_run (henabled : start.cache.isEnabled = true)
    (h : start.FetchedIn history path since m) :
    (start.run history).cache.find? path = some ⟨m, since⟩ ∨
      ∃ tick ∈ history.filterMap Step.reading?,
        start.cache.lifetime.isOver since tick = true := by
  obtain ⟨before, after, rfl, hmisses, hfound, hvoid⟩ := h
  rw [List.append_cons before, run_append_list, run_append, List.filterMap_append]
  have hkept : ((start.run before).after (.get path since)).cache.find? path = some ⟨m, since⟩ :=
    find?_get_of_misses (run_settings.2.trans henabled) hmisses hfound
  have hlifetime : ((start.run before).after (.get path since)).cache.lifetime =
      start.cache.lifetime := after_settings.1.trans run_settings.1
  refine (Situation.find?_run (after_settings.2.trans (run_settings.2.trans henabled)) hkept
    hvoid).imp id ?_
  rintro ⟨tick, htick, hover⟩
  rw [hlifetime] at hover
  exact ⟨tick, List.mem_append_right _ htick, hover⟩

end Situation

/-! ### Looking twice -/

/-- The clock does not go back during the history. -/
def Step.InOrder (history : List (Step Rat)) : Prop :=
  (history.filterMap Step.reading?).Pairwise (· ≤ ·)

theorem Step.InOrder.reading_le {history : List (Step Rat)} {path : List Char} {now tick : Rat}
    (h : InOrder (history ++ [.get path now])) (htick : tick ∈ history.filterMap reading?) :
    tick ≤ now := by
  rw [InOrder, List.filterMap_append] at h
  exact (List.pairwise_append.1 h).2.2 tick htick now List.mem_cons_self

/-- **Between two looks at a path more than the lifetime passes.** Once the metadata of a path was
found on disk, and the path was not invalidated nor everything cleared since, it is only necessary
to look again, whatever is found then, when the exact time that has passed is more than the
lifetime. What was asked or tidied up meanwhile makes no difference. -/
theorem lifetime_lt_of_refetch {start : Situation Rat} {history : List (Step Rat)}
    {path : List Char} {m : Metadata} {since now : Rat} (henabled : start.cache.isEnabled = true)
    (hfetched : start.FetchedIn history path since m)
    (hclock : Step.InOrder (history ++ [.get path now]))
    (hagain : (start.run history).cache.Misses path now) :
    start.cache.lifetime.seconds.lt (.finite (now - since)) = true := by
  change start.cache.lifetime.isOver since now = true
  rcases hfetched.find?_run henabled with hkept | ⟨tick, htick, hover⟩
  · -- an entry that was not used is too old
    by_contra hfresh
    refine hagain m (lookup_eq_fresh_iff.2
      ⟨Situation.run_settings.2.trans henabled, ⟨m, since⟩, hkept, ?_, rfl⟩)
    rw [isExpired, Situation.run_settings.1]
    exact Bool.eq_false_iff.2 hfresh
  · exact Lifetime.isOver_mono hover (hclock.reading_le htick)

/-- A path that was tidied up 301 seconds after it was found is looked at again at once. -/
theorem lifetime_lt_of_refetch_tidied :
    let node : FileNode := ⟨.file, 0o644, 5, .finite 0, none, none, [], none, none⟩
    let start : Situation Rat := ⟨.empty (.whole 300) true, ⟨[("a".toList, node)], false⟩⟩
    let history := [.get "a".toList 1000, .get "b".toList 1200, .cleanup 1301]
    start.FetchedIn history "a".toList 1000 (node.metadata false) ∧
      Step.InOrder (history ++ [.get "a".toList 1301]) ∧
      (start.run history).cache.Misses "a".toList 1301 ∧
      (Lifetime.whole 300).seconds.lt (.finite (1301 - 1000)) = true := by
  intro node start history
  have hlookup {here : Situation Rat} {tick : Rat}
      (h : here.cache.lookup "a".toList tick = .absent) : here.cache.Misses "a".toList tick := by
    intro m hfresh
    rw [h] at hfresh
    cases hfresh
  have hfirst : start.cache.Misses "a".toList 1000 := hlookup (by decide +kernel)
  have hfetched : start.FetchedIn history "a".toList 1000 (node.metadata false) :=
    ⟨[], [.get "b".toList 1200, .cleanup 1301], rfl, hfirst, by decide +kernel, by simp⟩
  have hclock : Step.InOrder (history ++ [.get "a".toList 1301]) := by
    unfold Step.InOrder
    decide +kernel
  have hagain : (start.run history).cache.Misses "a".toList 1301 := hlookup (by decide +kernel)
  exact ⟨hfetched, hclock, hagain, lifetime_lt_of_refetch rfl hfetched hclock hagain⟩

end MetadataCache

end FileSieve
