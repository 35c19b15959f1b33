import FileSieve.Metadata.Cache
import FileSieve.Proofs.Number.Whole

/-!
# The history of a cache

A cache is asked, tidied and cleared while the disk changes under it. Whatever happens, each of its
entries is the metadata that was found on disk when the entry was made, and it goes with the first
thing that makes it void.

* `mem_entries_get`: an entry after asking is the one that was just made, or it was there before.
* `Situation.mem_entries_after`: what one step does to the entries.
* `Situation.fetchedIn_of_mem`: every entry goes back to a step of the history that looked.
* `get_of_history`: metadata that is given out was found on disk within the lifetime.
-/

namespace FileSieve

/-! ### Lifetimes -/

namespace Binary64

/-- A number less itself is nothing, unless that is no number. -/
theorem sub_same (x : Binary64) : x.sub x = .finite 0 ∨ x.sub x = .nan := by
  have hzero (v : Rat) : ofRat (v - v) = .finite 0 := by
    rw [sub_self]
    exact ofRat_intCast (m := 0) (by decide)
  cases x with
  | finite v => exact .inl (hzero v)
  | negativeZero => exact .inl (hzero 0)
  | infinite negative => exact .inr (if_pos rfl)
  | nan => exact .inr rfl

theorem lt_nan (x : Binary64) : x.lt .nan = false := by
  cases x <;> rfl

end Binary64

/-- From a reading of the clock to itself no time passes, unless it is no number. -/
class LawfulClock (τ : Type) [Clock τ] : Prop where
  elapsed_self (now : τ) : Clock.elapsed now now = .finite 0 ∨ Clock.elapsed now now = .nan

instance : LawfulClock Binary64 := ⟨Binary64.sub_same⟩

instance : LawfulClock Rat := ⟨fun now => .inl (congrArg Binary64.finite (sub_self now))⟩

/-- Nothing is too old at the reading at which it was asked for. -/
theorem Lifetime.isOver_self {τ : Type} [Clock τ] [LawfulClock τ] {lifetime : Lifetime}
    (h : lifetime.isNegative = false) (now : τ) : lifetime.isOver now now = false := by
  change lifetime.seconds.lt (Clock.elapsed now now) = false
  rcases LawfulClock.elapsed_self now with hsame | hsame
  · rw [hsame]
    exact h
  · rw [hsame, Binary64.lt_nan]

namespace MetadataCache

variable {τ : Type} {cache : MetadataCache τ} {files : FileTable} {path other : List Char}
  {now : τ} {entry : CacheEntry τ} {m : Metadata}

/-! ### Entries -/

theorem mem_of_find? (h : cache.find? path = some entry) : (path, entry) ∈ cache.entries := by
  obtain ⟨before, after, heq, -⟩ := List.lookup_eq_some_iff.1 h
  rw [heq]
  exact List.mem_append_right _ List.mem_cons_self

theorem mem_entries_drop :
    (other, entry) ∈ (cache.drop path).entries ↔ (other, entry) ∈ cache.entries ∧ other ≠ path := by
  simp [drop]

theorem mem_entries_keep (h : (other, entry) ∈ (cache.keep path m now).entries) :
    (other = path ∧ entry = ⟨m, now⟩) ∨ (other, entry) ∈ cache.entries := by
  unfold keep at h
  split at h
  · rcases List.mem_cons.1 h with hnew | hold
    · cases hnew
      exact .inl ⟨rfl, rfl⟩
    · exact .inr (List.mem_filter.1 hold).1
  · exact .inr h

theorem find?_drop_of_ne (h : other ≠ path) : (cache.drop path).find? other = cache.find? other :=
  lookup_filter_ne cache.entries h

theorem find?_keep_of_ne (h : other ≠ path) :
    (cache.keep path m now).find? other = cache.find? other := by
  unfold keep
  split
  · have hrest : (cache.drop path).find? other = cache.find? other := find?_drop_of_ne h
    rw [find?, List.lookup_cons, beq_eq_false_iff_ne.2 h]
    exact hrest
  · rfl

theorem find?_missed_of_ne {found : Lookup} (h : other ≠ path) :
    (cache.missed path found).find? other = cache.find? other := by
  cases found with
  | expired => exact find?_drop_of_ne h
  | fresh | absent => rfl

theorem mem_entries_missed {found : Lookup}
    (h : (other, entry) ∈ (cache.missed path found).entries) : (other, entry) ∈ cache.entries := by
  cases found with
  | expired => exact (mem_entries_drop.1 h).1
  | fresh | absent => exact h

theorem missed_settings {found : Lookup} : (cache.missed path found).lifetime = cache.lifetime ∧
    (cache.missed path found).isEnabled = cache.isEnabled := by
  cases found <;> exact ⟨rfl, rfl⟩

theorem keep_settings : (cache.keep path m now).lifetime = cache.lifetime ∧
    (cache.keep path m now).isEnabled = cache.isEnabled := by
  unfold keep
  split <;> exact ⟨rfl, rfl⟩

variable [Clock τ]

theorem mem_entries_cleanup : (other, entry) ∈ (cache.cleanup now).1.entries ↔
    (other, entry) ∈ cache.entries ∧ cache.isExpired now entry = false := by
  simp [cleanup]

/-! ### Asking -/

/-- It is necessary to look: there is no entry for the path, or it is too old. -/
def Misses (cache : MetadataCache τ) (path : List Char) (now : τ) : Prop :=
  ∀ m, cache.lookup path now ≠ .fresh m

theorem get_of_misses (h : cache.Misses path now) :
    cache.get files path now =
      match files.metadata path with
      | .error failure => (cache.missed path (cache.lookup path now), .error failure)
      | .ok m => ((cache.missed path (cache.lookup path now)).keep path m now, .ok m) := by
  unfold get
  split
  · rename_i m hfresh
    exact absurd hfresh (h m)
  · rfl

/-- An entry after asking is the one that was just made, or it was there before. -/
theorem mem_entries_get (h : (other, entry) ∈ (cache.get files path now).1.entries) :
    (other = path ∧ entry.since = now ∧ cache.Misses path now ∧
        files.metadata path = .ok entry.metadata) ∨
      (other, entry) ∈ cache.entries := by
  by_cases hmisses : cache.Misses path now
  · rw [get_of_misses hmisses] at h
    split at h
    · exact .inr (mem_entries_missed h)
    · rename_i m hm
      rcases mem_entries_keep h with ⟨rfl, rfl⟩ | hold
      · exact .inl ⟨rfl, rfl, hmisses, hm⟩
      · exact .inr (mem_entries_missed hold)
  · obtain ⟨m, hfresh⟩ := not_forall_not.1 hmisses
    rw [get_of_fresh hfresh] at h
    exact .inr h

/-- Metadata that is given out was just found on disk, or it is that of an entry which is not too
old. -/
theorem get_eq_ok (h : (cache.get files path now).2 = .ok m) :
    (cache.Misses path now ∧ files.metadata path = .ok m) ∨
      ∃ entry, (path, entry) ∈ cache.entries ∧ cache.isExpired now entry = false ∧
        entry.metadata = m := by
  by_cases hmisses : cache.Misses path now
  · rw [get_of_misses hmisses] at h
    split at h
    · cases h
    · rename_i found hfound
      cases h
      exact .inl ⟨hmisses, hfound⟩
  · obtain ⟨found, hfresh⟩ := not_forall_not.1 hmisses
    rw [get_of_fresh hfresh] at h
    cases h
    obtain ⟨-, entry, hentry, hage, rfl⟩ := lookup_eq_fresh_iff.1 hfresh
    exact .inr ⟨entry, mem_of_find? hentry, hage, rfl⟩

/-- Asking for a path leaves the entries of other paths as they are. -/
theorem find?_get_of_ne (h : other ≠ path) :
    (cache.get files path now).1.find? other = cache.find? other := by
  by_cases hmisses : cache.Misses path now
  · rw [get_of_misses hmisses]
    split
    · exact find?_missed_of_ne h
    · exact (find?_keep_of_ne h).trans (find?_missed_of_ne h)
  · obtain ⟨m, hfresh⟩ := not_forall_not.1 hmisses
    rw [get_of_fresh hfresh]
    rfl

/-- Asking changes neither the lifetime nor whether anything is kept. -/
theorem get_settings : (cache.get files path now).1.lifetime = cache.lifetime ∧
    (cache.get files path now).1.isEnabled = cache.isEnabled := by
  by_cases hmisses : cache.Misses path now
  · rw [get_of_misses hmisses]
    split
    · exact missed_settings
    · rw [keep_settings.1, keep_settings.2]
      exact missed_settings
  · obtain ⟨m, hfresh⟩ := not_forall_not.1 hmisses
    rw [get_of_fresh hfresh]
    exact ⟨rfl, rfl⟩

/-! ### Steps -/

/-- Something that is done to a cache, or to the disk under it. -/
inductive Step (τ : Type) where
  /-- The metadata of a path is asked for at a reading of the clock. -/
  | get (path : List Char) (now : τ)
  /-- The entry of a path is dropped. -/
  | invalidate (path : List Char)
  /-- The entries that are too old at a reading of the clock are dropped. -/
  | cleanup (now : τ)
  /-- All entries are dropped. -/
  | clear
  /-- Something else is on disk from now on. -/
  | rewrite (files : FileTable)

/-- A cache and what is on disk. -/
structure Situation (τ : Type) where
  /-- The cache. -/
  cache : MetadataCache τ
  /-- What is on disk. -/
  files : FileTable

namespace Situation

variable {start s : Situation τ} {step : Step τ} {history : List (Step τ)} {since : τ}

/-- The situation after a step. -/
def after (s : Situation τ) : Step τ → Situation τ
  | .get path now => { s with cache := (s.cache.get s.files path now).1 }
  | .invalidate path => { s with cache := s.cache.drop path }
  | .cleanup now => { s with cache := (s.cache.cleanup now).1 }
  | .clear => { s with cache := s.cache.clear }
  | .rewrite files => { s with files }

/-- The situation after some steps. -/
def run (s : Situation τ) (history : List (Step τ)) : Situation τ := history.foldl after s

theorem run_append (s : Situation τ) (history : List (Step τ)) (step : Step τ) :
    s.run (history ++ [step]) = (s.run history).after step := by
  rw [run, run, List.foldl_append, List.foldl_cons, List.foldl_nil]

theorem after_settings : (s.after step).cache.lifetime = s.cache.lifetime ∧
    (s.after step).cache.isEnabled = s.cache.isEnabled := by
  cases step with
  | get path now => exact get_settings
  | invalidate | cleanup | clear | rewrite => exact ⟨rfl, rfl⟩

theorem run_settings : (s.run history).cache.lifetime = s.cache.lifetime ∧
    (s.run history).cache.isEnabled = s.cache.isEnabled := by
  induction history using List.reverseRecOn with
  | nil => exact ⟨rfl, rfl⟩
  | append_singleton history step ih =>
    rw [run_append, after_settings.1, after_settings.2]
    exact ih

/-- An entry after a step was made by it, or it was there before and the step does not make it
void. -/
theorem mem_entries_after (h : (path, entry) ∈ (s.after step).cache.entries) :
    (step = .get path entry.since ∧ s.cache.Misses path entry.since ∧
        s.files.metadata path = .ok entry.metadata) ∨
      ((path, entry) ∈ s.cache.entries ∧ step ≠ .invalidate path ∧ step ≠ .clear) := by
  cases step with
  | get asked now =>
    rcases mem_entries_get h with ⟨rfl, rfl, hmisses, hfound⟩ | hold
    · exact .inl ⟨rfl, hmisses, hfound⟩
    · exact .inr ⟨hold, by simp, by simp⟩
  | invalidate dropped =>
    obtain ⟨hold, hne⟩ := mem_entries_drop.1 h
    refine .inr ⟨hold, ?_, by simp⟩
    rintro heq
    cases heq
    exact hne rfl
  | cleanup now => exact .inr ⟨(mem_entries_cleanup.1 h).1, by simp, by simp⟩
  | clear => cases h
  | rewrite files => exact .inr ⟨h, by simp, by simp⟩

/-! ### Histories -/

/-- At some step of the history the path was asked for at a reading of the clock, and the metadata
was found on disk; since then the path was not invalidated, and not everything cleared. -/
def FetchedIn (start : Situation τ) (history : List (Step τ)) (path : List Char) (since : τ)
    (m : Metadata) : Prop :=
  ∃ before after, history = before ++ .get path since :: after ∧
    (start.run before).cache.Misses path since ∧
    (start.run before).files.metadata path = .ok m ∧
    ∀ step ∈ after, step ≠ .invalidate path ∧ step ≠ .clear

theorem fetchedIn_get (hmisses : (start.run history).cache.Misses path now)
    (hfound : (start.run history).files.metadata path = .ok m) :
    start.FetchedIn (history ++ [.get path now]) path now m :=
  ⟨history, [], rfl, hmisses, hfound, by simp⟩

theorem FetchedIn.append (h : start.FetchedIn history path since m)
    (hvoid : step ≠ .invalidate path ∧ step ≠ .clear) :
    start.FetchedIn (history ++ [step]) path since m := by
  obtain ⟨before, after, rfl, hmisses, hfound, hafter⟩ := h
  refine ⟨before, after ++ [step], by simp, hmisses, hfound, fun other hother => ?_⟩
  rcases List.mem_append.1 hother with hother | hother
  · exact hafter other hother
  · rw [List.mem_singleton.1 hother]
    exact hvoid

/-- **Every entry goes back to a step of the history that looked**, and nothing has made it void. -/
theorem fetchedIn_of_mem (hempty : start.cache.entries = [])
    (h : (path, entry) ∈ (start.run history).cache.entries) :
    start.FetchedIn history path entry.since entry.metadata := by
  -- from the end of the history on: the last step made the entry, or it left it alone
  induction history using List.reverseRecOn with
  | nil =>
    change (path, entry) ∈ start.cache.entries at h
    rw [hempty] at h
    cases h
  | append_singleton history step ih =>
    rw [run_append] at h
    rcases mem_entries_after h with ⟨rfl, hmisses, hfound⟩ | ⟨hold, hvoid⟩
    · exact fetchedIn_get hmisses hfound
    · exact (ih hold).append hvoid

end Situation

/-! ### What is given out -/

/-- **Metadata that is given out was found on disk within the lifetime.** After any history of a
new cache, it is what was found for the same path at a step that asked for it not longer ago than
the lifetime, and the path was not invalidated since. An entry whose age is the lifetime itself is
still given out. Ages are told by the clock, which may be exact or round. -/
theorem get_of_history [LawfulClock τ] {lifetime : Lifetime}
    (hnew : new? lifetime true = some cache) (files : FileTable) (history : List (Step τ))
    (path : List Char) (now : τ) :
    let here := Situation.run ⟨cache, files⟩ history
    (∀ m, (here.cache.get here.files path now).2 = .ok m → ∃ since,
      Situation.FetchedIn ⟨cache, files⟩ (history ++ [.get path now]) path since m ∧
        lifetime.isOver since now = false) ∧
    ∀ entry, here.cache.find? path = some entry →
      Clock.elapsed entry.since now = lifetime.seconds →
        (here.cache.get here.files path now).2 = .ok entry.metadata := by
  intro here
  unfold new? at hnew
  split at hnew
  · cases hnew
  · rename_i hnonneg
    cases hnew
    obtain ⟨hlifetime, henabled⟩ : here.cache.lifetime = lifetime ∧
        here.cache.isEnabled = true := Situation.run_settings
    refine ⟨fun m hm => ?_, fun entry hentry hage => ?_⟩
    · rcases get_eq_ok hm with ⟨hmisses, hfound⟩ | ⟨entry, hentry, hage, rfl⟩
      · exact ⟨now, Situation.fetchedIn_get hmisses hfound,
          Lifetime.isOver_self (Bool.eq_false_iff.2 hnonneg) now⟩
      · refine ⟨entry.since, (Situation.fetchedIn_of_mem rfl hentry).append (by simp), ?_⟩
        rwa [isExpired, hlifetime] at hage
    · have hfresh : here.cache.lookup path now = .fresh entry.metadata := by
        refine lookup_eq_fresh_iff.2 ⟨henabled, entry, hentry, ?_, rfl⟩
        rw [isExpired, hlifetime]
        change lifetime.seconds.lt (Clock.elapsed entry.since now) = false
        rw [hage, Binary64.lt, Bool.and_not_self]
      rw [get_of_fresh hfresh]

/-- A file that has grown is still given out as it was found 300 seconds ago, the lifetime. -/
theorem get_of_grown_file :
    let node (size : Int) : FileNode := ⟨.file, 0o644, size, .finite 0, none, none, [], none, none⟩
    let files (size : Int) : FileTable := ⟨[("a".toList, node size)], false⟩
    let start : Situation Binary64 := ⟨.empty (.whole 300) true, files 5⟩
    let history := [.get "a".toList (.finite 1000), .rewrite (files 29)]
    let here := start.run history
    (here.cache.get here.files "a".toList (.finite 1300)).2 = .ok ((node 5).metadata false) ∧
      ∃ since, start.FetchedIn (history ++ [.get "a".toList (.finite 1300)]) "a".toList since
          ((node 5).metadata false) ∧
        (Lifetime.whole 300).isOver since (.finite 1300) = false := by
  intro node files start history here
  have hnew : new? (.whole 300) true = some start.cache := if_neg (by decide)
  have hserved := get_of_history hnew (files 5) history "a".toList (.finite 1300)
  have hgiven : (here.cache.get here.files "a".toList (.finite 1300)).2 =
      .ok ((node 5).metadata false) :=
    hserved.2 ⟨(node 5).metadata false, .finite 1000⟩ (by decide +kernel) (by decide +kernel)
  exact ⟨hgiven, hserved.1 _ hgiven⟩

end MetadataCache

end FileSieve
