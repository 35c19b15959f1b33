import FileSieve.VirtualTag.Evaluation
import FileSieve.Proofs.Metadata.History

/-!
# A cache nobody notices

While nothing changes on disk, the answers to a sequence of requests do not depend on the cache:
neither on whether anything is kept, nor for how long, nor on what was kept before, as long as that
is what would be found on disk.

* `MetadataCache.get_of_faithful`: a cache that agrees with the disk answers as the disk does.
* `holds_eq_of_faithful`: two such caches lead to the same finding about a tag.
* `replies_eq_of_faithful`: they lead to the same replies to any requests.
* `replies_eq_of_disabled`: a new cache leads to the same replies as none.
-/

namespace FileSieve

open Calendar

/-! ### Caches that agree with the disk -/

namespace MetadataCache

variable {τ : Type} {cache : MetadataCache τ} {files : FileTable} {path : List Char} {now : τ}

/-- What is kept is what would be found on disk. -/
def Faithful (cache : MetadataCache τ) (files : FileTable) : Prop :=
  ∀ path entry, (path, entry) ∈ cache.entries → files.metadata path = .ok entry.metadata

theorem faithful_empty {lifetime : Lifetime} {isEnabled : Bool} :
    (empty lifetime isEnabled : MetadataCache τ).Faithful files := by
  intro path entry h
  cases h

theorem Faithful.drop (h : cache.Faithful files) : (cache.drop path).Faithful files :=
  fun other entry hentry => h other entry (mem_entries_drop.1 hentry).1

theorem faithful_clear : cache.clear.Faithful files := by
  intro path entry h
  cases h

variable [Clock τ]

theorem Faithful.cleanup (h : cache.Faithful files) : (cache.cleanup now).1.Faithful files :=
  fun other entry hentry => h other entry (mem_entries_cleanup.1 hentry).1

theorem Faithful.get (h : cache.Faithful files) : (cache.get files path now).1.Faithful files := by
  intro other entry hentry
  rcases mem_entries_get hentry with ⟨rfl, -, -, hfound⟩ | hold
  · exact hfound
  · exact h other entry hold

/-- **A cache that agrees with the disk answers as the disk does.** -/
theorem get_of_faithful (h : cache.Faithful files) :
    (cache.get files path now).2 = files.metadata path := by
  by_cases hmisses : cache.Misses path now
  · rw [get_of_misses hmisses]
    cases files.metadata path <;> rfl
  · obtain ⟨m, hfresh⟩ := not_forall_not.1 hmisses
    obtain ⟨-, entry, hentry, -, rfl⟩ := lookup_eq_fresh_iff.1 hfresh
    rw [get_of_fresh hfresh]
    exact (h path entry (mem_of_find? hentry)).symm

end MetadataCache

namespace VirtualTag

variable {τ : Type} [Clock τ] {env : Surroundings τ} {cache other : MetadataCache τ}
  {file : FileRef} {tag : VirtualTag}

/-! ### Checks -/

/-- **Two caches that agree with the disk lead to the same finding about a tag.** -/
theorem holds_eq_of_faithful (h : cache.Faithful env.files) (hother : other.Faithful env.files) :
    (tag.holds env cache file).2 = (tag.holds env other file).2 := by
  cases hname : tag.holdsByName? env.settings file with
  | some b => rw [holds_of_named hname, holds_of_named hname]
  | none =>
    rw [holds_of_unnamed hname, holds_of_unnamed hname, MetadataCache.get_of_faithful h,
      MetadataCache.get_of_faithful hother]

theorem faithful_holds (h : cache.Faithful env.files) :
    (tag.holds env cache file).1.Faithful env.files := by
  cases hname : tag.holdsByName? env.settings file with
  | some b =>
    rw [holds_of_named hname]
    exact h
  | none =>
    rw [holds_of_unnamed hname]
    exact h.get

/-! ### Requests -/

/-- Something that is asked of an evaluator or done to its cache. -/
inductive Request (τ : Type) where
  /-- A file is checked for a tag, at a date and time of day and a reading of the cache clock. -/
  | check (file : FileRef) (tag : VirtualTag) (now : Reading) (tick : τ)
  /-- The metadata of a path is asked for. -/
  | get (path : List Char) (tick : τ)
  /-- The entry of a path is dropped. -/
  | invalidate (path : List Char)
  /-- The entries that are too old are dropped. -/
  | cleanup (tick : τ)
  /-- All entries are dropped. -/
  | clear

/-- What comes back. -/
inductive Reply where
  /-- The verdict on a tag. -/
  | verdict (found : Except EvalError Bool)
  /-- The metadata of a path. -/
  | metadata (found : Except FileError Metadata)
  /-- Nothing of interest. -/
  | done

variable (zone : Zone) (settings : TagSettings) (files : FileTable)

/-- The reply to a request, and the cache afterwards. -/
def Request.answer (cache : MetadataCache τ) : Request τ → MetadataCache τ × Reply
  | .check file tag now tick =>
    let (cache, found) := tag.evaluate ⟨zone, settings, files, now, tick⟩ cache file
    (cache, .verdict found)
  | .get asked tick =>
    let (cache, found) := cache.get files asked tick
    (cache, .metadata found)
  | .invalidate dropped => (cache.drop dropped, .done)
  | .cleanup tick => ((cache.cleanup tick).1, .done)
  | .clear => (cache.clear, .done)

/-- The replies to some requests, one after the other. -/
def replies (cache : MetadataCache τ) : List (Request τ) → List Reply
  | [] => []
  | request :: rest =>
    let (cache, reply) := request.answer zone settings files cache
    reply :: replies cache rest

variable {zone settings files} {request : Request τ}

theorem answer_eq_of_faithful (h : cache.Faithful files) (hother : other.Faithful files) :
    (request.answer zone settings files cache).2 =
      (request.answer zone settings files other).2 := by
  cases request with
  | check file tag now tick =>
    have hholds : (tag.holds ⟨zone, settings, files, now, tick⟩ cache file).2 =
        (tag.holds ⟨zone, settings, files, now, tick⟩ other file).2 :=
      holds_eq_of_faithful h hother
    simp only [Request.answer, evaluate, hholds]
  | get asked tick =>
    simp only [Request.answer, MetadataCache.get_of_faithful h,
      MetadataCache.get_of_faithful hother]
  | invalidate | cleanup | clear => rfl

theorem faithful_answer (h : cache.Faithful files) :
    (request.answer zone settings files cache).1.Faithful files := by
  cases request with
  | check file tag now tick =>
    change (tag.holds ⟨zone, settings, files, now, tick⟩ cache file).1.Faithful files
    exact faithful_holds h
  | get asked tick => exact h.get
  | invalidate dropped => exact h.drop
  | cleanup tick => exact h.cleanup
  | clear => exact MetadataCache.faithful_clear

/-- **Two caches that agree with the disk lead to the same replies**, whatever is requested. -/
theorem replies_eq_of_faithful (requests : List (Request τ)) (h : cache.Faithful files)
    (hother : other.Faithful files) :
    replies zone settings files cache requests = replies zone settings files other requests := by
  -- the caches themselves may come to differ, but both keep agreeing with the disk
  induction requests generalizing cache other with
  | nil => rfl
  | cons request rest ih =>
    simp only [replies]
    rw [answer_eq_of_faithful h hother, ih (faithful_answer h) (faithful_answer hother)]

/-- **Nobody notices a cache while nothing changes on disk**: the verdicts, the metadata and the
failures are those of an evaluator that keeps nothing. -/
theorem replies_eq_of_disabled (zone : Zone) (settings : TagSettings) (files : FileTable)
    (kept unused : Lifetime) (requests : List (Request τ)) :
    replies zone settings files (.empty kept true) requests =
      replies zone settings files (.empty unused false) requests :=
  replies_eq_of_faithful requests MetadataCache.faithful_empty MetadataCache.faithful_empty

end VirtualTag

end FileSieve
