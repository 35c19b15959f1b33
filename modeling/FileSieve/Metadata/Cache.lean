import FileSieve.Journal
import FileSieve.Metadata

/-!
# Keeping metadata

A cache keeps the metadata of each path for a while, so that a path is not looked at again for
every question about it. An entry that is older than the lifetime is not used any more; nothing
happens until somebody asks.

* `get_of_fresh`: what is kept and not too old is given without looking.
* `get_of_disabled`: a cache that is switched off always looks, and keeps nothing.
* `cleanup_fresh`: after cleaning up, no entry is too old.
-/

namespace FileSieve

open Text Journal

/-! ### Clocks -/

/-- The readings of a clock, between which time passes. -/
class Clock (τ : Type) where
  /-- The seconds that pass from one reading to another. -/
  elapsed : τ → τ → Binary64

/-- A clock that shows seconds as a floating point number. -/
instance : Clock Binary64 := ⟨fun since now => now.sub since⟩

/-- A clock that shows seconds exactly. -/
instance : Clock Rat := ⟨fun since now => .finite (now - since)⟩

/-- For how long something is kept. -/
inductive Lifetime where
  /-- A whole number of seconds. -/
  | whole (seconds : Int)
  /-- A floating point number of seconds. -/
  | real (seconds : Binary64)
  deriving DecidableEq, Repr

namespace Lifetime

/-- The lifetime in seconds. -/
def seconds : Lifetime → Binary64
  | .whole n => .finite n
  | .real x => x

/-- The text of a lifetime, unless its numeral is too long. -/
def text? : Lifetime → Option (List Char)
  | .whole n => signedNumeral? n
  | .real x => some x.text

/-- Is the lifetime less than nothing? -/
def isNegative (lifetime : Lifetime) : Bool := lifetime.seconds.lt (.finite 0)

/-- Does more than the lifetime pass from one reading to another? -/
def isOver {τ : Type} [Clock τ] (lifetime : Lifetime) (since now : τ) : Bool :=
  lifetime.seconds.lt (Clock.elapsed since now)

/-- What is said about a lifetime that is negative. -/
def refusal? (lifetime : Lifetime) : Option (List Char) := do
  return "ttl_seconds must not be negative: ".toList ++ (← lifetime.text?)

theorem isOver_exact {n : Int} {since now : Rat} :
    (whole n).isOver since now = decide ((n : Rat) < now - since) :=
  Binary64.lt_finite

end Lifetime

/-! ### Entries -/

/-- Metadata with the reading of the clock when it was asked for. -/
structure CacheEntry (τ : Type) where
  /-- The metadata. -/
  metadata : Metadata
  /-- The reading of the clock. -/
  since : τ
  deriving DecidableEq, Repr

/-- The metadata that is kept, and how often it was of use. -/
structure MetadataCache (τ : Type) where
  /-- For how long metadata is kept. -/
  lifetime : Lifetime
  /-- Is anything kept at all? -/
  isEnabled : Bool
  /-- What is kept, by the texts of the paths. -/
  entries : List (List Char × CacheEntry τ)
  /-- How often an entry was used. -/
  hits : Nat
  /-- How often it was necessary to look. -/
  misses : Nat
  /-- How many entries were dropped because they were too old. -/
  expirations : Nat
  deriving DecidableEq, Repr

/-- What a cache has for a path. -/
inductive Lookup where
  /-- Metadata that is not too old. -/
  | fresh (metadata : Metadata)
  /-- Metadata that is too old. -/
  | expired
  /-- Nothing. -/
  | absent
  deriving DecidableEq, Repr

namespace MetadataCache

variable {τ : Type}

/-- An empty cache. -/
def empty (lifetime : Lifetime) (isEnabled : Bool) : MetadataCache τ :=
  ⟨lifetime, isEnabled, [], 0, 0, 0⟩

/-- An empty cache, unless the lifetime is negative. -/
def new? (lifetime : Lifetime) (isEnabled : Bool) : Option (MetadataCache τ) :=
  if lifetime.isNegative then none else some (.empty lifetime isEnabled)

/-- The entry of a path. -/
def find? (cache : MetadataCache τ) (path : List Char) : Option (CacheEntry τ) :=
  cache.entries.lookup path

/-- Is there an entry for a path, however old? -/
def contains (cache : MetadataCache τ) (path : List Char) : Bool := (cache.find? path).isSome

/-- The number of entries. -/
def size (cache : MetadataCache τ) : Nat := cache.entries.length

/-- The cache without the entry of a path. -/
def drop (cache : MetadataCache τ) (path : List Char) : MetadataCache τ :=
  { cache with entries := cache.entries.filter (·.1 ≠ path) }

/-- The cache with metadata that was asked for at a reading of the clock. -/
def keep (cache : MetadataCache τ) (path : List Char) (m : Metadata) (now : τ) :
    MetadataCache τ :=
  if cache.isEnabled then
    { cache with entries := (path, ⟨m, now⟩) :: cache.entries.filter (·.1 ≠ path) }
  else cache

/-- The cache without any entries. -/
def clear (cache : MetadataCache τ) : MetadataCache τ := { cache with entries := [] }

/-- Which part of the requests was answered by an entry, once there was one. -/
def hitRate? (cache : MetadataCache τ) : Option Binary64 :=
  if cache.hits + cache.misses = 0 then none
  else some (.ofRat (mkRat cache.hits (cache.hits + cache.misses)))

theorem find?_drop_self {cache : MetadataCache τ} {path : List Char} :
    (cache.drop path).find? path = none := by
  rw [find?, List.lookup_eq_none_iff]
  intro entry h
  have hne := (List.mem_filter.1 h).2
  simp only [ne_eq, decide_not, Bool.not_eq_eq_eq_not, Bool.not_true,
    decide_eq_false_iff_not] at hne
  exact bne_iff_ne.2 (Ne.symm hne)

theorem find?_keep_self {cache : MetadataCache τ} {path : List Char} {m : Metadata} {now : τ}
    (h : cache.isEnabled = true) : (cache.keep path m now).find? path = some ⟨m, now⟩ := by
  simp [find?, keep, h]

variable [Clock τ]

/-- Is an entry too old? -/
def isExpired (cache : MetadataCache τ) (now : τ) (entry : CacheEntry τ) : Bool :=
  cache.lifetime.isOver entry.since now

/-! ### Asking -/

/-- What the cache has for a path. -/
def lookup (cache : MetadataCache τ) (path : List Char) (now : τ) : Lookup :=
  if cache.isEnabled then
    match cache.find? path with
    | none => .absent
    | some entry => if cache.isExpired now entry then .expired else .fresh entry.metadata
  else .absent

/-- The cache once it is known that it is necessary to look. -/
def missed (cache : MetadataCache τ) (path : List Char) : Lookup → MetadataCache τ
  | .expired =>
    { cache.drop path with misses := cache.misses + 1, expirations := cache.expirations + 1 }
  | _ => { cache with misses := cache.misses + 1 }

/-- The metadata of a path, from the cache if that has it, and the cache afterwards. -/
def get (cache : MetadataCache τ) (files : FileTable) (path : List Char) (now : τ) :
    MetadataCache τ × Except FileError Metadata :=
  match cache.lookup path now with
  | .fresh m => ({ cache with hits := cache.hits + 1 }, .ok m)
  | other =>
    let cache := cache.missed path other
    match files.metadata path with
    | .error failure => (cache, .error failure)
    | .ok m => (cache.keep path m now, .ok m)

/-- What is noted when the metadata of a path is asked for. -/
def getEvents (cache : MetadataCache τ) (files : FileTable) (path : List Char) (now : τ) :
    List Event :=
  let event (text : String) : Event := .of text [("path", .text path)]
  let fetched := match files.metadata path with
    | .ok _ => [event "Metadata fetched"]
    | .error _ => []
  match cache.lookup path now with
  | .fresh _ => [event "Metadata cache hit"]
  | .expired => event "Metadata expired" :: fetched
  | .absent => fetched

/-! ### Tidying -/

/-- The cache without the entries that are too old, and how many those were. -/
def cleanup (cache : MetadataCache τ) (now : τ) : MetadataCache τ × Nat :=
  let kept := cache.entries.filter fun entry => !cache.isExpired now entry.2
  let removed := cache.entries.length - kept.length
  ({ cache with entries := kept, expirations := cache.expirations + removed }, removed)

/-- What is noted when entries were removed. -/
def cleanupEvents (cache : MetadataCache τ) (removed : Nat) : List Event :=
  if removed = 0 then []
  else [.of "Cache cleanup" [("removed", .int removed), ("remaining", .int cache.size)]]

/-! ### Laws -/

variable {cache : MetadataCache τ} {files : FileTable} {path : List Char} {now : τ}
  {m : Metadata} {entry : CacheEntry τ}

theorem lookup_eq_fresh_iff : cache.lookup path now = .fresh m ↔
    cache.isEnabled = true ∧ ∃ entry, cache.find? path = some entry ∧
      cache.isExpired now entry = false ∧ entry.metadata = m := by
  unfold lookup
  by_cases he : cache.isEnabled = true
  · cases hf : cache.find? path with
    | none => simp [he]
    | some entry =>
      by_cases hx : cache.isExpired now entry = true <;> simp [he, hx]
  · simp [he]

theorem get_of_fresh (h : cache.lookup path now = .fresh m) :
    cache.get files path now = ({ cache with hits := cache.hits + 1 }, .ok m) := by
  simp only [get, h]

theorem get_of_disabled (h : cache.isEnabled = false) :
    cache.get files path now =
      ({ cache with misses := cache.misses + 1 }, files.metadata path) := by
  have hl : cache.lookup path now = .absent := by simp [lookup, h]
  simp only [get, hl, missed]
  cases files.metadata path with
  | error _ => rfl
  | ok _ => simp [keep, h]

theorem cleanup_fresh {other : List Char}
    (h : (other, entry) ∈ (cache.cleanup now).1.entries) : cache.isExpired now entry = false := by
  have := (List.mem_filter.1 h).2
  simpa using this

end MetadataCache

end FileSieve
