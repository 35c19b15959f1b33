import FileSieve.Query
import FileSieve.VirtualTag.Evaluation

/-!
# Spellings of a path

Many texts stand for one path. The text of the path is the canonical one of them: it is what every
other spelling is normalised to, and it stays as it is. Extensions, families, directories and
literal patterns go by the path alone, so they cannot tell its spellings apart; the depth can, but
only by a `.` in front.

* `Path.text_ofText_eq_self_iff`: the texts that stay as they are when they are normalised.
* `VirtualTag.exists_evaluate_of_isOfPath`: a tag of the path has one verdict for all that name the
  path.
* `Query.FilePattern.accepts_literal_iff`: a literal pattern takes the texts with the same canonical
  text.
* `FileRef.judged_by_path`: all of this of a text, its canonical text and its path.
-/

namespace FileSieve

open Text

/-! ### Canonical texts -/

namespace Path

/-- Nothing is dropped when the text is read: what follows the root, if anything does, is cut into
names by single separators. A path without root and names is written as a dot. -/
def IsCanonical (s : List Char) : Prop :=
  s = ['.'] ∨ s ≠ [] ∧ ∃ (root : Root) (rest : List Char), s = root.text ++ rest ∧
    (rest = [] ∨ ∀ piece ∈ splitAtEach '/' rest, IsName piece)

theorem isCanonical_text (p : Path) : IsCanonical p.text := by
  simp only [text]
  split
  · exact .inl rfl
  · rename_i hbody
    refine .inr ⟨hbody, p.root, joinWith ['/'] p.names, rfl, ?_⟩
    by_cases hnames : p.names = []
    · exact .inl (by rw [hnames]; rfl)
    · rw [splitAtEach_joinWith hnames fun name h => (p.isName name h).2.2]
      exact .inr p.isName

/-- A canonical text is the text of a path. -/
theorem exists_text_of_isCanonical {s : List Char} (h : IsCanonical s) :
    ∃ p : Path, p.text = s := by
  rcases h with rfl | ⟨hne, root, rest, rfl, rfl | hnames⟩
  · exact ⟨⟨.none, [], by simp⟩, rfl⟩
  · refine ⟨⟨root, [], by simp⟩, ?_⟩
    simp only [text, joinWith]
    exact if_neg hne
  · refine ⟨⟨root, splitAtEach '/' rest, hnames⟩, ?_⟩
    simp only [text, joinWith_splitAtEach]
    exact if_neg hne

/-- **The canonical texts are those that stay as they are when they are normalised.** -/
theorem text_ofText_eq_self_iff {s : List Char} : (ofText s).text = s ↔ IsCanonical s := by
  constructor
  · intro h
    rw [← h]
    exact isCanonical_text (ofText s)
  · intro h
    obtain ⟨p, rfl⟩ := exists_text_of_isCanonical h
    rw [ofText_text]

/-- Different paths have different texts. -/
theorem text_inj {p q : Path} : p.text = q.text ↔ p = q := by
  constructor
  · intro h
    rw [← ofText_text p, h, ofText_text]
  · rintro rfl
    rfl

end Path

/-! ### Tags of the path -/

namespace VirtualTag

/-- The tag is about the components of the path: its extension, the family of its extension, or its
directory. -/
def IsOfPath : VirtualTag → Prop
  | .extension _ | .extensionFamily _ | .directory _ => True
  | _ => False

variable {tag : VirtualTag}

theorem exists_holdsByName?_of_isOfPath (htag : tag.IsOfPath) (settings : TagSettings)
    (file : FileRef) : ∃ b, tag.holdsByName? settings file = some b := by
  cases tag with
  | extension ext | extensionFamily family | directory wanted => exact ⟨_, rfl⟩
  | _ => exact htag.elim

/-- A tag of the path is decided by the path. -/
theorem holdsByName?_congr (htag : tag.IsOfPath) {settings : TagSettings} {file other : FileRef}
    (h : file.path = other.path) :
    tag.holdsByName? settings file = tag.holdsByName? settings other := by
  cases tag with
  | extension ext | extensionFamily family | directory wanted => simp only [holdsByName?, h]
  | _ => exact htag.elim

theorem exists_text_of_isOfPath (htag : tag.IsOfPath) (zone : Calendar.Zone) :
    ∃ text, tag.text zone = .ok text := by
  cases tag with
  | extension ext | extensionFamily family | directory wanted => exact ⟨_, rfl⟩
  | _ => exact htag.elim

/-- **A tag of the path has one verdict for all that name the path**, and neither the disk nor the
cache is asked for it. -/
theorem exists_evaluate_of_isOfPath {τ : Type} [Clock τ] (htag : tag.IsOfPath)
    (env : Surroundings τ) (cache : MetadataCache τ) (p : Path) :
    ∃ b, ∀ file : FileRef, file.path = p → tag.evaluate env cache file = (cache, .ok b) := by
  obtain ⟨b, hb⟩ := exists_holdsByName?_of_isOfPath htag env.settings (.ofPath p)
  obtain ⟨text, htext⟩ := exists_text_of_isOfPath htag env.zone
  refine ⟨b, fun file h => ?_⟩
  rw [← holdsByName?_congr htag h] at hb
  simp only [evaluate, holds_of_named hb, verdict_of_ok htext]

end VirtualTag

/-! ### Literal patterns -/

namespace Query.FilePattern

variable {a b : List Char}

/-- **A literal pattern takes the texts that are normalised to the same text as its own.** -/
theorem accepts_literal_iff : (literal a).accepts (.spelled b) = true ↔
    (Path.ofText b).text = (Path.ofText a).text := by
  rw [Path.text_inj]
  exact decide_eq_true_iff

theorem accepts_literal_congr {file other : FileRef} (h : file.path = other.path) :
    (literal a).accepts file = (literal a).accepts other := by
  simp only [accepts, h]

end Query.FilePattern

/-! ### Files as they are given -/

namespace FileRef

open Query VirtualTag

/-- What a text may be given as: as it was typed, normalised, or read. -/
def formsOf (s : List Char) : List FileRef :=
  [.spelled s, .spelled (Path.ofText s).text, .ofPath (.ofText s)]

theorem path_of_mem_formsOf {s : List Char} {file : FileRef} (h : file ∈ formsOf s) :
    file.path = (spelled s).path := by
  simp only [formsOf, List.mem_cons, List.not_mem_nil, or_false] at h
  rcases h with rfl | rfl | rfl
  · rfl
  · exact path_spelled_text (.ofText s)
  · rfl

theorem startsHere_iff {s : List Char} :
    startsHere s = true ↔ s = ['.'] ∨ ['.', '/'] <+: s := by
  simp only [startsHere, Bool.or_eq_true, decide_eq_true_eq, Option.isSome_iff_exists,
    dropStart?_eq_some_iff]
  exact or_congr_right ⟨fun ⟨rest, h⟩ => ⟨rest, h.symm⟩, fun ⟨rest, h⟩ => ⟨rest, h.symm⟩⟩

/-- **Extensions, families, directories and literal patterns see through the spelling of a path**,
and the depth sees no more of it than a `.` in front. What a text is normalised to is normalised;
the text, its normal form and its path are judged alike; and texts of which a literal pattern of
one takes the other are, the other way round as well, spellings of one path. -/
theorem judged_by_path {τ : Type} [Clock τ] (env : Surroundings τ) (cache : MetadataCache τ)
    (s : List Char) :
    let normal := (Path.ofText s).text
    (Path.ofText normal).text = normal ∧
    (∀ tag : VirtualTag, tag.IsOfPath →
      ∃ b, ∀ file ∈ formsOf s, tag.evaluate env cache file = (cache, .ok b)) ∧
    (∀ a, ∃ b, ∀ file ∈ formsOf s, (FilePattern.literal a).accepts file = b) ∧
    (∀ t, (FilePattern.literal s).accepts (.spelled t) = true →
      (FilePattern.literal t).accepts (.spelled s) = true ∧
      ∀ tag : VirtualTag, tag.IsOfPath →
        tag.evaluate env cache (.spelled s) = tag.evaluate env cache (.spelled t)) ∧
    (spelled s).depth = (ofPath (.ofText s)).depth +
      if s = ['.'] ∨ ['.', '/'] <+: s then 1 else 0 := by
  intro normal
  refine ⟨?_, fun tag htag => ?_, fun a => ?_, fun t h => ⟨?_, fun tag htag => ?_⟩, ?_⟩
  · exact Path.text_ofText_eq_self_iff.2 (Path.isCanonical_text _)
  · obtain ⟨b, hb⟩ := exists_evaluate_of_isOfPath htag env cache (.ofText s)
    exact ⟨b, fun file hfile => hb file (path_of_mem_formsOf hfile)⟩
  · exact ⟨_, fun file hfile => FilePattern.accepts_literal_congr (path_of_mem_formsOf hfile)⟩
  · rw [FilePattern.accepts_literal_iff] at h ⊢
    exact h.symm
  · rw [FilePattern.accepts_literal_iff, Path.text_inj] at h
    obtain ⟨b, hb⟩ := exists_evaluate_of_isOfPath htag env cache (.ofText s)
    rw [hb (.spelled s) rfl, hb (.spelled t) h]
  · rw [depth_of_path]
    simp only [startsHere_iff]

/-- Two spellings of one path: neither is canonical, and one of them has a `.` in front. -/
theorem judged_by_path_of_dots :
    let env : Surroundings Binary64 :=
      ⟨⟨0, none⟩, .default, ⟨[], false⟩, ⟨1718202600000000, none, false⟩, .finite 1000⟩
    let cache : MetadataCache Binary64 := .empty (.whole 300) true
    let s := "./a//../b.py/".toList
    let t := "a/.././b.py".toList
    let tag := VirtualTag.directory (.ofText "..".toList)
    (spelled s ∈ formsOf s ∧ ofPath (.ofText s) ∈ formsOf s) ∧ tag.IsOfPath ∧
      (FilePattern.literal s).accepts (.spelled t) = true ∧
      (FilePattern.literal t).accepts (.spelled s) = true ∧
      tag.evaluate env cache (.spelled s) = (cache, .ok true) ∧
      tag.evaluate env cache (.ofPath (.ofText s)) = (cache, .ok true) ∧
      tag.evaluate env cache (.spelled t) = (cache, .ok true) ∧
      (spelled s).depth = 4 := by
  intro env cache s t tag
  have hmem : spelled s ∈ formsOf s ∧ ofPath (.ofText s) ∈ formsOf s := by
    simp [formsOf]
  have htakes : (FilePattern.literal s).accepts (.spelled t) = true := by decide +kernel
  have htrue : (tag.evaluate env cache (.spelled s)).2 = .ok true := by rfl
  obtain ⟨-, htag, -, hliteral, hdepth⟩ := judged_by_path env cache s
  obtain ⟨b, hb⟩ := htag tag trivial
  obtain ⟨hback, hspelled⟩ := hliteral t htakes
  have hs := hb _ hmem.1
  rw [hs] at htrue
  cases htrue
  exact ⟨hmem, trivial, htakes, hback, hs, hb _ hmem.2, (hspelled tag trivial).symm.trans hs,
    hdepth.trans (by decide +kernel)⟩

end FileRef

end FileSieve
