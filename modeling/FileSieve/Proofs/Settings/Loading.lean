import FileSieve.Proofs.Outcome
import FileSieve.Settings.Change
import FileSieve.Settings.HomeFolder

/-!
# What becomes of a settings file

A settings file that is loaded becomes the layer of a source, or there is a fault with it: it is
not there, it cannot be opened, it is malformed, or it does not hold a table. Beside that, loading
breaks down: where the path leads or what is there cannot be found out, the bytes of the file are no
text, or the YAML library breaks off.

* `Host.expandUser_classifies`: what a tilde in front of a path comes to.
* `Host.readFile_of_reads`, `Host.readFile_of_hasFault`, `Host.readFile_of_breaks`: what reading a
  file comes to in the three cases.
* `Host.readFile_classifies`: there are no others.
* `HomeFolder.exists_breaks_iff`: when reading breaks down on a host with nothing but a home folder.
* `Layers.install_answers_iff`: a file becomes a layer or has a fault, unless loading it breaks
  down.
* `Layers.not_answers_stray_byte`: a single byte can break it down.
-/

namespace FileSieve

namespace Host

variable {host : Host} {p place : Path} {path user : List Char} {bytes : List UInt8}
  {table : Table} {fault : FileFault} {e : LoadError}

/-! ### Files -/

/-- The path leads to a place. -/
def Leads (host : Host) (path : List Char) (place : Path) : Prop :=
  ∃ p, host.expandUser (.ofText path) = .ok p ∧ host.resolve p = .ok place

/-- The path leads to a file with some bytes. -/
def Opens (host : Host) (path : List Char) (bytes : List UInt8) : Prop :=
  ∃ place, host.Leads path place ∧ host.hasPath place = .ok true ∧ host.read place = .ok bytes

/-- The path leads to a file that stands for a value. -/
def Reads (host : Host) (path : List Char) (v : Value) : Prop :=
  ∃ bytes text, host.Opens path bytes ∧ host.decode? bytes = some text ∧ host.yaml text = .ok v

/-- The YAML library objects to the file that the path leads to: to its text or, if it has none, to
what comes before. -/
def Objects (host : Host) (path : List Char) (e : Yaml.Error) : Prop :=
  ∃ bytes, host.Opens path bytes ∧
    ((∃ text, host.decode? bytes = some text ∧ host.yaml text = .error e) ∨
      host.decode? bytes = none ∧ host.yamlBefore? bytes = some e)

/-- There is a fault with what the path leads to. -/
inductive HasFault (host : Host) (path : List Char) : FileFault → Prop
  /-- It is not there. -/
  | notFound {place : Path} (hplace : host.Leads path place)
      (h : host.hasPath place = .ok false) : HasFault host path .notFound
  /-- It cannot be opened. -/
  | cannotOpen {place : Path} {refusal : SystemFault} (hplace : host.Leads path place)
      (hthere : host.hasPath place = .ok true) (h : host.read place = .error refusal) :
      HasFault host path .cannotOpen
  /-- It is no document. -/
  | malformed (h : host.Objects path .malformed) : HasFault host path .malformed
  /-- It stands for something else than a table. -/
  | notTable {v : Value} (h : host.Reads path v) (hv : v.isTable = false) :
      HasFault host path .notTable

/-- Reading the file that a path leads to breaks down. -/
inductive Breaks (host : Host) (path : List Char) : LoadError → Prop
  /-- It starts with a tilde, but no user has such a name. -/
  | badUser {user : List Char} (h : (Path.ofText path).user? = some user)
      (hnul : '\x00' ∈ user) : Breaks host path (.path .nul)
  /-- It starts with a tilde, but the home folder is not known. -/
  | unknownHome {user : List Char} (h : (Path.ofText path).user? = some user)
      (hnul : '\x00' ∉ user) (hhome : host.homeOf? user = none) : Breaks host path .unknownHome
  /-- It is not found out where it leads. -/
  | unresolved {p : Path} {fault : PathFault} (hp : host.expandUser (.ofText path) = .ok p)
      (h : host.resolve p = .error fault) : Breaks host path (.path fault)
  /-- It is not found out whether anything is there. -/
  | unasked {place : Path} {refusal : SystemFault} (hplace : host.Leads path place)
      (h : host.hasPath place = .error refusal) : Breaks host path (.path (.refused refusal))
  /-- The bytes of the file are no text, and there is no objection to what comes before. -/
  | notText {bytes : List UInt8} (hbytes : host.Opens path bytes)
      (h : host.decode? bytes = none) (hbefore : host.yamlBefore? bytes = none) :
      Breaks host path .notText
  /-- The YAML library breaks off. -/
  | brokeOff (h : host.Objects path .brokeOff) : Breaks host path .brokeOff

/-! ### Where a path leads -/

theorem expandUser_of_badUser (h : p.user? = some user) (hnul : '\x00' ∈ user) :
    host.expandUser p = .error (.path .nul) := by
  simp only [expandUser, h, hnul, if_true]

theorem expandUser_of_unknownHome (h : p.user? = some user) (hnul : '\x00' ∉ user)
    (hhome : host.homeOf? user = none) : host.expandUser p = .error .unknownHome := by
  simp only [expandUser, h, hnul, if_false, hhome]

/-- A tilde in front of a path is replaced, unless the user has a bad name or no home folder. -/
theorem expandUser_classifies (host : Host) (p : Path) :
    (∃ q, host.expandUser p = .ok q) ∨ ∃ user, p.user? = some user ∧
      ('\x00' ∈ user ∨ '\x00' ∉ user ∧ host.homeOf? user = none) := by
  cases huser : p.user? with
  | none => exact .inl ⟨p, by simp only [expandUser, huser]⟩
  | some user =>
    by_cases hnul : '\x00' ∈ user
    · exact .inr ⟨user, rfl, .inl hnul⟩
    cases hhome : host.homeOf? user with
    | none => exact .inr ⟨user, rfl, .inr ⟨hnul, hhome⟩⟩
    | some home =>
      left
      simp only [expandUser, huser, hnul, if_false, hhome, Except.ok.injEq, exists_eq']

theorem readFile_of_leads (h : host.Leads path place) :
    host.readFile path = host.readAt place := by
  obtain ⟨p, hp, hplace⟩ := h
  simp only [readFile, locate, hp, bind, Except.bind, hplace, Except.mapError]

theorem readFile_of_expandUser (h : host.expandUser (.ofText path) = .error e) :
    host.readFile path = .error e := by
  simp only [readFile, locate, h, bind, Except.bind]

/-! ### What is there -/

/-- The table that bytes stand for. -/
theorem readFile_of_opens (h : host.Opens path bytes) :
    host.readFile path = (host.load bytes).bind fun
      | .map entries => .ok entries
      | _ => .error (.fault .notTable) := by
  obtain ⟨place, hplace, hthere, hread⟩ := h
  rw [readFile_of_leads hplace]
  simp only [readAt, hthere, hread, bind]
  rfl

theorem readFile_of_objects {e : Yaml.Error} (h : host.Objects path e) :
    host.readFile path = .error (.ofYaml e) := by
  obtain ⟨bytes, hbytes, ⟨text, htext, h⟩ | ⟨htext, h⟩⟩ := h <;>
    simp only [readFile_of_opens hbytes, load, htext, h, Except.mapError, Option.elim, Except.bind]

/-- A file that stands for a table is read. -/
theorem readFile_of_reads (h : host.Reads path (.map table)) :
    host.readFile path = .ok table := by
  obtain ⟨bytes, text, hbytes, htext, h⟩ := h
  simp only [readFile_of_opens hbytes, load, htext, h, Except.mapError, Except.bind]

/-- Where there is a fault, reading fails with it. -/
theorem readFile_of_hasFault (h : host.HasFault path fault) :
    host.readFile path = .error (.fault fault) := by
  cases h with
  | notFound hplace h => simp only [readFile_of_leads hplace, readAt, h]
  | cannotOpen hplace hthere h => simp only [readFile_of_leads hplace, readAt, hthere, h]
  | malformed h => exact readFile_of_objects h
  | notTable h hv =>
    obtain ⟨bytes, text, hbytes, htext, h⟩ := h
    simp only [readFile_of_opens hbytes, load, htext, h, Except.mapError, Except.bind]
    split
    · cases hv
    · rfl

/-- Where reading breaks down, it fails in that way. -/
theorem readFile_of_breaks (h : host.Breaks path e) : host.readFile path = .error e := by
  cases h with
  | badUser h hnul => exact readFile_of_expandUser (expandUser_of_badUser h hnul)
  | unknownHome h hnul hhome =>
    exact readFile_of_expandUser (expandUser_of_unknownHome h hnul hhome)
  | unresolved hp h => simp only [readFile, locate, hp, bind, Except.bind, h, Except.mapError]
  | unasked hplace h => simp only [readFile_of_leads hplace, readAt, h]
  | notText hbytes h hbefore =>
    simp only [readFile_of_opens hbytes, load, h, hbefore, Option.elim, Except.bind]
  | brokeOff h => exact readFile_of_objects h

theorem Breaks.ne_fault (h : host.Breaks path e) (fault : FileFault) : e ≠ .fault fault := by
  cases h <;> nofun

/-- An objection of the library is a fault of the file, or breaks reading down. -/
theorem Objects.classifies {e : Yaml.Error} (h : host.Objects path e) :
    (∃ fault, host.HasFault path fault) ∨ ∃ e, host.Breaks path e := by
  cases e with
  | malformed => exact .inl ⟨_, .malformed h⟩
  | brokeOff => exact .inr ⟨_, .brokeOff h⟩

/-- What comes of the bytes of a file. -/
theorem Opens.classifies (h : host.Opens path bytes) :
    (∃ table, host.Reads path (.map table)) ∨ (∃ fault, host.HasFault path fault) ∨
      ∃ e, host.Breaks path e := by
  cases htext : host.decode? bytes with
  | none =>
    cases hbefore : host.yamlBefore? bytes with
    | none => exact .inr (.inr ⟨_, .notText h htext hbefore⟩)
    | some e => exact .inr (Objects.classifies ⟨bytes, h, .inr ⟨htext, hbefore⟩⟩)
  | some text =>
    cases hyaml : host.yaml text with
    | error e => exact .inr (Objects.classifies ⟨bytes, h, .inl ⟨text, htext, hyaml⟩⟩)
    | ok v =>
      have hreads : host.Reads path v := ⟨bytes, text, h, htext, hyaml⟩
      cases v with
      | map table => exact .inl ⟨table, hreads⟩
      | _ => exact .inr (.inl ⟨_, .notTable hreads rfl⟩)

/-- **A path leads to a file that is read, or there is a fault with it, or reading breaks down.** -/
theorem readFile_classifies (host : Host) (path : List Char) :
    (∃ table, host.Reads path (.map table)) ∨ (∃ fault, host.HasFault path fault) ∨
      ∃ e, host.Breaks path e := by
  obtain ⟨p, hp⟩ | ⟨user, huser, hnul | ⟨hnul, hhome⟩⟩ :=
    host.expandUser_classifies (.ofText path)
  · cases hresolve : host.resolve p with
    | error fault => exact .inr (.inr ⟨_, .unresolved hp hresolve⟩)
    | ok place =>
      have hplace : host.Leads path place := ⟨p, hp, hresolve⟩
      cases hthere : host.hasPath place with
      | error refusal => exact .inr (.inr ⟨_, .unasked hplace hthere⟩)
      | ok found =>
        cases found with
        | false => exact .inr (.inl ⟨_, .notFound hplace hthere⟩)
        | true =>
          cases hread : host.read place with
          | error refusal => exact .inr (.inl ⟨_, .cannotOpen hplace hthere hread⟩)
          | ok bytes => exact Opens.classifies ⟨place, hplace, hthere, hread⟩
  · exact .inr (.inr ⟨_, .badUser huser hnul⟩)
  · exact .inr (.inr ⟨_, .unknownHome huser hnul hhome⟩)

end Host

/-! ### The home folder -/

namespace HomeFolder

variable {home : HomeFolder} {p q : Path} {path user : List Char}

/-- The way through a home folder has no links on it, and ends only at a NUL. -/
theorem exists_follow_error_iff :
    (∃ fault, follow p = .error fault) ↔ ∃ name ∈ p.names, '\x00' ∈ name := by
  unfold follow
  split
  · rename_i hnul
    simpa using hnul
  · rename_i hnul
    simpa using hnul

/-- A tilde takes no NUL out of a path, and brings none into it. -/
theorem exists_nul_of_expandUser (h : home.host.expandUser p = .ok q) :
    (∃ name ∈ q.names, '\x00' ∈ name) ↔ ∃ name ∈ p.names, '\x00' ∈ name := by
  unfold Host.expandUser at h
  split at h
  · cases h
    rfl
  · rename_i user huser
    obtain ⟨-, names, hnames⟩ := Path.user?_eq_some_iff.1 huser
    split at h
    · cases h
    · rename_i hnul
      split at h
      · cases h
      · rename_i own hown
        cases h
        have : own = ['.'] := by
          change (if user.isEmpty = true then some ['.'] else none) = some own at hown
          split at hown
          · exact (Option.some.inj hown).symm
          · cases hown
        subst this
        have hbelow : ((Path.ofText ['.']).below p.names.tail fun n hn =>
            p.isName n (List.mem_of_mem_tail hn)).names = names := by
          simp only [Path.below, hnames]
          rfl
        rw [hbelow, hnames]
        simp [hnul]

theorem homeOf?_eq_none_iff : home.host.homeOf? user = none ↔ user ≠ [] := by
  cases user with
  | nil => exact iff_of_false nofun fun h => h rfl
  | cons c user => exact iff_of_true rfl nofun

/-- **In a home folder, reading breaks down** on a path with a NUL or with the tilde of somebody
else, on bytes that are no text, and where the document is not read to its end. -/
theorem exists_breaks_iff : (∃ e, home.host.Breaks path e) ↔
    '\x00' ∈ path ∨ (∃ user, (Path.ofText path).user? = some user ∧ user ≠ []) ∨
      (∃ bytes, home.host.Opens path bytes ∧ decodeText? bytes = none) ∨
        home.host.Objects path .brokeOff := by
  have hchar : (∃ name ∈ (Path.ofText path).names, '\x00' ∈ name) ↔ '\x00' ∈ path :=
    Path.exists_mem_names_iff (by decide) (by decide)
  constructor
  · rintro ⟨e, h⟩
    cases h with
    | badUser huser hnul =>
      exact .inr (.inl ⟨_, huser, List.ne_nil_of_mem hnul⟩)
    | unknownHome huser hnul hhome =>
      exact .inr (.inl ⟨_, huser, homeOf?_eq_none_iff.1 hhome⟩)
    | unresolved hp h =>
      exact .inl (hchar.1 ((exists_nul_of_expandUser hp).1 (exists_follow_error_iff.1 ⟨_, h⟩)))
    | unasked hplace h => cases h
    | notText hbytes h hbefore => exact .inr (.inr (.inl ⟨_, hbytes, h⟩))
    | brokeOff h => exact .inr (.inr (.inr h))
  · rintro (hnul | ⟨user, huser, hne⟩ | ⟨bytes, hbytes, h⟩ | h)
    · obtain ⟨p, hp⟩ | ⟨user, huser, hbad | ⟨hgood, hhome⟩⟩ :=
        home.host.expandUser_classifies (.ofText path)
      · obtain ⟨fault, hfault⟩ := exists_follow_error_iff.2
          ((exists_nul_of_expandUser hp).2 (hchar.2 hnul))
        exact ⟨_, .unresolved hp hfault⟩
      · exact ⟨_, .badUser huser hbad⟩
      · exact ⟨_, .unknownHome huser hgood hhome⟩
    · by_cases hbad : '\x00' ∈ user
      · exact ⟨_, .badUser huser hbad⟩
      · exact ⟨_, .unknownHome huser hbad (homeOf?_eq_none_iff.2 hne)⟩
    · exact ⟨_, .notText hbytes h rfl⟩
    · exact ⟨_, .brokeOff h⟩

end HomeFolder

/-! ### Layers -/

namespace Layers

/-- The change of the layers did its work or was refused: the file is the layer of the source now,
or there is a fault with it and nothing was changed. -/
def Answers (layers : Layers) (host : Host) (path : List Char) (source : Source)
    (outcome : Except LoadError Unit × Layers) : Prop :=
  (∃ table, host.Reads path (.map table) ∧ outcome = (.ok (), layers.put source (.map table))) ∨
    ∃ fault, host.HasFault path fault ∧ outcome = (.error (.fault fault), layers)

/-- **A settings file becomes a layer or has a fault, unless loading it breaks down.** -/
theorem install_answers_iff (layers : Layers) (host : Host) (path : List Char)
    (source : Source) :
    layers.Answers host path source ((install host path source).apply layers) ↔
      ∀ e, ¬ host.Breaks path e := by
  rw [apply_install]
  constructor
  · intro hanswers e hbreaks
    simp only [Host.readFile_of_breaks hbreaks] at hanswers
    rcases hanswers with ⟨table, -, h⟩ | ⟨fault, -, h⟩
    · cases h
    · cases h
      exact hbreaks.ne_fault fault rfl
  · intro hbreaks
    obtain ⟨table, htable⟩ | ⟨fault, hfault⟩ | ⟨e, he⟩ := host.readFile_classifies path
    · exact .inl ⟨table, htable, by rw [Host.readFile_of_reads htable]⟩
    · exact .inr ⟨fault, hfault, by rw [Host.readFile_of_hasFault hfault]⟩
    · exact absurd he (hbreaks e)

/-- A file of one byte that starts no character breaks loading down, although the YAML library finds
a value in every text or finds it malformed. -/
theorem not_answers_stray_byte :
    ¬ ∀ (layers : Layers) (host : Host) (path : List Char) (source : Source),
      (∀ text, host.yaml text ≠ .error .brokeOff) →
        layers.Answers host path source ((install host path source).apply layers) := by
  intro hall
  let host : Host :=
    { HomeFolder.host [("c.yaml".toList, .file [255])] with
      yaml := fun text => (Yaml.read text).mapError fun _ => .malformed }
  have hyaml (text : List Char) : host.yaml text ≠ .error .brokeOff := by
    change (Yaml.read text).mapError _ ≠ _
    cases Yaml.read text <;> nofun
  have hload : ((install host "c.yaml".toList .user).apply .initial).1 = .error .notText := rfl
  rcases hall .initial host "c.yaml".toList .user hyaml with ⟨table, -, h⟩ | ⟨fault, -, h⟩
  · rw [h] at hload
    cases hload
  · rw [h] at hload
    cases hload

end Layers

end FileSieve
