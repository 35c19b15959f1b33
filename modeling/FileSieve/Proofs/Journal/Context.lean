import FileSieve.Journal
import FileSieve.Proofs.Outcome
import Mathlib.Data.List.Induction
import Mathlib.Data.List.Nodup

/-!
# The context of a line

The fields of a line come from all frames that are open, the outermost first, and then from the
event itself. A name that is given more than once stays at the place where it was given first, with
the value that it was given last.

* `Frame.map_fst_put`, `Frame.lookup_put`: the names and the values after a value was put.
* `merges_iff`: the context is the only one that has each name where it was given first, with the
  value that it was given last.
* `Event.says_iff`: the message of an event that is noted in some frames.
-/

namespace FileSieve.Journal

open Text

variable {frame fields context : Frame} {frames : List Frame} {name other : List Char}
  {value : Value}

/-! ### Putting a value -/

theorem lookup_cons_eq_ite {rest : Frame} : List.lookup other ((name, value) :: rest) =
    if other = name then some value else rest.lookup other := by
  rw [List.lookup_cons]
  by_cases h : other = name
  · rw [if_pos h, beq_iff_eq.2 h]
  · rw [if_neg h, beq_eq_false_iff_ne.2 h]

theorem lookup_eq_none_of_not_mem (h : name ∉ frame.map Prod.fst) : frame.lookup name = none := by
  rw [List.lookup_eq_none_iff]
  rintro field hfield
  rw [bne_iff_ne]
  rintro rfl
  exact h (List.mem_map_of_mem hfield)

/-- A name that is there keeps its place, and a new one comes at the end. -/
theorem Frame.map_fst_put : (frame.put name value).map Prod.fst =
    if name ∈ frame.map Prod.fst then frame.map Prod.fst else frame.map Prod.fst ++ [name] := by
  induction frame with
  | nil => rfl
  | cons field rest ih =>
    obtain ⟨n, v⟩ := field
    by_cases hname : n = name
    · simp [put, hname]
    · have hne : name ≠ n := Ne.symm hname
      rw [put, if_neg hname, List.map_cons, ih]
      by_cases hmem : name ∈ rest.map Prod.fst <;> simp [hmem, hne]

theorem Frame.lookup_put : (frame.put name value).lookup other =
    if other = name then some value else frame.lookup other := by
  induction frame with
  | nil => exact lookup_cons_eq_ite
  | cons field rest ih =>
    obtain ⟨n, v⟩ := field
    by_cases hname : n = name
    · subst hname
      rw [put, if_pos rfl, lookup_cons_eq_ite, lookup_cons_eq_ite]
      split <;> rfl
    · rw [put, if_neg hname, lookup_cons_eq_ite, lookup_cons_eq_ite, ih]
      by_cases h : other = n
      · rw [if_pos h, if_pos h, if_neg (h ▸ hname)]
      · rw [if_neg h, if_neg h]

/-! ### Merging -/

/-- Each name of the fields is in the context once, at the place where it is given first, and with
the value that it is given last. -/
structure Merges (fields context : Frame) : Prop where
  names : context.map Prod.fst = (fields.map Prod.fst).eraseDups
  values (name : List Char) : context.lookup name = fields.reverse.lookup name

theorem eraseDups_append_singleton {names : List (List Char)} : (names ++ [name]).eraseDups =
    if name ∈ names then names.eraseDups else names.eraseDups ++ [name] := by
  rw [List.eraseDups_append]
  by_cases h : name ∈ names <;> simp [List.removeAll, List.eraseDups_cons, h]

theorem nodup_eraseDups {names : List (List Char)} : names.eraseDups.Nodup := by
  induction names using List.reverseRecOn with
  | nil => exact List.nodup_nil
  | append_singleton names name ih =>
    rw [eraseDups_append_singleton]
    split
    · exact ih
    · rename_i h
      rw [← List.concat_eq_append]
      exact ih.concat (mt List.mem_eraseDups.1 h)

theorem Merges.put (h : Merges fields context) :
    Merges (fields ++ [(name, value)]) (context.put name value) where
  names := by
    rw [Frame.map_fst_put, List.map_append, h.names, List.map_singleton,
      eraseDups_append_singleton]
    simp only [List.mem_eraseDups]
  values other := by
    rw [Frame.lookup_put, h.values, List.reverse_append]
    exact lookup_cons_eq_ite.symm

theorem merges_update : Merges fields (Frame.update [] fields) := by
  induction fields using List.reverseRecOn with
  | nil => exact ⟨rfl, fun _ => rfl⟩
  | append_singleton fields field ih =>
    rw [Frame.update, List.foldl_append]
    exact ih.put

/-- Where no name is given twice, the names and the values are all there is. -/
theorem eq_of_lookup_eq {a b : Frame} (hnodup : (a.map Prod.fst).Nodup)
    (hnames : b.map Prod.fst = a.map Prod.fst) (hvalues : ∀ name, b.lookup name = a.lookup name) :
    b = a := by
  induction a generalizing b with
  | nil => exact List.map_eq_nil_iff.1 hnames
  | cons field a ih =>
    obtain ⟨name, value⟩ := field
    obtain ⟨⟨n, other⟩, b, rfl, rfl, hrest⟩ := List.map_eq_cons_iff.1 hnames
    obtain ⟨hnew, hdistinct⟩ := List.nodup_cons.1 hnodup
    have hvalue := hvalues n
    rw [lookup_cons_eq_ite, lookup_cons_eq_ite, if_pos rfl, if_pos rfl] at hvalue
    cases hvalue
    rw [ih hdistinct hrest fun name => ?_]
    by_cases hname : name = n
    · subst hname
      rw [lookup_eq_none_of_not_mem hnew, lookup_eq_none_of_not_mem (hrest ▸ hnew)]
    · have hvalue := hvalues name
      rwa [lookup_cons_eq_ite, lookup_cons_eq_ite, if_neg hname, if_neg hname] at hvalue

/-- **The context is what the fields come to**, each name where it is given first and with the value
that it is given last. -/
theorem merges_iff : Merges fields context ↔ context = Frame.update [] fields := by
  constructor
  · intro h
    have hupdate : Merges fields (Frame.update [] fields) := merges_update
    refine eq_of_lookup_eq ?_ (h.names.trans hupdate.names.symm) fun name =>
      (h.values name).trans (hupdate.values name).symm
    rw [hupdate.names]
    exact nodup_eraseDups
  · rintro rfl
    exact merges_update

theorem update_contextOf :
    (contextOf frames).update fields = Frame.update [] (frames.flatten ++ fields) := by
  unfold contextOf Frame.update
  rw [List.foldl_append, List.foldl_flatten]

/-! ### Messages -/

/-- The context in writing: each name with its value. -/
def Writes (context : Frame) (pairs : List (List Char)) : Prop :=
  List.Forall₂ (fun field pair => ∃ text, field.2.plain? = some text ∧
    field.1 ++ '=' :: text = pair) context pairs

/-- What an event says in some frames: its text, and then the context if there is any. The context
is what the fields of the frames come to, from the outermost on, and then those of the event. -/
def Event.Says (event : Event) (frames : List Frame) (message : List Char) : Prop :=
  ∃ context pairs, Merges (frames.flatten ++ event.fields) context ∧ Writes context pairs ∧
    message = if context = [] then event.text
      else event.text ++ " | ".toList ++ joinWith [' '] pairs

theorem writes_iff {pairs : List (List Char)} : Writes context pairs ↔
    (context.mapM fun (name, value) => do return name ++ '=' :: (← value.plain?)) = some pairs := by
  rw [Writes, mapM_eq_some_iff]
  simp only [Option.bind_eq_bind, Option.bind_eq_some_iff, Option.pure_def, Option.some.injEq]

theorem messageText?_eq_some_iff {text message : List Char} :
    messageText? text context = some message ↔ ∃ pairs, Writes context pairs ∧
      message = if context = [] then text else text ++ " | ".toList ++ joinWith [' '] pairs := by
  cases context with
  | nil =>
    simp [messageText?, Writes, eq_comm]
  | cons field rest =>
    simp only [writes_iff, if_neg (List.cons_ne_nil field rest)]
    simp only [messageText?, List.isEmpty_cons, Bool.false_eq_true, if_false, Option.bind_eq_bind,
      Option.bind_eq_some_iff, Option.pure_def, Option.some.injEq, eq_comm (b := message)]

theorem Event.says_iff {event : Event} {message : List Char} : event.Says frames message ↔
    messageText? event.text ((contextOf frames).update event.fields) = some message := by
  rw [update_contextOf, messageText?_eq_some_iff]
  simp only [Says, merges_iff, exists_and_left, exists_eq_left]

end FileSieve.Journal
