import FileSieve.Proofs.Settings.Reachable
import Mathlib.Data.List.Infix

/-!
# Precedence of layers

What is looked up in the layers is found without laying whole layers over each other: the highest
layer that has something to say about a path counts, and only tables are completed from below.

* `Value.at?_mergeValue_of_found`, `Value.at?_mergeValue_of_shadows`,
  `Value.at?_mergeValue_of_not_decides`: looking up a path in a value laid over another.
* `Layers.mergeValue_overlaid`: a table is completed by the tables below it, down to the first
  layer that has something else there.
* `Layers.get?_of_precedence`: what is looked up is what the highest layer decides.
-/

namespace FileSieve

open Text

/-! ### Paths -/

namespace Value

/-- The value holds something that is no table on the way to the end of the path. -/
def Shadows (names : List (List Char)) (v : Value) : Prop :=
  ∃ front, front <+: names ∧ front ≠ names ∧ ∃ w, v.at? front = some w ∧ w.isTable = false

/-- The value has something to say about a path: it holds a value at its end, or something that is
no table on the way. -/
def Decides (names : List (List Char)) (v : Value) : Prop :=
  (v.at? names).isSome ∨ v.Shadows names

variable {names : List (List Char)} {name : List Char} {v w : Value} {old : Option Value}
  {entries : Table}

instance : Decidable (v.Shadows names) :=
  decidable_of_iff
    (∃ front ∈ names.inits, front ≠ names ∧ (v.at? front).any (!·.isTable) = true) <| by
    simp only [List.mem_inits, Option.any_eq_true, Bool.not_eq_true']
    exact Iff.rfl

instance : Decidable (v.Decides names) := inferInstanceAs (Decidable (_ ∨ _))

theorem not_shadows_nil : ¬ v.Shadows [] := by
  rintro ⟨front, hfront, hne, -⟩
  exact hne (List.prefix_nil.1 hfront)

theorem shadows_cons_of_not_table (h : v.isTable = false) : v.Shadows (name :: names) :=
  ⟨[], List.nil_prefix, by simp, v, rfl, h⟩

theorem shadows_cons : (Value.map entries).Shadows (name :: names) ↔
    ∃ w, Table.find? (.text name) entries = some w ∧ w.Shadows names := by
  constructor
  · rintro ⟨front, hfront, hne, w, hw, htable⟩
    cases front with
    | nil => cases hw; cases htable
    | cons first front =>
      obtain ⟨rfl, hrest⟩ := List.cons_prefix_cons.1 hfront
      obtain ⟨inner, hinner, hw⟩ := Option.bind_eq_some_iff.1 hw
      exact ⟨inner, hinner, front, hrest, fun heq => hne (by rw [heq]), w, hw, htable⟩
  · rintro ⟨inner, hinner, front, hfront, hne, w, hw, htable⟩
    refine ⟨name :: front, List.cons_prefix_cons.2 ⟨rfl, hfront⟩, ?_, w, ?_, htable⟩
    · intro heq
      exact hne (List.cons.inj heq).2
    · rw [at?, hinner]
      exact hw

theorem decides_nil : v.Decides [] := .inl rfl

theorem decides_cons : (Value.map entries).Decides (name :: names) ↔
    ∃ w, Table.find? (.text name) entries = some w ∧ w.Decides names := by
  rw [Decides, shadows_cons, at?]
  cases Table.find? (.text name) entries with
  | none => simp
  | some w => simp [Decides]

theorem decides_cons_of_not_table (h : v.isTable = false) : v.Decides (name :: names) :=
  .inr (shadows_cons_of_not_table h)

theorem bind_at?_cons :
    old.bind (at? (name :: names)) = (old.bind (at? [name])).bind (at? names) := by
  match old with
  | some (.map entries) => cases h : Table.find? (.text name) entries <;> simp [at?, h]
  | none | some .null | some (.bool _) | some (.int _) | some (.float _) | some (.text _)
  | some (.list _) | some (.tuple _) | some (.other _) => rfl

/-! ### Looking up in merged values -/

/-- The first step of a path in a value that was laid over another. -/
theorem at?_mergeValue_cons (h : Table.isKeyed entries = true) :
    (mergeValue old (.map entries)).at? (name :: names) =
      match Table.find? (.text name) entries with
      | none => old.bind (at? (name :: names))
      | some w => (mergeValue (old.bind (at? [name])) w).at? names := by
  match old with
  | some (.map base) =>
    rw [mergeValue_table, at?, Table.find?_mergeEntries h]
    cases Table.find? (.text name) entries with
    | none => rfl
    | some w => cases hbase : Table.find? (.text name) base <;> simp [at?, hbase]
  | none | some .null | some (.bool _) | some (.int _) | some (.float _) | some (.text _)
  | some (.list _) | some (.tuple _) | some (.other _) =>
    cases hfind : Table.find? (.text name) entries with
    | none => simp [mergeValue, at?, hfind]
    | some w => simp [mergeValue, at?, hfind, mergeValue_none]

theorem at?_mergeValue_of_found (hv : v.isKeyed = true) (h : v.at? names = some w) :
    (mergeValue old v).at? names = some (mergeValue (old.bind (at? names)) w) := by
  induction names generalizing v old with
  | nil =>
    cases h
    cases old <;> rfl
  | cons name names ih =>
    cases v with
    | map entries =>
      rw [isKeyed_map] at hv
      obtain ⟨inner, hinner, h⟩ := Option.bind_eq_some_iff.1 h
      rw [at?_mergeValue_cons hv, hinner, bind_at?_cons]
      exact ih (Table.isKeyed_of_find? hv hinner) h
    | _ => cases h

theorem at?_mergeValue_of_shadows (hv : v.isKeyed = true) (h : v.Shadows names) :
    (mergeValue old v).at? names = none := by
  induction names generalizing v old with
  | nil => exact absurd h not_shadows_nil
  | cons name names ih =>
    cases v with
    | map entries =>
      rw [isKeyed_map] at hv
      obtain ⟨inner, hinner, h⟩ := shadows_cons.1 h
      rw [at?_mergeValue_cons hv, hinner]
      exact ih (Table.isKeyed_of_find? hv hinner) h
    | _ => rw [mergeValue_of_not_table (by simp)]; rfl

theorem at?_mergeValue_of_not_decides (hv : v.isKeyed = true) (h : ¬ v.Decides names) :
    (mergeValue old v).at? names = old.bind (at? names) := by
  induction names generalizing v old with
  | nil => exact absurd decides_nil h
  | cons name names ih =>
    cases hshape : v.isTable with
    | false => exact absurd (decides_cons_of_not_table hshape) h
    | true =>
      obtain ⟨entries, rfl⟩ := exists_of_isTable hshape
      rw [isKeyed_map] at hv
      rw [at?_mergeValue_cons hv]
      cases hinner : Table.find? (.text name) entries with
      | none => rfl
      | some inner =>
        rw [bind_at?_cons]
        exact ih (Table.isKeyed_of_find? hv hinner)
          fun hdecides => h (decides_cons.2 ⟨inner, hinner, hdecides⟩)

end Value

/-! ### Layers -/

/-- Tables merged, the first one on top. -/
def mergedDown (tables : List Table) : Table :=
  tables.foldr (fun above below => mergeEntries below above) []

theorem mergedDown_singleton {t : Table} (h : Table.isKeyed t = true) : mergedDown [t] = t :=
  mergeEntries_nil_left h

theorem mergeValue_of_other {old : Option Value} {v : Value} (h : v.isTable = false) :
    mergeValue old v = v := by
  refine mergeValue_of_not_table ?_
  rintro entries rfl
  cases h

theorem mergeValue_over_other {v : Value} {t : Table} (h : v.isTable = false) :
    mergeValue (some v) (.map t) = .map t := by
  cases v with
  | map entries => cases h
  | _ => simp [mergeValue]

namespace Layers

/-- The layer of a source has something to say about a path. -/
def Decides (layers : Layers) (names : List (List Char)) (source : Source) : Prop :=
  ∃ v, layers.layer source = some v ∧ v.Decides names

instance (layers : Layers) (names : List (List Char)) (source : Source) :
    Decidable (layers.Decides names source) :=
  decidable_of_iff ((layers.layer source).any fun v => decide (v.Decides names)) <| by
    simp [Decides, Option.any_eq_true]

/-- The value that the layer of a source has at the end of a path. -/
def at? (layers : Layers) (names : List (List Char)) (source : Source) : Option Value :=
  (layers.layer source).bind (Value.at? names)

/-- The table that the layer of a source has at the end of a path. -/
def tableAt? (layers : Layers) (names : List (List Char)) (source : Source) : Option Table :=
  match layers.at? names source with
  | some (.map t) => some t
  | _ => none

/-- The tables at the end of a path in the layers of some sources, down to the first layer that
has something else to say. -/
def tablesDown (layers : Layers) (names : List (List Char)) (sources : List Source) : List Table :=
  (sources.takeWhile fun source =>
    ¬ layers.Decides names source ∨ (layers.tableAt? names source).isSome).filterMap
      (layers.tableAt? names)

/-- The layers of some sources laid over each other, the first one on top. -/
def overlaid (layers : Layers) : List Source → Value
  | [] => .map []
  | source :: below =>
    match layers.layer source with
    | none => layers.overlaid below
    | some v => mergeValue (some (layers.overlaid below)) v

variable {layers : Layers} {names : List (List Char)} {source : Source}
  {sources above below : List Source} {v : Value} {t : Table}

theorem merged?_eq_overlaid (h : layers.Keyed) :
    ∃ t, layers.merged? = some t ∧ .map t = layers.overlaid Source.all.reverse := by
  -- the layers are merged from the lowest one on, so the induction is on the reversed row
  suffices ∀ sources : List Source, ∃ t,
      sources.reverse.foldlM (fun table source => overlay? table (layers.layer source)) [] =
        some t ∧ .map t = layers.overlaid sources from this Source.all.reverse
  intro sources
  induction sources with
  | nil => exact ⟨[], rfl, rfl⟩
  | cons source below ih =>
    obtain ⟨t, ht, heq⟩ := ih
    rw [List.reverse_cons, List.foldlM_append, ht, overlaid, ← heq]
    cases hlayer : layers.layer source with
    | none => exact ⟨t, by simp [hlayer, overlay?], rfl⟩
    | some v =>
      obtain ⟨entries, rfl, -⟩ := h source v hlayer
      exact ⟨mergeEntries t entries, by simp [hlayer, overlay?], mergeValue_table.symm⟩

theorem at?_overlaid_nil (h : names ≠ []) : (layers.overlaid []).at? names = none := by
  cases names with
  | nil => exact absurd rfl h
  | cons name names => rfl

theorem at?_overlaid_of_not_decides (h : layers.Keyed) (hnot : ¬ layers.Decides names source) :
    (layers.overlaid (source :: below)).at? names = (layers.overlaid below).at? names := by
  rw [overlaid]
  cases hlayer : layers.layer source with
  | none => rfl
  | some v =>
    refine Value.at?_mergeValue_of_not_decides (h.isKeyed_layer hlayer) ?_
    intro hdecides
    exact hnot ⟨v, hlayer, hdecides⟩

theorem at?_overlaid_append (h : layers.Keyed)
    (hnot : ∀ source ∈ above, ¬ layers.Decides names source) :
    (layers.overlaid (above ++ below)).at? names = (layers.overlaid below).at? names := by
  induction above with
  | nil => rfl
  | cons source above ih =>
    rw [List.cons_append, at?_overlaid_of_not_decides h (hnot _ List.mem_cons_self)]
    exact ih fun other hother => hnot other (List.mem_cons_of_mem _ hother)

theorem at?_overlaid_of_found (h : layers.Keyed) (hv : layers.at? names source = some v) :
    (layers.overlaid (source :: below)).at? names =
      some (mergeValue ((layers.overlaid below).at? names) v) := by
  obtain ⟨layer, hlayer, hv⟩ := Option.bind_eq_some_iff.1 hv
  rw [overlaid, hlayer]
  exact Value.at?_mergeValue_of_found (h.isKeyed_layer hlayer) hv

theorem at?_overlaid_of_blocked (h : layers.Keyed) (hdecides : layers.Decides names source)
    (hnone : layers.at? names source = none) :
    (layers.overlaid (source :: below)).at? names = none := by
  obtain ⟨layer, hlayer, hdecides⟩ := hdecides
  rw [at?, hlayer] at hnone
  rw [overlaid, hlayer]
  refine Value.at?_mergeValue_of_shadows (h.isKeyed_layer hlayer) ?_
  rcases hdecides with hsome | hshadows
  · rw [Option.bind_some] at hnone
    rw [hnone] at hsome
    cases hsome
  · exact hshadows

theorem isKeyed_of_at? (h : layers.Keyed) (ht : layers.at? names source = some (.map t)) :
    Table.isKeyed t = true := by
  obtain ⟨layer, hlayer, ht⟩ := Option.bind_eq_some_iff.1 ht
  rw [← Value.isKeyed_map]
  exact Value.isKeyed_at? (h.isKeyed_layer hlayer) ht

theorem decides_of_at? (h : layers.at? names source = some v) : layers.Decides names source := by
  obtain ⟨layer, hlayer, h⟩ := Option.bind_eq_some_iff.1 h
  exact ⟨layer, hlayer, .inl (by rw [h]; rfl)⟩

theorem tableAt?_of_table (h : layers.at? names source = some (.map t)) :
    layers.tableAt? names source = some t := by
  rw [tableAt?, h]

theorem tableAt?_of_not_table (h : ∀ t, layers.at? names source ≠ some (.map t)) :
    layers.tableAt? names source = none := by
  unfold tableAt?
  split
  · rename_i t ht
    exact absurd ht (h t)
  · rfl

theorem tablesDown_of_table (h : layers.at? names source = some (.map t)) :
    layers.tablesDown names (source :: below) = t :: layers.tablesDown names below := by
  simp [tablesDown, tableAt?_of_table h]

theorem tablesDown_of_stop (hdecides : layers.Decides names source)
    (h : ∀ t, layers.at? names source ≠ some (.map t)) :
    layers.tablesDown names (source :: below) = [] := by
  simp [tablesDown, hdecides, tableAt?_of_not_table h]

theorem tablesDown_of_not_decides (h : ¬ layers.Decides names source) :
    layers.tablesDown names (source :: below) = layers.tablesDown names below := by
  have hnone := tableAt?_of_not_table fun t ht => h (decides_of_at? ht)
  simp [tablesDown, h, hnone]

/-- A table is completed by the tables below it, down to the first layer that has something else
to say. -/
theorem mergeValue_overlaid (h : layers.Keyed) (hnames : names ≠ []) (ht : Table.isKeyed t = true) :
    mergeValue ((layers.overlaid sources).at? names) (.map t) =
      .map (mergedDown (t :: layers.tablesDown names sources)) := by
  -- on the sources below; the table grows by what is merged into it, so it is not fixed
  induction sources generalizing t with
  | nil =>
    rw [at?_overlaid_nil hnames, mergeValue_none]
    exact congrArg Value.map (mergedDown_singleton ht).symm
  | cons source below ih =>
    by_cases hdecides : layers.Decides names source
    · cases hat : layers.at? names source with
      | none =>
        -- something that is no table lies on the way, and hides what is further below
        rw [at?_overlaid_of_blocked h hdecides hat, mergeValue_none,
          tablesDown_of_stop hdecides (by simp [hat]), mergedDown_singleton ht]
      | some w =>
        rw [at?_overlaid_of_found h hat]
        cases hshape : w.isTable with
        | true =>
          obtain ⟨u, rfl⟩ := Value.exists_of_isTable hshape
          rw [ih (isKeyed_of_at? h hat), mergeValue_table, tablesDown_of_table hat]
          rfl
        | false =>
          -- a value that is no table ends the chain
          have hstop : ∀ u, layers.at? names source ≠ some (.map u) := by
            intro u heq
            rw [hat, Option.some.injEq] at heq
            rw [heq] at hshape
            cases hshape
          rw [mergeValue_of_other hshape, mergeValue_over_other hshape,
            tablesDown_of_stop hdecides hstop, mergedDown_singleton ht]
    · rw [at?_overlaid_of_not_decides h hdecides, tablesDown_of_not_decides hdecides]
      exact ih ht

/-! ### Looking up -/

theorem get?_eq (h : layers.Keyed) (key : List Char) (default : Value) :
    layers.get? key default =
      match (layers.overlaid Source.all.reverse).at? (splitAtEach '.' key) with
      | none | some .null => some default
      | some v => some v := by
  obtain ⟨t, ht, heq⟩ := merged?_eq_overlaid h
  rw [get?, ht, ← heq]
  change (match Value.at? _ _ with | none | some .null => _ | some v => _) = _
  split <;> simp_all

/-- **What is looked up is what the highest layer decides.** Nothing is found if no layer decides
the path, or if the highest one that does is blocked on the way; a value that is no table stands
as it is, and a table is completed from the layers below. -/
theorem get?_of_precedence (h : layers.Reachable) (key : List Char) (default : Value) :
    ((∀ source, ¬ layers.Decides (splitAtEach '.' key) source) →
      layers.get? key default = some default) ∧
    ∀ lower source upper, Source.all = lower ++ source :: upper →
      layers.Decides (splitAtEach '.' key) source →
      (∀ other ∈ upper, ¬ layers.Decides (splitAtEach '.' key) other) →
        (layers.at? (splitAtEach '.' key) source = none →
          layers.get? key default = some default) ∧
        (layers.at? (splitAtEach '.' key) source = some .null →
          layers.get? key default = some default) ∧
        (∀ v, layers.at? (splitAtEach '.' key) source = some v → v.isTable = false → v ≠ .null →
          layers.get? key default = some v) ∧
        (∀ t, layers.at? (splitAtEach '.' key) source = some (.map t) →
          layers.get? key default =
            some (.map (mergedDown
              (t :: layers.tablesDown (splitAtEach '.' key) lower.reverse)))) := by
  have hnames : splitAtEach '.' key ≠ [] := splitAtEach_ne_nil
  -- from here on only the merged value counts, and its layers may be cut where one decides
  rw [get?_eq h.keyed]
  generalize splitAtEach '.' key = names at *
  refine ⟨fun hnone => ?_, fun lower source upper hall hdecides hupper => ?_⟩
  · have hnot : (layers.overlaid (Source.all.reverse ++ [])).at? names = _ :=
      at?_overlaid_append h.keyed fun source _ => hnone source
    rw [List.append_nil, at?_overlaid_nil hnames] at hnot
    rw [hnot]
    -- the layers above the one that decides do not count
  · have htop : (layers.overlaid Source.all.reverse).at? names =
        (layers.overlaid (source :: lower.reverse)).at? names := by
      rw [hall, List.reverse_append, List.reverse_cons, List.append_assoc, List.singleton_append]
      exact at?_overlaid_append h.keyed fun other hother =>
        hupper other (List.mem_reverse.1 hother)
    rw [htop]
    refine ⟨fun hat => ?_, fun hat => ?_, fun v hat hshape hnull => ?_, fun t hat => ?_⟩
    · rw [at?_overlaid_of_blocked h.keyed hdecides hat]
    · rw [at?_overlaid_of_found h.keyed hat, mergeValue_of_other rfl]
    · rw [at?_overlaid_of_found h.keyed hat, mergeValue_of_other hshape]
      split
      · rename_i heq; cases heq
      · rename_i heq; cases heq; exact absurd rfl hnull
      · rename_i heq; exact heq.symm
    · rw [at?_overlaid_of_found h.keyed hat,
        mergeValue_overlaid h.keyed hnames (isKeyed_of_at? h.keyed hat)]

/-- A number in a lower layer ends the table that the layers above it make up together. -/
theorem get?_above_number :
    let text (s : String) : Key := .text s.toList
    let layers := ((Layers.initial.put .system (.map [(text "a", .int 5)])).put .arguments
      (.map [(text "a", .map [(text "c", .map [(text "e", .int 3)])])])).put .user
        (.map [(text "a", .map [(text "b", .int 1), (text "c", .map [(text "d", .int 2)])])])
    layers.get? "a".toList .null = some (.map [(text "b", .int 1),
      (text "c", .map [(text "d", .int 2), (text "e", .int 3)])]) := by
  intro text layers
  have h : layers.Reachable := by
    refine .loadTable _ (.loadTable _ (.loadTable _ .initial ?_) ?_) ?_ <;> decide
  refine ((get?_of_precedence h "a".toList .null).2 [.builtIn, .system, .user, .environment]
    .arguments [.runtime] rfl ?_ ?_).2.2.2 _ rfl <;> decide

end Layers

end FileSieve
