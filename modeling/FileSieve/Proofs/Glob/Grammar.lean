import FileSieve.Proofs.Glob.SearchPattern

/-!
# The grammar of globs

Which texts are globs, told without the tokens that they are read as: a glob is a text that can be
cut into pieces, where every run of stars is a piece of its own, two stars make up a component of
the path, and the ranges of a class are in order.

* `canCut_of_parseFrom`: a text that is read can be cut.
* `accepts_of_cut`: a text that can be cut is read.
* `searchText_iff_isGlob`: the search pattern of a text is worked out when the text is a glob; it
  is then accepted, and any other text is refused under its own name.
-/

namespace FileSieve.Glob

/-! ### Pieces -/

/-- What follows the opening of a class, up to its closing bracket. The members are read from left
to right; before the `first` one was read, a closing bracket is a member. -/
inductive ClassRest : Bool → List Char → Prop
  /-- The closing bracket. -/
  | close : ClassRest false [']']
  /-- A range: a member, a dash, and another character than the closing bracket. -/
  | range {first : Bool} {low high : Char} {s : List Char} : (low = ']' → first = true) →
      high ≠ ']' → low.toNat ≤ high.toNat → ClassRest false s →
        ClassRest first (low :: '-' :: high :: s)
  /-- A member that does not begin a range. -/
  | single {first : Bool} {c : Char} {s : List Char} : (c = ']' → first = true) →
      (∀ high rest, s = '-' :: high :: rest → high = ']') → ClassRest false s →
        ClassRest first (c :: s)

/-- A component of the path starts behind the text. -/
def StartsComponent (before : List Char) : Prop := before = [] ∨ before.getLast? = some '/'

/-- A component of the path ends in front of the text. -/
def EndsComponent (after : List Char) : Prop := after = [] ∨ after.head? = some '/'

/-- A piece of a glob, between the text before it and the text after it. -/
inductive IsPiece (before after : List Char) : List Char → Prop
  /-- A character without a meaning of its own. -/
  | char {c : Char} : c ≠ '*' → c ≠ '?' → c ≠ '[' → IsPiece before after [c]
  /-- A question mark. -/
  | any : IsPiece before after ['?']
  /-- A star that is a run of its own. -/
  | star : before.getLast? ≠ some '*' → after.head? ≠ some '*' → IsPiece before after ['*']
  /-- Two stars that are a component of their own, and therefore a run of their own. -/
  | stars : StartsComponent before → EndsComponent after → IsPiece before after ['*', '*']
  /-- A class; an exclamation mark behind its opening is no member. -/
  | oneOf {s : List Char} : s.head? ≠ some '!' → ClassRest true s → IsPiece before after ('[' :: s)
  /-- A class of the characters that are no member. -/
  | noneOf {s : List Char} : ClassRest true s → IsPiece before after ('[' :: '!' :: s)

/-- What stands behind a text can be cut into pieces. -/
inductive Cut : List Char → List Char → Prop
  /-- Nothing is left. -/
  | nil {before : List Char} : Cut before []
  /-- A piece comes first. -/
  | cons {before t after : List Char} : IsPiece before after t →
      Cut (before ++ t) after → Cut before (t ++ after)

/-- The text is a row of pieces. -/
def IsGlob (s : List Char) : Prop := Cut [] s

/-! ### Single steps of the reader -/

variable {fresh first negated : Bool} {items : List ClassItem} {c e : Char}
  {before s t rest : List Char}

theorem parseFrom_any :
    parseFrom (.outside fresh) ('?' :: s) = (.any :: ·) <$> parseFrom (.outside false) s := by
  rw [parseFrom]

theorem parseFrom_star (h : s.head? ≠ some '*') :
    parseFrom (.outside fresh) ('*' :: s) = (.run :: ·) <$> parseFrom (.outside false) s := by
  -- the cases of two stars and more do not apply
  rw [parseFrom] <;> (intros; simp_all)

theorem parseFrom_stars :
    parseFrom (.outside true) ('*' :: '*' :: '/' :: s) =
      (.directories :: ·) <$> parseFrom (.outside true) s := by
  rw [parseFrom]
  rfl

theorem parseFrom_class (h : s.head? ≠ some '!') :
    parseFrom (.outside fresh) ('[' :: s) = parseFrom (.inside false []) s := by
  rw [parseFrom]
  rintro _ rfl
  exact h rfl

theorem parseFrom_negatedClass :
    parseFrom (.outside fresh) ('[' :: '!' :: s) = parseFrom (.inside true []) s := by
  rw [parseFrom]

theorem parseFrom_close (h : items ≠ []) :
    parseFrom (.inside negated items) (']' :: s) =
      (.oneOf negated items :: ·) <$> parseFrom (.outside false) s := by
  have hcloses : closes items ']' = true := closes_iff.2 ⟨rfl, h⟩
  match s with
  | [] | [_] | _ :: _ :: _ => simp [parseFrom, hcloses]

theorem parseFrom_range (hc : c = ']' → items = []) (he : e ≠ ']') (hle : c ≤ e) :
    parseFrom (.inside negated items) (c :: '-' :: e :: s) =
      parseFrom (.inside negated (items ++ [.range c e])) s := by
  have hcloses : ¬ closes items c = true := fun h => (closes_iff.1 h).2 (hc (closes_iff.1 h).1)
  simp [parseFrom, hcloses, he, hle]

theorem parseFrom_single (hc : c = ']' → items = []) (hs : s ≠ [])
    (hdash : ∀ high rest, s = '-' :: high :: rest → high = ']') :
    parseFrom (.inside negated items) (c :: s) =
      parseFrom (.inside negated (items ++ [.single c])) s := by
  have hcloses : ¬ closes items c = true := fun h => (closes_iff.1 h).2 (hc (closes_iff.1 h).1)
  match s with
  | [] => exact absurd rfl hs
  | [_] => simp [parseFrom, hcloses]
  | d :: e :: s =>
    have hrange : ¬ (d = '-' ∧ e ≠ ']') := by
      rintro ⟨rfl, he⟩
      exact he (hdash e s rfl)
    simp [parseFrom, hcloses, hrange]

/-! ### What is read can be cut -/

/-- The place of a reader behind a text: it knows whether a component starts there, and a star
that was read is the whole run. -/
structure Follows (before : List Char) (fresh : Bool) (s : List Char) : Prop where
  fresh_iff : fresh = true ↔ StartsComponent before
  run : before.getLast? = some '*' → s.head? ≠ some '*'

/-- What is ahead of a place can be cut: into pieces, or into the rest of a class and pieces. -/
def Place.CanCut : Place → List Char → Prop
  | .outside fresh, s => ∀ before, Follows before fresh s → Cut before s
  | .inside _ items, s => ∃ t rest, s = t ++ rest ∧ ClassRest items.isEmpty t ∧
      ∀ before, before.getLast? = some ']' → Cut before rest

/-- The last character tells whether a component starts. -/
theorem startsComponent_append (h : t.getLast? = some c) :
    StartsComponent (before ++ t) ↔ c = '/' := by
  have hlast : (before ++ t).getLast? = some c := by
    rw [List.getLast?_append, h]
    rfl
  have hne : before ++ t ≠ [] := by
    intro hnil
    rw [hnil] at hlast
    cases hlast
  rw [StartsComponent, hlast, Option.some.injEq]
  exact or_iff_right hne

theorem follows_append (hlast : t.getLast? = some c) (hstar : c ≠ '*') :
    Follows (before ++ t) (c == '/') s := by
  constructor
  · rw [startsComponent_append hlast, beq_iff_eq]
  · rw [List.getLast?_append, hlast]
    intro h
    exact absurd (Option.some.inj h) hstar

theorem ClassRest.getLast? (h : ClassRest first s) : s.getLast? = some ']' := by
  induction h with
  | close => rfl
  | range _ _ _ _ ih =>
    rw [List.getLast?_cons_cons, List.getLast?_cons_cons, List.getLast?_cons, ih]
    rfl
  | single _ _ _ ih =>
    rw [List.getLast?_cons, ih]
    rfl

namespace Place.CanCut

/-- A piece whose last character is no star is followed by whatever can be cut there. -/
theorem piece (hpiece : ∀ before, Follows before fresh (t ++ s) → IsPiece before s t)
    (hlast : t.getLast? = some c) (hstar : c ≠ '*')
    (h : (Place.outside (c == '/')).CanCut s) : (Place.outside fresh).CanCut (t ++ s) :=
  fun before hbefore => .cons (hpiece before hbefore) (h _ (follows_append hlast hstar))

theorem close (hitems : items ≠ []) (h : (Place.outside false).CanCut s) :
    (Place.inside negated items).CanCut (']' :: s) := by
  refine ⟨[']'], s, rfl, ?_, fun before hbefore => h before ?_⟩
  · rw [List.isEmpty_eq_false_iff.2 hitems]
    exact .close
  · have : Follows (before.dropLast ++ [']']) (']' == '/') s := follows_append rfl (by decide)
    rwa [← List.dropLast_append_getLast? _ hbefore]

theorem range (hc : c = ']' → items = []) (he : e ≠ ']') (hle : c ≤ e)
    (h : (Place.inside negated (items ++ [.range c e])).CanCut s) :
    (Place.inside negated items).CanCut (c :: '-' :: e :: s) := by
  obtain ⟨t, rest, rfl, ht, hrest⟩ := h
  rw [List.isEmpty_eq_false_iff.2 (by simp)] at ht
  exact ⟨c :: '-' :: e :: t, rest, rfl,
    .range (fun heq => List.isEmpty_iff.2 (hc heq)) he hle ht, hrest⟩

theorem single (hc : c = ']' → items = [])
    (hdash : ∀ high rest, s = '-' :: high :: rest → high = ']')
    (h : (Place.inside negated (items ++ [.single c])).CanCut s) :
    (Place.inside negated items).CanCut (c :: s) := by
  obtain ⟨t, rest, rfl, ht, hrest⟩ := h
  rw [List.isEmpty_eq_false_iff.2 (by simp)] at ht
  refine ⟨c :: t, rest, rfl, .single (fun heq => List.isEmpty_iff.2 (hc heq)) ?_ ht, hrest⟩
  rintro high rest' rfl
  exact hdash high _ rfl

theorem star (hs : s.head? ≠ some '*') (h : (Place.outside false).CanCut s) :
    (Place.outside fresh).CanCut ('*' :: s) := by
  intro before hbefore
  refine .cons (t := ['*']) (.star (fun hrun => hbefore.run hrun rfl) hs) (h _ ?_)
  constructor
  · simp [StartsComponent]
  · exact fun _ => hs

/-- A class that can be read to its end is a piece. -/
theorem oneOf (negated : Bool) (hpiece : ∀ before t rest, s = t ++ rest → ClassRest true t →
      IsPiece before rest (classFront negated ++ t))
    (h : (Place.inside negated []).CanCut s) :
    (Place.outside fresh).CanCut (classFront negated ++ s) := by
  obtain ⟨t, rest, rfl, ht, hrest⟩ := h
  intro before _
  rw [← List.append_assoc]
  refine .cons (hpiece before t rest rfl ht) (hrest _ ?_)
  rw [List.getLast?_append, List.getLast?_append, ht.getLast?]
  rfl

end Place.CanCut

/-- What is read from a place on can be cut there. -/
theorem canCut_of_parseFrom {place : Place} {tokens : List Token}
    (h : parseFrom place s = .ok tokens) : place.CanCut s := by
  have hmember {items : List ClassItem} {c : Char} (hc : ¬ closes items c = true) :
      c = ']' → items = [] := fun heq => by simpa [heq, closes_iff] using hc
  fun_induction parseFrom place s generalizing tokens with
  | case1 => exact fun _ _ => .nil
  | case2 => cases h
  | case3 s ih =>
    -- the separator behind the two stars is a piece of its own
    obtain ⟨rest, hrest, -⟩ := map_eq_ok_iff.1 h
    intro before hbefore
    refine .cons (t := ['*', '*']) (.stars (hbefore.fresh_iff.1 rfl) (.inr rfl)) ?_
    refine .cons (t := ['/']) (.char (by decide) (by decide) (by decide)) ?_
    exact ih hrest _ (follows_append (c := '/') rfl (by decide))
  | case4 => cases h
  | case5 =>
    intro before hbefore
    exact .cons (t := ['*', '*']) (.stars (hbefore.fresh_iff.1 rfl) (.inl rfl)) .nil
  | case6 => cases h
  | case7 => cases h
  | case8 fresh s _ _ hend hmore ih =>
    obtain ⟨rest, hrest, -⟩ := map_eq_ok_iff.1 h
    refine .star ?_ (ih hrest)
    cases s with
    | nil => simp
    | cons d s =>
      rintro heq
      cases heq
      cases s with
      | nil => exact hend rfl
      | cons e s => exact hmore e s rfl
  | case9 fresh s ih =>
    obtain ⟨rest, hrest, -⟩ := map_eq_ok_iff.1 h
    exact .piece (t := ['?']) (c := '?') (fun _ _ => .any) rfl (by decide) (ih hrest)
  | case10 fresh s ih => exact .oneOf true (fun _ _ _ _ ht => .noneOf ht) (ih h)
  | case11 fresh s hnot ih =>
    refine .oneOf false (fun _ t rest hs ht => .oneOf ?_ ht) (ih h)
    cases t with
    | nil => simp
    | cons d t =>
      rintro heq
      cases heq
      exact hnot _ hs
  | case12 fresh c s _ _ _ _ _ _ _ _ ih =>
    obtain ⟨rest, hrest, -⟩ := map_eq_ok_iff.1 h
    exact .piece (t := [c]) (fun _ _ => .char ‹_› ‹_› ‹_›) rfl ‹_› (ih hrest)
  | case13 => cases h
  | case14 negated items c hc =>
    obtain ⟨rfl, hitems⟩ := closes_iff.1 hc
    exact .close hitems fun _ _ => .nil
  | case15 => cases h
  | case16 negated items c d hc ih =>
    obtain ⟨rfl, hitems⟩ := closes_iff.1 hc
    obtain ⟨rest, hrest, -⟩ := map_eq_ok_iff.1 h
    exact .close hitems (ih hrest)
  | case17 negated items c d hc ih => exact .single (hmember hc) (by simp) (ih h)
  | case18 negated items c d e s hc ih =>
    obtain ⟨rfl, hitems⟩ := closes_iff.1 hc
    obtain ⟨rest, hrest, -⟩ := map_eq_ok_iff.1 h
    exact .close hitems (ih hrest)
  | case19 negated items c d e s hc hd hle ih =>
    obtain ⟨rfl, he⟩ := hd
    exact .range (hmember hc) he hle (ih h)
  | case20 => cases h
  | case21 negated items c d e s hc hd ih =>
    refine .single (hmember hc) ?_ (ih h)
    rintro high rest heq
    cases heq
    by_contra he
    exact hd ⟨rfl, he⟩

/-! ### What can be cut is read -/

/-- The text is read from the place on. -/
def Place.Accepts (place : Place) (s : List Char) : Prop :=
  ∃ tokens, parseFrom place s = .ok tokens

theorem accepts_of_map {place : Place} {f : List Token → List Token}
    (h : parseFrom place s = f <$> parseFrom (.outside first) t)
    (ht : (Place.outside first).Accepts t) : place.Accepts s := by
  obtain ⟨tokens, htokens⟩ := ht
  exact ⟨f tokens, by rw [h, htokens]; rfl⟩

theorem accepts_of_eq {place other : Place} (h : parseFrom place s = parseFrom other t)
    (ht : other.Accepts t) : place.Accepts s := by
  obtain ⟨tokens, htokens⟩ := ht
  exact ⟨tokens, h.trans htokens⟩

/-- The rest of a class is read when what follows it is. -/
theorem accepts_of_classRest (h : ClassRest first t)
    (hrest : (Place.outside false).Accepts rest) (hitems : first = true → items = [])
    (hnone : first = false → items ≠ []) : (Place.inside negated items).Accepts (t ++ rest) := by
  induction h generalizing items with
  | close => exact accepts_of_map (parseFrom_close (hnone rfl)) hrest
  | range hlow hhigh hle _ ih =>
    exact accepts_of_eq (parseFrom_range (fun heq => hitems (hlow heq)) hhigh hle)
      (ih (by simp) (by simp))
  | @single first c s hc hdash hs ih =>
    refine accepts_of_eq (parseFrom_single (fun heq => hitems (hc heq)) ?_ ?_)
      (ih (by simp) (by simp))
    · cases hs <;> simp
    · -- the dash is not the closing bracket, so the character behind it is of the class as well
      intro high rest' heq
      match s, hs.getLast? with
      | [_], hlast => cases hlast; cases heq
      | _ :: _ :: s, _ => cases heq; exact hdash high s rfl

theorem accepts_plain_iff (h : isSpecial c = false) :
    (Place.outside fresh).Accepts (c :: s) ↔ (Place.outside (c == '/')).Accepts s := by
  refine ⟨fun ⟨tokens, htokens⟩ => ?_, accepts_of_map (parseFrom_plain h)⟩
  rw [parseFrom_plain h] at htokens
  obtain ⟨rest, hrest, -⟩ := map_eq_ok_iff.1 htokens
  exact ⟨rest, hrest⟩

/-- What can be cut behind a text is read there. -/
theorem accepts_of_cut (h : Cut before s) (hfresh : fresh = true ↔ StartsComponent before) :
    (Place.outside fresh).Accepts s := by
  induction h generalizing fresh with
  | nil => exact ⟨[], by rw [parseFrom]⟩
  | @cons before piece after hpiece _ ih =>
    have hinner {c : Char} (hlast : piece.getLast? = some c) (hc : c ≠ '/') :
        (Place.outside false).Accepts after := by
      refine ih ?_
      rw [startsComponent_append hlast]
      simp [hc]
    cases hpiece with
    | @char c hstar hany hclass =>
      have hplain : isSpecial c = false := by simp [isSpecial, specials, hstar, hany, hclass]
      refine (accepts_plain_iff hplain).2 (ih ?_)
      rw [startsComponent_append (c := c) rfl, beq_iff_eq]
    | any => exact accepts_of_map parseFrom_any (hinner rfl (by decide))
    | star _ hafter => exact accepts_of_map (parseFrom_star hafter) (hinner rfl (by decide))
    | stars hstart hend =>
      obtain rfl : fresh = true := hfresh.2 hstart
      have hrest := hinner rfl (show '*' ≠ '/' by decide)
      rcases hend with rfl | hslash
      · exact ⟨[.rest], by rw [List.append_nil, parseFrom]; rfl⟩
      · cases after with
        | nil => cases hslash
        | cons d after =>
          obtain rfl : d = '/' := Option.some.inj hslash
          exact accepts_of_map parseFrom_stars ((accepts_plain_iff (by decide)).1 hrest)
    | @oneOf s hnot hclass =>
      have hrest := hinner (c := ']') (by rw [List.getLast?_cons, hclass.getLast?]; rfl) (by decide)
      have hfront : (s ++ after).head? ≠ some '!' := by
        cases hclass <;> exact hnot
      exact accepts_of_eq (parseFrom_class hfront)
        (accepts_of_classRest hclass hrest (fun _ => rfl) (by simp))
    | noneOf hclass =>
      have hrest := hinner (c := ']')
        (by rw [List.getLast?_cons_cons, List.getLast?_cons, hclass.getLast?]; rfl) (by decide)
      exact accepts_of_eq parseFrom_negatedClass
        (accepts_of_classRest hclass hrest (fun _ => rfl) (by simp))

/-! ### Globs -/

/-- A text is read as tokens when it is a glob. -/
theorem accepts_iff_isGlob : (Place.outside true).Accepts s ↔ IsGlob s := by
  constructor
  · rintro ⟨tokens, htokens⟩
    exact canCut_of_parseFrom htokens [] ⟨by simp [StartsComponent], by simp⟩
  · intro h
    exact accepts_of_cut h (by simp [StartsComponent])

/-- **The search pattern of a text is worked out exactly when the text is a glob.** It is then
accepted, so that the glob can be matched; any other text is refused under its own name, for a rule
for globs that it breaks. -/
theorem searchText_iff_isGlob (s : List Char) :
    ((∃ pattern, searchText s = .ok pattern) ↔ IsGlob s) ∧
      ((∃ pattern regex, searchText s = .ok pattern ∧ Regex.compile pattern = .ok regex ∧
          ofText s = .ok ⟨s, regex⟩) ∨
        ∃ fault, searchText s = .error ⟨s, .malformed fault⟩ ∧
          ofText s = .error ⟨s, .malformed fault⟩) := by
  cases hparse : parse s with
  | ok tokens =>
    have hsearch : searchText s = .ok (patternText tokens) := by
      rw [searchText, hparse]
      rfl
    exact ⟨iff_of_true ⟨_, hsearch⟩ (accepts_iff_isGlob.1 ⟨tokens, hparse⟩),
      .inl ⟨_, _, hsearch, compile_patternText (proper_of_parse hparse), ofText_of_parse hparse⟩⟩
  | error fault =>
    have hsearch : searchText s = .error ⟨s, .malformed fault⟩ := by
      rw [searchText, hparse]
      rfl
    have hrefused : ofText s = .error ⟨s, .malformed fault⟩ := by
      rw [ofText, hsearch]
      rfl
    refine ⟨iff_of_false ?_ fun hglob => ?_, .inr ⟨fault, hsearch, hrefused⟩⟩
    · rintro ⟨pattern, hpattern⟩
      rw [hsearch] at hpattern
      cases hpattern
    · obtain ⟨tokens, htokens⟩ := accepts_iff_isGlob.2 hglob
      cases hparse.symm.trans htokens

end FileSieve.Glob
