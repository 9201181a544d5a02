import CrateGraph.Proofs.Path.Unreachable

/-!
# One spelling for each path

A path can be spelled in many ways: with more slashes than needed between two names or at its
end, and with `.` segments. What `toSlash` writes has none of these, so it is one spelling for
all of them. Two relative paths are written alike exactly if they take the same steps, and so
are two absolute ones.

A relative path and an absolute path are never written alike, with one exception: nothing is
written for the root directory, and nothing for the path that takes no step. What is written is
text, so of paths that are none only the steps as they are shown can be told apart.

What is written is cut into segments again, and what has to be kept out of it are the segments
that mean nothing. Both directions rest on that: what `toSlash` writes has no such segment after
its first, and a text without one is written as it is.

## Main results

* `Shortens.same` — what reading a path passes over.
* `normal_toSlash`, `normal_relativeTo` — what is written is in normal form.
* `toSlash_eq_self_iff` — exactly the texts in normal form are written as they are.
* `components_toSlash` — what is written is read back.
* `toSlash_eq_iff` — which paths are written alike.
* `normalForm_toSlash` — all of it together.
-/

namespace CrateGraph.Path

/-- Whether a text is written without `.` segments, doubled slashes and a slash at its end. -/
structure Normal (written : String) : Prop where
  noHere : ['.'] ∉ written.toList.splitOn '/'
  noDoubled : ¬['/', '/'] <:+: written.toList
  noTrailing : written.toList.getLast? ≠ some '/'

/-- The components of a path, without the `.` that a relative path may start with. -/
def route (p : Path) : List Component :=
  match p.components with
  | .here :: cs => cs
  | cs => cs

/-- Two spellings of a path, of which the second leaves out something that means nothing. -/
inductive Shortens : Path → Path → Prop where
  | doubled (a b : Bytes) : Shortens ⟨a ++ slash :: slash :: b⟩ ⟨a ++ slash :: b⟩
  | here (a b : Bytes) : Shortens ⟨a ++ slash :: (dot ++ slash :: b)⟩ ⟨a ++ slash :: b⟩
  | trailing (a : Bytes) (h : a ≠ []) : Shortens ⟨a ++ [slash]⟩ ⟨a⟩

/-- A way to write paths that has one spelling for each. -/
structure NormalForm (write : Path → String) : Prop where
  normal : ∀ p, Normal (write p)
  idempotent : ∀ p, write (ofText (write p)) = write p
  /-- Spellings differ exactly where the steps do. -/
  alike : ∀ s t, (ofText s).isAbsolute = (ofText t).isAbsolute →
    (write (ofText s) = write (ofText t) ↔ (ofText s).route = (ofText t).route)
  /-- Of paths that need not be text, they differ where the steps differ as they are shown. -/
  shown : ∀ p q, p.isAbsolute = q.isAbsolute →
    (write p = write q ↔ p.route.map Component.shown = q.route.map Component.shown)
  /-- What a spelling can leave out is not among the steps to begin with. -/
  respelled : ∀ p q, Shortens p q → p.Same q

variable {p q path base : Path} {s t : String} {l : List Bytes} {cs : List Component}

/-! ## What reading passes over -/

/-- A path is read alike if its later segments are. -/
theorem same_of_segments {first : Bytes} {rest rest' : List Bytes}
    (hp : p.segments = first :: rest) (hq : q.segments = first :: rest')
    (habs : p.isAbsolute = q.isAbsolute)
    (h : rest.filterMap component? = rest'.filterMap component?) : p.Same q := by
  unfold Same components
  simp only [hp, hq, habs, List.filterMap_cons, h]

/-- What stands after a slash does not make a path absolute. -/
theorem isAbsolute_append_slash (a b b' : Bytes) :
    isAbsolute ⟨a ++ slash :: b⟩ = isAbsolute ⟨a ++ slash :: b'⟩ := by
  cases a <;> simp [isAbsolute]

/-- A segment that means nothing can be left out before another one. -/
theorem same_append_idle {idle : Bytes} (h : isIdle idle = true) (a b : Bytes) :
    Same ⟨a ++ slash :: (idle ++ slash :: b)⟩ ⟨a ++ slash :: b⟩ := by
  have hslash : slash ∉ idle := by
    rcases (by simpa [isIdle] using h : idle = [] ∨ idle = dot) with rfl | rfl <;> decide
  obtain ⟨first, rest, ha⟩ := exists_segments_eq_cons ⟨a⟩
  have hlong : segments ⟨a ++ slash :: (idle ++ slash :: b)⟩ =
      first :: (rest ++ idle :: segments ⟨b⟩) := by
    rw [segments_append, segments_append, segments_of_slash_not_mem hslash, ha]
    simp
  have hshort : segments ⟨a ++ slash :: b⟩ = first :: (rest ++ segments ⟨b⟩) := by
    rw [segments_append, ha, List.cons_append]
  refine same_of_segments hlong hshort (isAbsolute_append_slash a _ b) ?_
  simp [component?_eq_none_iff.2 h]

/-- A slash at the end of a path means nothing. -/
theorem same_append_slash {a : Bytes} (h : a ≠ []) : Same ⟨a ++ [slash]⟩ ⟨a⟩ := by
  obtain ⟨first, rest, ha⟩ := exists_segments_eq_cons ⟨a⟩
  have hlong : segments ⟨a ++ [slash]⟩ = first :: (rest ++ [[]]) := by
    rw [segments_append, ha]
    rfl
  have habs : isAbsolute ⟨a ++ [slash]⟩ = isAbsolute ⟨a⟩ := by
    obtain ⟨b, bs, rfl⟩ := List.exists_cons_of_ne_nil h
    rfl
  refine same_of_segments hlong ha habs ?_
  have hidle : component? [] = none := by decide
  simp [hidle]

/-- Reading a path passes over what is left out. -/
theorem Shortens.same (h : Shortens p q) : p.Same q := by
  cases h with
  | doubled a b => exact same_append_idle (show isIdle [] = true by decide) a b
  | here a b => exact same_append_idle (by decide) a b
  | trailing a hne => exact same_append_slash hne

/-! ## Texts in normal form -/

/-- Doubled slashes and a slash at the end are the same thing among the segments: an empty one
after the first. -/
theorem normal_iff_segments :
    Normal s ↔ dot ∉ (ofText s).segments ∧ [] ∉ (ofText s).segments.tail := by
  have hbytes : ∀ cs t, Text.toBytes (String.ofList cs) = Text.toBytes t ↔ cs = t.toList := by
    intro cs t
    rw [Text.toBytes_inj, ← String.toList_inj, String.toList_ofList]
  have hhere : dot ∈ (ofText s).segments ↔ ['.'] ∈ s.toList.splitOn '/' := by
    have hdot : ∀ cs, Text.toBytes (String.ofList cs) = dot ↔ cs = ['.'] := fun cs => hbytes cs "."
    simp [segments_ofText, hdot]
  have hempty : [] ∈ (ofText s).segments.tail ↔ [] ∈ (s.toList.splitOn '/').tail := by
    have hnil : ∀ cs, Text.toBytes (String.ofList cs) = [] ↔ cs = [] := fun cs => hbytes cs ""
    rw [segments_ofText, ← List.map_tail, List.mem_map]
    simp [hnil]
  rw [hhere, hempty, Text.nil_mem_tail_splitOn_iff, not_or]
  exact ⟨fun h => ⟨h.noHere, h.noDoubled, h.noTrailing⟩, fun h => ⟨h.1, h.2.1, h.2.2⟩⟩

/-- Segments that all mean something are those of a text in normal form, below the root or not. -/
theorem normal_of_ofText (h : ∀ s ∈ l, isIdle s = false ∧ slash ∉ s)
    (ht : ofText t = ofSegments l ∨ ofText t = ofSegments ([] :: l)) : Normal t := by
  have hidle : dot ∉ l ∧ [] ∉ l :=
    ⟨fun hmem => absurd (h dot hmem).1 (by decide), fun hmem => absurd (h [] hmem).1 (by decide)⟩
  have hroot : ofText t = ofSegments ([] :: l) → Normal t := by
    intro ht
    have hslash : ∀ s ∈ [] :: l, slash ∉ s := by
      intro s hs
      rcases List.mem_cons.1 hs with rfl | hs
      · exact List.not_mem_nil
      · exact (h s hs).2
    rw [normal_iff_segments, ht, segments_ofSegments (by simp) hslash, List.tail_cons,
      List.mem_cons]
    exact ⟨not_or.2 ⟨by decide, hidle.1⟩, hidle.2⟩
  rcases ht with ht | ht
  · by_cases hl : l = []
    · subst hl
      exact hroot ht
    · rw [normal_iff_segments, ht, segments_ofSegments hl fun s hs => (h s hs).2]
      exact ⟨hidle.1, fun hmem => hidle.2 (List.mem_of_mem_tail hmem)⟩
  · exact hroot ht

/-- Components are written in normal form if the root is only the first of them. -/
theorem normal_slashed (h : ∀ c ∈ cs, c = .here ∨ c.Inner) :
    Normal (slashed cs) ∧ Normal (slashed (.root :: cs)) := by
  have hshown : ∀ c ∈ cs.map Component.shown, c = .here ∨ c.Inner := by
    intro c hc
    obtain ⟨d, hd, rfl⟩ := List.mem_map.1 hc
    exact (h d hd).imp (congrArg Component.shown) inner_shown
  have hidle := isIdle_of_mem_filterMap hshown
  exact ⟨normal_of_ofText hidle (.inl (ofText_slashed cs)),
    normal_of_ofText hidle (.inr (ofText_slashed (.root :: cs)))⟩

/-! ## Routes -/

theorem components_eq_route (p : Path) :
    p.components = p.route ∨ p.components = .here :: p.route := by
  unfold route
  split
  · exact .inr ‹_›
  · exact .inl rfl

theorem mem_components_of_mem_route {c : Component} (h : c ∈ p.route) : c ∈ p.components := by
  rcases components_eq_route p with he | he
  · exact he ▸ h
  · exact he ▸ List.mem_cons_of_mem _ h

theorem route_of_isAbsolute (h : p.isAbsolute = true) : p.route = p.components := by
  rw [route, components_of_isAbsolute h]

/-- The route of a relative path consists of names and steps up. -/
theorem inner_of_mem_route (h : p.isAbsolute = false) : ∀ c ∈ p.route, c.Inner := by
  intro c hc
  obtain ⟨first, rest, hsegments⟩ := exists_segments_eq_cons p
  have hslash : ∀ s ∈ first :: rest, slash ∉ s := fun s hs =>
    slash_not_mem_of_mem_segments (hsegments ▸ hs)
  by_cases hdot : first = dot
  · have hroute : p.route = rest.filterMap component? := by
      simp [route, components, hsegments, h, hdot]
    exact inner_of_mem_filterMap (fun s hs => hslash s (List.mem_cons_of_mem first hs))
      (hroute ▸ hc)
  · have hcomponents : p.components = (first :: rest).filterMap component? := by
      simp only [components, hsegments, h, if_neg hdot]
      rfl
    exact inner_of_mem_filterMap hslash (hcomponents ▸ mem_components_of_mem_route hc)

theorem eq_here_or_inner_of_mem_components (h : p.isAbsolute = false) :
    ∀ c ∈ p.components, c = .here ∨ c.Inner := by
  intro c hc
  rcases components_eq_route p with he | he
  · exact .inr (inner_of_mem_route h c (he ▸ hc))
  · rcases List.mem_cons.1 (he ▸ hc) with hhere | hmem
    · exact .inl hhere
    · exact .inr (inner_of_mem_route h c hmem)

theorem isText_of_mem_route (t : String) : ∀ c ∈ (ofText t).route, c.IsText := fun c hc =>
  isText_of_mem_components t c (mem_components_of_mem_route hc)

/-- A `.` is not written, so only the route counts. -/
theorem toSlash_eq_slashed_route (p : Path) : toSlash p = slashed p.route := by
  unfold toSlash
  rcases components_eq_route p with h | h
  · rw [h]
  · rw [h, slashed, List.filterMap_cons, segment?, slashed]

/-! ## What is written -/

/-- What is written for a path is in normal form. -/
theorem normal_toSlash (p : Path) : Normal (toSlash p) := by
  rw [toSlash_eq_slashed_route]
  cases h : p.isAbsolute with
  | false => exact (normal_slashed fun c hc => .inr (inner_of_mem_route h c hc)).1
  | true =>
      have hinner : ∀ c ∈ p.components.tail, c = .here ∨ c.Inner := fun c hc =>
        .inr (inner_of_mem_tail_components h hc)
      rw [route_of_isAbsolute h, components_eq_root_cons h]
      exact (normal_slashed hinner).2

/-- A walk is the path itself, or it does not hold the root: where it leads out of the base, both
have passed the root or neither has one. -/
theorem eq_or_inner_of_walkFrom? (h : walkFrom? path base = some cs) :
    cs = path.components ∨ ∀ c ∈ cs, c = .here ∨ c.Inner := by
  cases hpath : path.isAbsolute with
  | true =>
      cases hbase : base.isAbsolute with
      | true => exact .inr fun c hc => .inr (inner_of_mem_walkFrom? hpath hbase h c hc)
      | false =>
          rw [walkFrom?_of_relative hpath hbase] at h
          exact .inl (Option.some.inj h).symm
  | false =>
      cases hbase : base.isAbsolute with
      | true => simp [walkFrom?, hpath, hbase] at h
      | false =>
          have hwalk : walk false path.components base.components = some cs := by
            simpa [walkFrom?, hpath, hbase] using h
          refine .inr fun c hc => ?_
          rcases mem_of_walk hwalk c hc with rfl | hmem
          · exact .inr inner_up
          · exact eq_here_or_inner_of_mem_components hpath c hmem

/-- What is written for a path that is seen from a base is in normal form, unless it is `.`. -/
theorem normal_relativeTo (path base : Path) :
    relativeTo path base = "." ∨ Normal (relativeTo path base) := by
  have hnormal : Normal (slashed ((walkFrom? path base).getD path.components)) := by
    cases hwalk : walkFrom? path base with
    | none => exact normal_toSlash path
    | some cs =>
        rw [Option.getD_some]
        rcases eq_or_inner_of_walkFrom? hwalk with rfl | hinner
        · exact normal_toSlash path
        · exact (normal_slashed hinner).1
  simp only [relativeTo]
  split
  · exact .inl rfl
  · exact .inr hnormal

/-- Segments that all mean something are those of the components that are read. -/
theorem filterMap_bytes?_filterMap_component? (h : ∀ s ∈ l, isIdle s = false) :
    (l.filterMap component?).filterMap Component.bytes? = l := by
  induction l with
  | nil => rfl
  | cons s l ih =>
      obtain ⟨c, hc⟩ := isIdle_eq_false_iff.1 (h s List.mem_cons_self)
      have hrest := ih fun t ht => h t (List.mem_cons_of_mem s ht)
      simp [hc, bytes?_of_component? hc, hrest]

/-- A text in normal form has the segments of its components. -/
theorem ofComponents_components (h : Normal s) (hs : s ≠ "") :
    ofComponents (ofText s).components = ofText s := by
  suffices hbytes : (ofText s).components.filterMap Component.bytes? = (ofText s).segments by
    rw [ofComponents, hbytes, ofSegments_segments]
  obtain ⟨hdot, hempty⟩ := normal_iff_segments.1 h
  obtain ⟨first, rest, hsegments⟩ := exists_segments_eq_cons (ofText s)
  rw [hsegments] at hdot hempty
  have hfirst : first ≠ dot := (List.ne_of_not_mem_cons hdot).symm
  have hrest : ∀ t ∈ rest, isIdle t = false := by
    intro t ht
    have hne : t ≠ [] := fun he => hempty (he ▸ ht)
    have hne' : t ≠ dot := fun he => hdot (he ▸ List.mem_cons_of_mem first ht)
    simp [isIdle, hne, hne']
  rw [hsegments]
  by_cases hroot : first = []
  · -- A text that starts with an empty segment and is not empty starts with a slash.
    have habs : (ofText s).isAbsolute = true := by
      refine isAbsolute_iff_segments.2 ⟨rest, ?_, hroot ▸ hsegments⟩
      rintro rfl
      have htext : ofText "" = ofText s := by
        rw [← ofSegments_segments (ofText s), hsegments, hroot]
        decide
      exact hs (ofText_inj.1 htext).symm
    rw [components_of_isAbsolute habs, hsegments, List.tail_cons, List.filterMap_cons,
      Component.bytes?, filterMap_bytes?_filterMap_component? hrest, hroot]
  · -- Otherwise the first segment is read as all the others are.
    rw [components_of_first hsegments hroot hfirst, hsegments]
    refine filterMap_bytes?_filterMap_component? fun t ht => ?_
    rcases List.mem_cons.1 ht with rfl | ht
    · simp [isIdle, hroot, hfirst]
    · exact hrest t ht

/-- Exactly the texts in normal form are written as they are. -/
theorem toSlash_eq_self_iff : toSlash (ofText s) = s ↔ Normal s := by
  constructor
  · intro h
    rw [← h]
    exact normal_toSlash (ofText s)
  · intro h
    by_cases hs : s = ""
    · subst hs
      decide
    · rw [← ofText_inj, toSlash, ofText_slashed, map_shown_of_isText (isText_of_mem_components s),
        ofComponents_components h hs]

/-! ## What is read back -/

/-- Nothing is written for the root, and for the relative path that takes no step. -/
theorem toSlash_eq_empty_iff :
    toSlash p = "" ↔ p.route = if p.isAbsolute then [.root] else [] := by
  rw [toSlash_eq_slashed_route]
  constructor
  · intro hempty
    cases h : p.isAbsolute with
    | false =>
        by_contra hne
        exact (slashed_ne hne (inner_of_mem_route h)).1 hempty
    | true =>
        rw [route_of_isAbsolute h] at hempty ⊢
        by_contra hroot
        exact (ne_empty_of_spells (spells_components h hroot)).1 hempty
  · intro h
    rw [h]
    split <;> rfl

/-- What is written for a path is read as the route of that path, as it is shown. -/
theorem components_toSlash (h : toSlash p ≠ "") :
    (ofText (toSlash p)).components = p.route.map Component.shown := by
  rw [Ne, toSlash_eq_empty_iff] at h
  rw [toSlash_eq_slashed_route]
  cases habs : p.isAbsolute with
  | false =>
      have hne : p.route ≠ [] := by simpa [habs] using h
      exact (components_slashed hne (inner_of_mem_route habs)).1
  | true =>
      have hroot : p.components ≠ [.root] := by simpa [habs, route_of_isAbsolute habs] using h
      rw [route_of_isAbsolute habs]
      exact (spells_components habs hroot).2

/-- Two paths are written alike exactly if their routes are shown alike, or if nothing is written
for either. -/
theorem toSlash_eq_iff : toSlash p = toSlash q ↔
    p.route.map Component.shown = q.route.map Component.shown ∨
      toSlash p = "" ∧ toSlash q = "" := by
  constructor
  · intro h
    by_cases hempty : toSlash p = ""
    · exact .inr ⟨hempty, h ▸ hempty⟩
    · have hempty' : toSlash q ≠ "" := h ▸ hempty
      left
      calc p.route.map Component.shown = (ofText (toSlash p)).components :=
            (components_toSlash hempty).symm
        _ = (ofText (toSlash q)).components := by rw [h]
        _ = q.route.map Component.shown := components_toSlash hempty'
  · rintro (h | ⟨h, h'⟩)
    · rw [toSlash_eq_slashed_route, toSlash_eq_slashed_route, ← ofText_inj, ofText_slashed,
        ofText_slashed, h]
    · rw [h, h']

/-- A relative path and an absolute one can only be written alike as the empty text. -/
example : toSlash (ofText "/") = toSlash (ofText "./") := by decide

/-- Two relative paths, or two absolute ones, are written alike exactly if their routes are shown
alike. -/
theorem toSlash_eq_iff_of_isAbsolute_eq (h : p.isAbsolute = q.isAbsolute) :
    toSlash p = toSlash q ↔ p.route.map Component.shown = q.route.map Component.shown := by
  refine toSlash_eq_iff.trans (or_iff_left_of_imp ?_)
  rintro ⟨hp, hq⟩
  rw [toSlash_eq_empty_iff.1 hp, toSlash_eq_empty_iff.1 hq, h]

/-- Texts are shown as they are, so of two of them the routes are the same. -/
theorem toSlash_ofText_eq_iff (h : (ofText s).isAbsolute = (ofText t).isAbsolute) :
    toSlash (ofText s) = toSlash (ofText t) ↔ (ofText s).route = (ofText t).route := by
  rw [toSlash_eq_iff_of_isAbsolute_eq h, map_shown_of_isText (isText_of_mem_route s),
    map_shown_of_isText (isText_of_mem_route t)]

/-! ## The normal form -/

/-- What is written for a path is one spelling for all paths of its kind that take the same route,
and the one that has nothing left to leave out. -/
theorem normalForm_toSlash : NormalForm toSlash where
  normal := normal_toSlash
  idempotent p := toSlash_eq_self_iff.2 (normal_toSlash p)
  alike _ _ h := toSlash_ofText_eq_iff h
  shown _ _ h := toSlash_eq_iff_of_isAbsolute_eq h
  respelled _ _ h := h.same

/-- One crate directory under two spellings, and the root apart from a directory below it. -/
theorem normalForm_toSlash_respelled :
    (ofText "./crates//core/.").isAbsolute = (ofText "crates/./core/").isAbsolute ∧
      toSlash (ofText "./crates//core/.") = toSlash (ofText "crates/./core/") ∧
      (ofText "/").isAbsolute = (ofText "/ws").isAbsolute ∧
      toSlash (ofText "/") ≠ toSlash (ofText "/ws") ∧
      Shortens (ofText "/ws//core") (ofText "/ws/core") ∧
      (ofText "/ws//core").Same (ofText "/ws/core") := by
  have hshortens : Shortens (ofText "/ws//core") (ofText "/ws/core") :=
    .doubled (Text.toBytes "/ws") (Text.toBytes "core")
  exact ⟨by decide, (normalForm_toSlash.alike _ _ (by decide)).2 (by decide), by decide,
    fun h => absurd ((normalForm_toSlash.alike _ _ (by decide)).1 h) (by decide),
    hshortens, normalForm_toSlash.respelled _ _ hshortens⟩

end CrateGraph.Path
