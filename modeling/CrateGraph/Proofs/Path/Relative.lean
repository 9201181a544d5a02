import CrateGraph.Proofs.Path.Components

/-!
# Where relative paths lead

A relative path is followed from a base one component at a time: a name leads down, `..`
leads up, and `.` leads nowhere else. What `relativeTo` writes for a path leads from the
base back to that path, as long as neither of the two holds a `..`: the walk goes up from
the base to where the two part ways, and then down.

Only what comes after that point is written, and it is written as text. So the path that is led to
has the start that both share, and after it the names of the path as they are shown. It is the path
itself exactly if those names are text.

## Main results

* `walk_eq` — the walk from one absolute path to another.
* `LeadsTo.unique` — a written path leads to one place.
* `leadsTo_relativeTo` — where a path written from a base leads.
* `leadsTo_relativeTo_iff` — when it leads back.
* `LeadsTo.joinRoot` — an entry below a written path leads below it.
* `relativeTo_congr` — only the components of the base matter.
-/

namespace CrateGraph

/-- Where a component leads from a place that is given by its components. Nothing is above
the root. -/
def Component.follow (place : List Component) : Component → List Component
  | .root => [.root]
  | .here => place
  | .up => if place = [.root] then place else place.dropLast
  | .name bytes => place ++ [.name bytes]

namespace Path

/-- Whether a text, read as a relative path, leads from a base to a place. -/
def LeadsTo (base : Path) (written : String) (place : List Component) : Prop :=
  (ofText written).isAbsolute = false ∧
    (ofText written).components.foldl Component.follow base.components = place

/-- An absolute path without steps up. -/
structure Plain (p : Path) : Prop where
  absolute : p.isAbsolute = true
  noUp : .up ∉ p.components

/-- The start that a path shares with a base, and the rest of the path. -/
structure Parts (path base : Path) (shared rest : List Component) : Prop where
  whole : path.components = shared ++ rest
  start : shared <+: base.components
  longest : ∀ start, start <+: path.components → start <+: base.components → start <+: shared

/-- Whether the names that a path has after a start that it shares with a base are text. -/
def TextFrom (path base : Path) : Prop :=
  ∃ shared rest, path.components = shared ++ rest ∧ shared <+: base.components ∧
    ∀ c ∈ rest, c.IsText

variable {path base base' : Path} {place shared rest : List Component}

/-! ## Text -/

/-- All the names of a path that is a text are text. -/
theorem isText_of_mem_components (t : String) : ∀ c ∈ (ofText t).components, c.IsText := by
  have hread : ∀ l : List Bytes, (∀ s ∈ l, ∃ u, s = Text.toBytes u) →
      ∀ c ∈ l.filterMap component?, c.IsText := by
    intro l hl c hc
    obtain ⟨s, hs, hcomponent⟩ := List.mem_filterMap.1 hc
    obtain ⟨u, rfl⟩ := hl s hs
    have hshown := component?_shown hcomponent
    rw [Text.shown_toBytes, hcomponent] at hshown
    exact (Option.some.inj hshown).symm
  have htext : ∀ s ∈ (ofText t).segments, ∃ u, s = Text.toBytes u := by
    intro s hs
    rw [segments_ofText] at hs
    obtain ⟨cs, -, rfl⟩ := List.mem_map.1 hs
    exact ⟨_, rfl⟩
  obtain ⟨first, rest, hsegments⟩ := exists_segments_eq_cons (ofText t)
  rw [hsegments] at htext
  have htail := hread rest fun s hs => htext s (List.mem_cons_of_mem first hs)
  intro c hc
  simp only [components, hsegments] at hc
  split at hc
  · rcases List.mem_cons.1 hc with rfl | hc
    · rfl
    · exact htail c hc
  · split at hc
    · rcases List.mem_cons.1 hc with rfl | hc
      · rfl
      · exact htail c hc
    · exact hread (first :: rest) htext c hc

/-- A path that is a text is text from the start. -/
theorem textFrom_of_components (h : ∀ c ∈ path.components, c.IsText) (base : Path) :
    path.TextFrom base :=
  ⟨[], path.components, rfl, List.nil_prefix, h⟩

/-- It is enough that the rest is text after the longest start that is shared. -/
theorem Parts.textFrom_iff (h : Parts path base shared rest) :
    path.TextFrom base ↔ ∀ c ∈ rest, c.IsText := by
  constructor
  · rintro ⟨start, rest', hwhole, hstart, htext⟩ c hc
    obtain ⟨more, rfl⟩ := h.longest start (hwhole ▸ List.prefix_append start rest') hstart
    have hrest : rest' = more ++ rest := by
      have hboth := hwhole.symm.trans h.whole
      rw [List.append_assoc] at hboth
      exact List.append_cancel_left hboth
    exact htext c (hrest ▸ List.mem_append_right more hc)
  · intro htext
    exact ⟨shared, rest, h.whole, h.start, htext⟩

/-! ## Following -/

/-- Names lead down. -/
theorem foldl_follow_names {l : List Component} (h : ∀ c ∈ l, ∃ s, c = .name s)
    (place : List Component) : l.foldl Component.follow place = place ++ l := by
  induction l generalizing place with
  | nil => simp
  | cons c l ih =>
      obtain ⟨s, rfl⟩ := h c List.mem_cons_self
      rw [List.foldl_cons, ih (fun d hd => h d (List.mem_cons_of_mem _ hd)), Component.follow,
        List.append_assoc, List.singleton_append]

/-- As many steps up as there are components below a place lead back to it. -/
theorem foldl_follow_ups (hplace : place ≠ []) (below : List Component) :
    (below.map fun _ => Component.up).foldl Component.follow (place ++ below) = place := by
  induction below using List.reverseRecOn with
  | nil => simp
  | append_singleton below c ih =>
      have hups : (below ++ [c]).map (fun _ => Component.up) =
          .up :: below.map fun _ => Component.up := by
        simp [List.map_const', ← List.replicate_succ', List.replicate_succ]
      have hroot : place ++ (below ++ [c]) ≠ [.root] := by
        intro he
        have hlen := congrArg List.length he
        have hpos := List.length_pos_of_ne_nil hplace
        simp at hlen
        omega
      have hstep : Component.follow (place ++ (below ++ [c])) .up = place ++ below := by
        rw [Component.follow, if_neg hroot, ← List.append_assoc, List.dropLast_concat]
      rw [hups, List.foldl_cons, hstep, ih]

theorem LeadsTo.unique {written : String} {place' : List Component}
    (h : LeadsTo base written place) (h' : LeadsTo base written place') : place = place' :=
  h.2.symm.trans h'.2

/-- A `.` leads to the base. -/
theorem leadsTo_here (base : Path) : LeadsTo base "." base.components :=
  ⟨by decide, by
    have hread : (ofText ".").components = [.here] := by decide
    rw [hread]
    rfl⟩

/-! ## Walks -/

/-- A path without steps up is the root followed by names. -/
theorem Plain.exists_names (h : path.Plain) :
    ∃ l, path.components = .root :: l ∧ ∀ c ∈ l, c.Inner ∧ ∃ s, c = .name s := by
  refine ⟨path.components.tail, components_eq_root_cons h.absolute, fun c hc => ?_⟩
  have hinner := inner_of_mem_tail_components h.absolute hc
  refine ⟨hinner, (eq_up_or_name_of_inner hinner).resolve_left ?_⟩
  rintro rfl
  exact h.noUp (List.mem_of_mem_tail hc)

theorem walk_from_nil (bs : List Component) :
    walk true [] bs = some (bs.map fun _ => .up) := by
  induction bs with
  | nil => rfl
  | cons b bs ih => simp [walk, ih]

/-- The walk goes up to where the two lists part ways, and then down. -/
theorem walk_eq {bs : List Component} (h : ∀ b ∈ bs, ∃ s, b = .name s)
    (as : List Component) : ∃ common as' bs', as = common ++ as' ∧ bs = common ++ bs' ∧
      (∀ start, start <+: as → start <+: bs → start <+: common) ∧
      walk false as bs = some ((bs'.map fun _ => .up) ++ as') := by
  induction bs generalizing as with
  | nil =>
      have hlongest : ∀ start, start <+: as → start <+: [] → start <+: [] := fun _ _ h => h
      cases as with
      | nil => exact ⟨[], [], [], rfl, rfl, hlongest, rfl⟩
      | cons a as => exact ⟨[], a :: as, [], rfl, rfl, hlongest, rfl⟩
  | cons b bs ih =>
      obtain ⟨s, hb⟩ := h b List.mem_cons_self
      cases as with
      | nil => exact ⟨[], [], b :: bs, rfl, rfl, fun _ h _ => h, by simp [walk, walk_from_nil]⟩
      | cons a as =>
          by_cases hab : a = b
          · obtain ⟨common, as', bs', has, hbs, hlongest, hwalk⟩ :=
              ih (fun c hc => h c (List.mem_cons_of_mem b hc)) as
            refine ⟨a :: common, as', bs', by rw [has, List.cons_append], ?_, ?_, ?_⟩
            · rw [hbs, hab, List.cons_append]
            · intro start hstart hstart'
              cases start with
              | nil => exact List.nil_prefix
              | cons c start =>
                  rw [List.cons_prefix_cons] at hstart hstart' ⊢
                  exact ⟨hstart.1, hlongest start hstart.2 hstart'.2⟩
            · simpa [walk, hab] using hwalk
          · have hname : a ≠ .name s := hb ▸ hab
            refine ⟨[], a :: as, b :: bs, rfl, rfl, ?_, by simp [walk, hb, hname]⟩
            intro start hstart hstart'
            cases start with
            | nil => exact List.nil_prefix
            | cons c start =>
                rw [List.cons_prefix_cons] at hstart hstart'
                exact absurd (hstart.1.symm.trans hstart'.1) hab

/-- From one path without steps up to another there is a walk of inner components. As it is shown,
it leads to where the two part ways, and then down the rest of the path as that is shown. -/
theorem exists_walkFrom? (hpath : path.Plain) (hbase : base.Plain) :
    ∃ shared rest cs, Parts path base shared rest ∧ walkFrom? path base = some cs ∧
      (∀ c ∈ cs, c.Inner) ∧ (cs.map Component.shown).foldl Component.follow base.components =
        shared ++ rest.map Component.shown := by
  obtain ⟨as, has, hasnames⟩ := hpath.exists_names
  obtain ⟨bs, hbs, hbsnames⟩ := hbase.exists_names
  obtain ⟨common, as', bs', hcommon, hcommon', hlongest, hwalk⟩ :=
    walk_eq (fun b hb => (hbsnames b hb).2) as
  have hdown : ∀ c ∈ as', c ∈ as := fun c hc => hcommon ▸ List.mem_append_right common hc
  have hplace : base.components = (.root :: common) ++ bs' := by
    rw [hbs, hcommon', List.cons_append]
  refine ⟨.root :: common, as', (bs'.map fun _ => .up) ++ as', ⟨?_, ?_, ?_⟩, ?_, ?_, ?_⟩
  · rw [has, hcommon, List.cons_append]
  · exact hplace ▸ List.prefix_append (.root :: common) bs'
  · intro start hstart hstart'
    cases start with
    | nil => exact List.nil_prefix
    | cons c start =>
        rw [has, List.cons_prefix_cons] at hstart
        rw [hbs, List.cons_prefix_cons] at hstart'
        exact List.cons_prefix_cons.2 ⟨hstart.1, hlongest start hstart.2 hstart'.2⟩
  · simp [walkFrom?, hpath.absolute, hbase.absolute, has, hbs, walk, hwalk]
  · intro c hc
    rcases List.mem_append.1 hc with hc | hc
    · obtain ⟨_, -, rfl⟩ := List.mem_map.1 hc
      exact inner_up
    · exact (hasnames c (hdown c hc)).1
  · have hups : (bs'.map fun _ => Component.up).map Component.shown =
        bs'.map fun _ => .up := by
      rw [List.map_map]
      rfl
    have hnames : ∀ c ∈ as'.map Component.shown, ∃ s, c = .name s := by
      intro c hc
      obtain ⟨d, hd, rfl⟩ := List.mem_map.1 hc
      obtain ⟨s, rfl⟩ := (hasnames d (hdown d hd)).2
      exact ⟨_, rfl⟩
    rw [List.map_append, hups, List.foldl_append, hplace, foldl_follow_ups (by simp),
      foldl_follow_names hnames]

/-! ## Written paths -/

/-- A path written from a base leads to the start that both share and down the rest of the path as
it is shown, if neither holds a step up. -/
theorem leadsTo_relativeTo (hpath : path.Plain) (hbase : base.Plain) :
    ∃ shared rest, Parts path base shared rest ∧
      LeadsTo base (relativeTo path base) (shared ++ rest.map Component.shown) := by
  obtain ⟨shared, rest, cs, hparts, hwalk, hinner, hfollow⟩ := exists_walkFrom? hpath hbase
  refine ⟨shared, rest, hparts, ?_⟩
  unfold relativeTo
  simp only [hwalk, Option.getD_some]
  by_cases hcs : cs = []
  · subst hcs
    rw [if_pos (by rfl), ← hfollow]
    exact leadsTo_here base
  · obtain ⟨hread, habs⟩ := components_slashed hcs hinner
    have hempty : slashed cs ≠ "" := by
      intro he
      rw [he] at hread
      exact hcs (List.map_eq_nil_iff.1 (hread.symm.trans (by decide)))
    rw [if_neg hempty]
    exact ⟨habs, by rw [hread, hfollow]⟩

/-- It leads back exactly if what is written of it is text. -/
theorem leadsTo_relativeTo_iff (hpath : path.Plain) (hbase : base.Plain) :
    LeadsTo base (relativeTo path base) path.components ↔ path.TextFrom base := by
  obtain ⟨shared, rest, hparts, hleads⟩ := leadsTo_relativeTo hpath hbase
  rw [hparts.textFrom_iff, hparts.whole]
  constructor
  · intro h
    have hrest : rest = rest.map Component.shown := List.append_cancel_left (h.unique hleads)
    exact List.map_inj_left.1 (hrest.symm.trans (List.map_id rest).symm)
  · intro htext
    rwa [map_shown_of_isText htext] at hleads

theorem relativeTo_ne_empty (path base : Path) : relativeTo path base ≠ "" := by
  simp only [relativeTo]
  split
  · decide
  · assumption

/-- What is below a root that leads to a place is below that place. -/
theorem LeadsTo.joinRoot {root entry : String} (h : LeadsTo base root place)
    (hempty : root ≠ "") (hslash : '/' ∉ entry.toList)
    (hentry : component? (Text.toBytes entry) = some (.name (Text.toBytes entry))) :
    LeadsTo base (joinRoot root entry) (place ++ [.name (Text.toBytes entry)]) := by
  by_cases hdot : root = "."
  · subst hdot
    have hplace : place = base.components := h.unique (leadsTo_here base)
    have hsegments : (ofText entry).segments = [Text.toBytes entry] :=
      segments_of_slash_not_mem fun hmem => hslash ((Text.mem_toBytes_iff ascii_slash).1 hmem)
    have hidle : isIdle (Text.toBytes entry) = false := isIdle_eq_false_iff.2 ⟨_, hentry⟩
    have hfirst : Text.toBytes entry ≠ [] ∧ Text.toBytes entry ≠ dot := by
      simpa [isIdle] using hidle
    have hread : (ofText entry).components = [.name (Text.toBytes entry)] := by
      rw [components_of_first hsegments hfirst.1 hfirst.2, hsegments]
      simp [hentry]
    have hjoin : Path.joinRoot "." entry = entry := rfl
    rw [hjoin, hplace]
    exact ⟨isAbsolute_eq_false hsegments hfirst.1, by rw [hread]; rfl⟩
  · obtain ⟨hread, habs⟩ := components_joinRoot hempty hdot hslash hentry
    refine ⟨habs.trans h.1, ?_⟩
    rw [hread, List.foldl_append, h.2]
    rfl

/-- Only the components of the base matter. -/
theorem relativeTo_congr (h : base.Same base') (path : Path) :
    relativeTo path base = relativeTo path base' := by
  have hcomponents : base.components = base'.components := h
  have hwalk : walkFrom? path base = walkFrom? path base' := by
    rw [walkFrom?, walkFrom?, h.isAbsolute_eq, hcomponents]
  simp only [relativeTo, hwalk]

end Path

end CrateGraph
