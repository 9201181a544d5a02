import CrateGraph.Proofs.Path.Relative

/-!
# Paths that cannot be reached from a base

From an absolute base there is a walk to an absolute path, unless the base goes on with a `..`
where the two part ways: what is below that is not known from its text. From a relative base
there is none at all. A path without a walk is written as it is, so the text is absolute again
and has the components of the path, as they are shown.

There is one exception. The root directory has no name, so nothing is written for it, and
nothing is also what is written where path and base are the same directory. The root seen from a
relative base is therefore called `.`, as if it were that base.

## Main results

* `walkFrom?_eq_none_iff` — where the walk to a path is blocked.
* `spells_slashed` — an absolute path below the root is written as itself.
* `relativeTo_eq_here_iff` — the absolute paths that are written as `.`.
* `reported_relativeTo` — what is written for an absolute path, from any base.
* `not_spells_relativeTo_root` — the root is not written as itself.
-/

namespace CrateGraph.Path

/-- Whether the walk from a base to a path is blocked: where the two part ways, the base goes on
with a `..` and the path goes on with something else. -/
def Blocked (path base : Path) : Prop :=
  ∃ common a as bs, path.components = common ++ a :: as ∧
    base.components = common ++ .up :: bs ∧ a ≠ .up

/-- Whether an absolute path has no relative form, seen from a base. -/
def Unreachable (path base : Path) : Prop := base.isAbsolute = false ∨ Blocked path base

/-- Whether a text is an absolute path with given components. -/
def Spells (written : String) (cs : List Component) : Prop :=
  (ofText written).isAbsolute = true ∧ (ofText written).components = cs

/-- What is written for an absolute path that is seen from a base. -/
structure Reported (path base : Path) (written : String) : Prop where
  itself : Unreachable path base → path.components ≠ [.root] → (∀ c ∈ path.components, c.IsText) →
    Spells written path.components
  /-- A path that is no text is written with its names as they are shown. -/
  shown : Unreachable path base → path.components ≠ [.root] →
    Spells written (path.components.map Component.shown)
  /-- The exception. -/
  root : Unreachable path base → path.components = [.root] → written = "."
  relative : ¬Unreachable path base → (ofText written).isAbsolute = false
  here : written = "." ↔
    base.isAbsolute = true ∧ path.Same base ∨ base.isAbsolute = false ∧ path.components = [.root]

variable {path base : Path} {as bs cs : List Component}

/-! ## Walks -/

/-- A walk consists of steps up and of components of the path. -/
theorem mem_of_walk {parted : Bool} (h : walk parted as bs = some cs) :
    ∀ c ∈ cs, c = .up ∨ c ∈ as := by
  induction bs generalizing parted as cs with
  | nil =>
      cases as with
      | nil => cases h; simp
      | cons a as => cases h; exact fun c hc => .inr hc
  | cons b bs ih =>
      cases as with
      | nil =>
          rw [walk, walk_from_nil] at h
          cases h
          simp
      | cons a as =>
          unfold walk at h
          split at h
          · intro c hc
            exact (ih h c hc).imp_right (List.mem_cons_of_mem a)
          · split at h
            · obtain ⟨ds, hds, rfl⟩ := Option.map_eq_some_iff.1 h
              intro c hc
              rcases List.mem_cons.1 hc with rfl | hc
              · exact .inr List.mem_cons_self
              · exact (ih hds c hc).imp_right (List.mem_cons_of_mem a)
            · split at h
              · cases h
              · cases h
                simp only [List.cons_append, List.mem_cons, List.mem_append, List.mem_map]
                rintro c (rfl | ⟨-, -, rfl⟩ | hc)
                · exact .inl rfl
                · exact .inl rfl
                · exact .inr hc

/-- The walk ends without a result where the base alone steps up. -/
theorem walk_eq_none_iff (h : .here ∉ bs) (as : List Component) :
    walk false as bs = none ↔
      ∃ common a as' bs', as = common ++ a :: as' ∧ bs = common ++ .up :: bs' ∧ a ≠ .up := by
  induction bs generalizing as with
  | nil => cases as <;> simp [walk]
  | cons b bs ih =>
      have hb : .here ≠ b := List.ne_of_not_mem_cons h
      have hbs : .here ∉ bs := List.not_mem_of_not_mem_cons h
      cases as with
      | nil => simp [walk, walk_from_nil]
      | cons a as =>
          by_cases hab : a = b
          · have hwalk : walk false (a :: as) (b :: bs) = walk false as bs := by simp [walk, hab]
            rw [hwalk, ih hbs as]
            constructor
            · rintro ⟨common, c, as', bs', rfl, rfl, hc⟩
              exact ⟨a :: common, c, as', bs', rfl, by rw [hab, List.cons_append], hc⟩
            · rintro ⟨common, c, as', bs', has, hbs', hc⟩
              cases common with
              | nil =>
                  obtain ⟨rfl, rfl⟩ := List.cons.inj has
                  exact absurd (hab.trans (List.cons.inj hbs').1) hc
              | cons d common =>
                  exact ⟨common, c, as', bs', (List.cons.inj has).2, (List.cons.inj hbs').2, hc⟩
          · have hwalk : walk false (a :: as) (b :: bs) = none ↔ b = .up := by
              simp [walk, hab, Ne.symm hb]
            rw [hwalk]
            constructor
            · rintro rfl
              exact ⟨[], a, as, bs, rfl, rfl, hab⟩
            · rintro ⟨common, c, as', bs', has, hbs', -⟩
              cases common with
              | nil => exact (List.cons.inj hbs').1
              | cons d common =>
                  exact absurd ((List.cons.inj has).1.trans (List.cons.inj hbs').1.symm) hab

/-- The walk is empty only from a place to itself. -/
theorem walk_eq_nil_iff (h : .here ∉ bs) (as : List Component) :
    walk false as bs = some [] ↔ as = bs := by
  induction bs generalizing as with
  | nil => cases as <;> simp [walk]
  | cons b bs ih =>
      have hb : .here ≠ b := List.ne_of_not_mem_cons h
      have hbs : .here ∉ bs := List.not_mem_of_not_mem_cons h
      cases as with
      | nil => simp [walk, walk_from_nil]
      | cons a as =>
          by_cases hab : a = b
          · simp [walk, hab, ih hbs as]
          · simp [walk, hab, Ne.symm hb]

/-! ## Absolute paths -/

/-- Nowhere in an absolute path is there a `.`. -/
theorem here_not_mem_components (h : path.isAbsolute = true) : .here ∉ path.components := by
  rw [components_eq_root_cons h, List.mem_cons]
  rintro (hroot | htail)
  · cases hroot
  · rcases eq_up_or_name_of_inner (inner_of_mem_tail_components h htail) with he | ⟨s, he⟩ <;>
      cases he

theorem walkFrom?_of_isAbsolute (hpath : path.isAbsolute = true)
    (hbase : base.isAbsolute = true) :
    walkFrom? path base = walk false path.components base.components := by
  simp [walkFrom?, hpath, hbase]

theorem walkFrom?_of_relative (hpath : path.isAbsolute = true)
    (hbase : base.isAbsolute = false) : walkFrom? path base = some path.components := by
  simp [walkFrom?, hpath, hbase]

/-- From an absolute base to an absolute path there is no walk only if it is blocked. -/
theorem walkFrom?_eq_none_iff (hpath : path.isAbsolute = true)
    (hbase : base.isAbsolute = true) : walkFrom? path base = none ↔ Blocked path base := by
  rw [walkFrom?_of_isAbsolute hpath hbase,
    walk_eq_none_iff (here_not_mem_components hbase) path.components]
  rfl

/-- Nothing blocks the walk to the root. -/
theorem components_ne_root_of_blocked (hbase : base.isAbsolute = true)
    (h : Blocked path base) : path.components ≠ [.root] := by
  obtain ⟨common, a, as, bs, hpath, hup, -⟩ := h
  intro hroot
  have hcommon : common = [] := by
    rw [hroot] at hpath
    have hlength := congrArg List.length hpath
    simp only [List.length_append, List.length_cons, List.length_nil] at hlength
    exact List.eq_nil_of_length_eq_zero (by omega)
  rw [hcommon, List.nil_append, components_of_isAbsolute hbase] at hup
  cases (List.cons.inj hup).1

/-- A walk between absolute paths consists of inner components. -/
theorem inner_of_mem_walkFrom? (hpath : path.isAbsolute = true)
    (hbase : base.isAbsolute = true) (h : walkFrom? path base = some cs) :
    ∀ c ∈ cs, c.Inner := by
  rw [walkFrom?_of_isAbsolute hpath hbase, components_eq_root_cons hpath,
    components_eq_root_cons hbase] at h
  -- both lists start at the root, so the walk is one between what comes after it
  simp only [walk, Bool.not_false, Bool.true_and, decide_true, if_true] at h
  intro c hc
  rcases mem_of_walk h c hc with rfl | hmem
  · exact inner_up
  · exact inner_of_mem_tail_components hpath hmem

/-! ## What is written -/

/-- A written walk is neither nothing nor a `.`. -/
theorem slashed_ne (hne : cs ≠ []) (h : ∀ c ∈ cs, c.Inner) :
    slashed cs ≠ "" ∧ slashed cs ≠ "." := by
  obtain ⟨hread, -⟩ := components_slashed hne h
  constructor
  · intro hempty
    rw [hempty] at hread
    exact hne (List.map_eq_nil_iff.1 (hread.symm.trans (by decide)))
  · intro hdot
    have hhere : cs.map Component.shown = [.here] := by
      rw [hdot] at hread
      exact hread.symm.trans (by decide)
    have hinner := inner_of_mem_map_shown h .here (by simp [hhere])
    rcases eq_up_or_name_of_inner hinner with he | ⟨s, he⟩ <;> cases he

/-- Inner components below the root are written below the root, as they are shown. -/
theorem spells_slashed (hne : cs ≠ []) (h : ∀ c ∈ cs, c.Inner) :
    Spells (slashed (.root :: cs)) (.root :: cs.map Component.shown) := by
  have hinner := inner_of_mem_map_shown h
  have hread := filterMap_component?_filterMap_bytes? hinner
  have hbytes : (cs.map Component.shown).filterMap Component.bytes? ≠ [] := by
    intro hnil
    rw [hnil, List.filterMap_nil] at hread
    exact hne (List.map_eq_nil_iff.1 hread.symm)
  have hslash : ∀ s ∈ (cs.map Component.shown).filterMap Component.bytes?, slash ∉ s := fun s hs =>
    (isIdle_of_mem_filterMap (fun c hc => .inr (hinner c hc)) s hs).2
  obtain ⟨habs, hbelow⟩ := components_below_root hbytes hslash
  have htext : ofText (slashed (.root :: cs)) =
      ofSegments ([] :: (cs.map Component.shown).filterMap Component.bytes?) :=
    ofText_slashed (.root :: cs)
  rw [Spells, htext]
  exact ⟨habs, by rw [hbelow, hread]⟩

/-- An absolute path below the root is written as itself, as it is shown. -/
theorem spells_components (hpath : path.isAbsolute = true) (hroot : path.components ≠ [.root]) :
    Spells (slashed path.components) (path.components.map Component.shown) := by
  have hcomponents : path.components = .root :: path.components.tail :=
    components_eq_root_cons hpath
  have hinner : ∀ c ∈ path.components.tail, c.Inner := fun c hc =>
    inner_of_mem_tail_components hpath hc
  have hne : path.components.tail ≠ [] := fun hnil => hroot (hnil ▸ hcomponents)
  rw [hcomponents, List.map_cons]
  exact spells_slashed hne hinner

theorem relativeTo_of_slashed_ne {written : List Component}
    (hwalk : (walkFrom? path base).getD path.components = written)
    (hne : slashed written ≠ "") : relativeTo path base = slashed written := by
  simp only [relativeTo, hwalk, if_neg hne]

theorem ne_empty_of_spells {written : String} (h : Spells written cs) :
    written ≠ "" ∧ written ≠ "." := by
  constructor <;> rintro rfl <;> exact absurd h.1 (by decide)

/-- A path without a relative form, other than the root, is written as itself. -/
theorem spells_relativeTo (hpath : path.isAbsolute = true) (hroot : path.components ≠ [.root])
    (h : Unreachable path base) :
    Spells (relativeTo path base) (path.components.map Component.shown) := by
  have hspells := spells_components hpath hroot
  have hwalk : (walkFrom? path base).getD path.components = path.components := by
    cases hbase : base.isAbsolute with
    | false => rw [walkFrom?_of_relative hpath hbase, Option.getD_some]
    | true =>
        have hblocked : Blocked path base := h.resolve_left (by simp [hbase])
        rw [(walkFrom?_eq_none_iff hpath hbase).2 hblocked, Option.getD_none]
  rwa [relativeTo_of_slashed_ne hwalk (ne_empty_of_spells hspells).1]

/-- The root is written as `.` from every relative base. -/
theorem relativeTo_root (hpath : path.isAbsolute = true) (hroot : path.components = [.root])
    (hbase : base.isAbsolute = false) : relativeTo path base = "." := by
  simp only [relativeTo, walkFrom?_of_relative hpath hbase, Option.getD_some, hroot]
  rfl

/-- A path with a relative form is written in that form, which is `.` for the base alone. -/
theorem relativeTo_of_reachable (hpath : path.isAbsolute = true)
    (hbase : base.isAbsolute = true) (h : ¬Blocked path base) :
    (ofText (relativeTo path base)).isAbsolute = false ∧
      (relativeTo path base = "." ↔ path.Same base) := by
  obtain ⟨cs, hwalk⟩ := Option.ne_none_iff_exists'.1 fun hnone =>
    h ((walkFrom?_eq_none_iff hpath hbase).1 hnone)
  have hgetD : (walkFrom? path base).getD path.components = cs := by rw [hwalk, Option.getD_some]
  have hsame : cs = [] ↔ path.Same base := by
    rw [Same, ← walk_eq_nil_iff (here_not_mem_components hbase) path.components,
      ← walkFrom?_of_isAbsolute hpath hbase, hwalk, Option.some_inj]
  by_cases hcs : cs = []
  · have hhere : relativeTo path base = "." := by
      simp only [relativeTo, hgetD, hcs]
      rfl
    rw [hhere]
    exact ⟨by decide, fun _ => hsame.1 hcs, fun _ => rfl⟩
  · have hinner := inner_of_mem_walkFrom? hpath hbase hwalk
    obtain ⟨hempty, hdot⟩ := slashed_ne hcs hinner
    rw [relativeTo_of_slashed_ne hgetD hempty]
    exact ⟨(components_slashed hcs hinner).2, fun he => absurd he hdot,
      fun he => absurd (hsame.2 he) hcs⟩

/-- The absolute paths that are written as `.`: the base itself, and the root if the base is
relative. -/
theorem relativeTo_eq_here_iff (hpath : path.isAbsolute = true) :
    relativeTo path base = "." ↔ base.isAbsolute = true ∧ path.Same base ∨
      base.isAbsolute = false ∧ path.components = [.root] := by
  cases hbase : base.isAbsolute with
  | false =>
      by_cases hroot : path.components = [.root]
      · simp [relativeTo_root hpath hroot hbase, hroot]
      · have hspells := spells_relativeTo hpath hroot (.inl hbase)
        simp [hroot, (ne_empty_of_spells hspells).2]
  | true =>
      by_cases hblocked : Blocked path base
      · have hroot := components_ne_root_of_blocked hbase hblocked
        have hspells := spells_relativeTo hpath hroot (.inr hblocked)
        have hdiffer : ¬path.Same base := by
          obtain ⟨common, a, as, bs, has, hbs, ha⟩ := hblocked
          intro hsame
          rw [Same, has, hbs] at hsame
          exact ha (List.cons.inj (List.append_cancel_left hsame)).1
        simp [(ne_empty_of_spells hspells).2, hdiffer]
      · simp [(relativeTo_of_reachable hpath hbase hblocked).2]

/-- What is written for an absolute path, from any base. -/
theorem reported_relativeTo (path base : Path) (hpath : path.isAbsolute = true) :
    Reported path base (relativeTo path base) where
  itself h hroot htext := by
    have hspells := spells_relativeTo hpath hroot h
    rwa [map_shown_of_isText htext] at hspells
  shown h hroot := spells_relativeTo hpath hroot h
  root h hroot := by
    cases hbase : base.isAbsolute with
    | false => exact relativeTo_root hpath hroot hbase
    | true =>
        have hblocked : Blocked path base := h.resolve_left (by simp [hbase])
        exact absurd hroot (components_ne_root_of_blocked hbase hblocked)
  relative h := by
    obtain ⟨hbase, hblocked⟩ := not_or.1 h
    exact (relativeTo_of_reachable hpath (Bool.not_eq_false _ ▸ hbase) hblocked).1
  here := relativeTo_eq_here_iff hpath

/-- Seen from the workspace `/../ws`, whose text does not tell where it is, a package elsewhere is
written as itself. -/
theorem reported_relativeTo_vendored :
    (ofText "/vendor/./shim/").isAbsolute = true ∧
      Reported (ofText "/vendor/./shim/") (ofText "/../ws")
        (relativeTo (ofText "/vendor/./shim/") (ofText "/../ws")) ∧
      Unreachable (ofText "/vendor/./shim/") (ofText "/../ws") ∧
      relativeTo (ofText "/vendor/./shim/") (ofText "/../ws") = "/vendor/shim" :=
  ⟨by decide, reported_relativeTo (ofText "/vendor/./shim/") (ofText "/../ws") (by decide),
    .inr ⟨[.root], .name (Text.toBytes "vendor"), [.name (Text.toBytes "shim")],
      [.name (Text.toBytes "ws")], by decide, by decide, by decide⟩,
    by decide⟩

/-- The root has no form relative to a relative base, and is not written as itself either. It is
written as `.`, although it is not the base. -/
theorem not_spells_relativeTo_root :
    (ofText "/").isAbsolute = true ∧ (ofText "ws").isAbsolute = false ∧
      Unreachable (ofText "/") (ofText "ws") ∧
      ¬Spells (relativeTo (ofText "/") (ofText "ws")) (ofText "/").components ∧
      relativeTo (ofText "/") (ofText "ws") = "." ∧ ¬(ofText "/").Same (ofText "ws") :=
  ⟨by decide, by decide, .inl (by decide), fun h => absurd h.1 (by decide), by decide, by decide⟩

end CrateGraph.Path
