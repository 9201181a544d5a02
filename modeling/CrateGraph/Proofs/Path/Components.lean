import CrateGraph.Path.Relative
import CrateGraph.Proofs.Text.Pieces
import CrateGraph.Proofs.Text.Shown

/-!
# The components of written paths

A path is read by cutting it into segments and written by joining segments. This module
says what reading gives for the paths that the library writes: for a list of components
with slashes between them, for an entry below a directory, and for the parent of a path.

What is written with slashes is text, and a name that is no text is written as it is shown. Such a
name is read back as it was written. It is never taken for anything but a name, since what is shown
as a `.`, a `..` or a slash is one.

A component is *inner* if it can stand anywhere in a path: a name, or a step up.

## Main results

* `isText_name_iff` — a name is written as it is exactly if it is text.
* `components_of_isAbsolute`, `inner_of_mem_tail_components` — the shape of what is read.
* `components_slashed` — what is written with slashes is read back as it is shown.
* `components_joinRoot` — an entry below a directory is one more step.
* `components_parent?` — the parent is one step less.
-/

namespace CrateGraph

namespace Component

/-- A component that a segment stands for wherever it is in a path. -/
def Inner (c : Component) : Prop :=
  ∃ s : Bytes, Path.slash ∉ s ∧ Path.component? s = some c

/-- The component that is read where this one was written as text. -/
def shown : Component → Component
  | .name bytes => .name (Text.toBytes (Text.shown bytes))
  | c => c

/-- Whether a component is written as it is: its name is text, if it has one. -/
def IsText (c : Component) : Prop := c.shown = c

instance : DecidablePred IsText := fun c => inferInstanceAs (Decidable (c.shown = c))

theorem isText_name_iff {bytes : Bytes} : (name bytes).IsText ↔ ∃ s, bytes = Text.toBytes s := by
  constructor
  · intro h
    exact ⟨Text.shown bytes, (Component.name.inj h).symm⟩
  · rintro ⟨s, rfl⟩
    rw [IsText, shown, Text.shown_toBytes]

/-- The segment that a component is, if it is one. -/
def bytes? : Component → Option Bytes
  | .root => some []
  | .here => none
  | .up => some Path.dots
  | .name bytes => some bytes

/-- What is written for a component is the segment of what is shown. -/
theorem bytes?_shown (c : Component) :
    c.shown.bytes? = (Path.segment? c).map Text.toBytes := by
  cases c with
  | up => decide
  | _ => rfl

end Component

namespace Path

variable {p q : Path} {s : Bytes} {c : Component} {cs : List Component}

/-! ## Segments -/

theorem ofText_inj {s t : String} : ofText s = ofText t ↔ s = t := by
  rw [ofText, ofText, mk.injEq, Text.toBytes_inj]

theorem ascii_slash : '/'.toNat < 0x80 := by decide

theorem exists_segments_eq_cons (p : Path) : ∃ first rest, p.segments = first :: rest :=
  Text.exists_splitOn_eq_cons slash p.bytes

theorem slash_not_mem_of_mem_segments (h : s ∈ p.segments) : slash ∉ s :=
  Text.not_mem_of_mem_splitOn h

/-- A slash in a path divides its segments. -/
theorem segments_append (a b : Bytes) :
    segments ⟨a ++ slash :: b⟩ = segments ⟨a⟩ ++ segments ⟨b⟩ :=
  List.splitOn_append_cons_self a b

/-- Segments with a slash between each two are the segments of the result. -/
theorem segments_ofSegments {l : List Bytes} (hne : l ≠ []) (h : ∀ s ∈ l, slash ∉ s) :
    (ofSegments l).segments = l :=
  List.splitOn_intercalate slash h hne

theorem ofSegments_segments (p : Path) : ofSegments p.segments = p := by
  rw [ofSegments, segments, List.intercalate_splitOn]

theorem segments_of_slash_not_mem (h : slash ∉ s) : segments ⟨s⟩ = [s] :=
  List.splitOn_eq_singleton h

/-- The segments of a text are those of its bytes. -/
theorem segments_ofText (t : String) : (ofText t).segments =
    (t.toList.splitOn '/').map fun cs => Text.toBytes (String.ofList cs) :=
  Text.splitOn_toBytes ascii_slash t

/-- A path is absolute exactly if nothing stands before its first slash. -/
theorem isAbsolute_iff_segments :
    p.isAbsolute = true ↔ ∃ rest, rest ≠ [] ∧ p.segments = [] :: rest := by
  rcases p with ⟨bytes⟩
  unfold isAbsolute segments
  cases bytes with
  | nil => simp [List.splitOn_nil]
  | cons b bytes =>
      obtain ⟨first, rest, hsegments⟩ := Text.exists_splitOn_eq_cons slash bytes
      by_cases hb : b = slash
      · subst hb
        simp [Text.splitOn_cons_self, hsegments]
      · simp [Text.splitOn_cons_of_ne hb hsegments, hb]

theorem isAbsolute_eq_false {first : Bytes} {rest : List Bytes}
    (h : p.segments = first :: rest) (hfirst : first ≠ []) : p.isAbsolute = false := by
  rw [Bool.eq_false_iff]
  intro habs
  obtain ⟨_, -, hsegments⟩ := isAbsolute_iff_segments.1 habs
  rw [h] at hsegments
  exact hfirst (List.cons.inj hsegments).1

/-! ## Components and segments -/

theorem component?_eq_none_iff : component? s = none ↔ isIdle s = true := by
  unfold component?
  split
  · simp_all
  · split <;> simp_all

theorem isIdle_eq_false_iff : isIdle s = false ↔ ∃ c, component? s = some c := by
  rw [← Option.isSome_iff_exists, Option.isSome_iff_ne_none, Ne, component?_eq_none_iff,
    Bool.not_eq_true]

/-- A component is the segment that it was read from. -/
theorem bytes?_of_component? (h : component? s = some c) : c.bytes? = some s := by
  unfold component? at h
  split at h
  · cases h
  · split at h
    · rename_i hup
      cases h
      rw [hup, Component.bytes?]
    · cases h
      rfl

theorem eq_up_or_name_of_inner (h : c.Inner) : c = .up ∨ ∃ s, c = .name s := by
  obtain ⟨s, -, hs⟩ := h
  unfold component? at hs
  split at hs
  · cases hs
  · split at hs
    · exact .inl (Option.some.inj hs).symm
    · exact .inr ⟨s, (Option.some.inj hs).symm⟩

theorem inner_up : Component.up.Inner := ⟨dots, by decide, by decide⟩

theorem inner_of_mem_filterMap {l : List Bytes} (hl : ∀ s ∈ l, slash ∉ s)
    (h : c ∈ l.filterMap component?) : c.Inner := by
  obtain ⟨s, hs, hc⟩ := List.mem_filterMap.1 h
  exact ⟨s, hl s hs, hc⟩

/-- The segment that an inner component is. -/
theorem exists_bytes_of_inner (h : c.Inner) :
    ∃ s, c.bytes? = some s ∧ component? s = some c ∧ slash ∉ s := by
  obtain ⟨s, hslash, hs⟩ := h
  exact ⟨s, bytes?_of_component? hs, hs, hslash⟩

/-- A component other than the root is a segment that means something, if it is one. -/
theorem isIdle_of_mem_filterMap (h : ∀ c ∈ cs, c = .here ∨ c.Inner) :
    ∀ s ∈ cs.filterMap Component.bytes?, isIdle s = false ∧ slash ∉ s := by
  intro s hs
  obtain ⟨c, hc, hwritten⟩ := List.mem_filterMap.1 hs
  rcases h c hc with rfl | hinner
  · cases hwritten
  · obtain ⟨s', hwritten', hread, hslash⟩ := exists_bytes_of_inner hinner
    obtain rfl : s' = s := Option.some.inj (hwritten'.symm.trans hwritten)
    exact ⟨isIdle_eq_false_iff.2 ⟨c, hread⟩, hslash⟩

theorem filterMap_component?_filterMap_bytes? (h : ∀ c ∈ cs, c.Inner) :
    (cs.filterMap Component.bytes?).filterMap component? = cs := by
  induction cs with
  | nil => rfl
  | cons c cs ih =>
      obtain ⟨s, hwritten, hread, -⟩ := exists_bytes_of_inner (h c List.mem_cons_self)
      have hrest := ih fun d hd => h d (List.mem_cons_of_mem c hd)
      simp [hwritten, hread, hrest]

/-! ## What is shown -/

/-- A slash that is shown is there. -/
theorem slash_not_mem_shown (h : slash ∉ s) : slash ∉ Text.toBytes (Text.shown s) := by
  intro hmem
  have hchar : '/' ∈ (Text.shown s).toList := (Text.mem_toBytes_iff ascii_slash).1 hmem
  rw [Text.shown, String.toList_ofList] at hchar
  exact h (Text.mem_of_mem_shownFrom (by decide) hchar)

/-- What is shown as bytes of ASCII is what it is shown as. -/
theorem eq_of_toBytes_shown_eq {t : Bytes} (ht : ∀ b ∈ t, b < 0x80)
    (h : Text.toBytes (Text.shown s) = t) : s = t := by
  rw [← h, Text.toBytes_shown_eq_self fun b hb => ht b (h ▸ hb)]

/-- A segment is shown as one that is read as its component is shown. -/
theorem component?_shown (h : component? s = some c) :
    component? (Text.toBytes (Text.shown s)) = some c.shown := by
  by_cases hdots : s = dots
  · subst hdots
    have hshown : Text.toBytes (Text.shown dots) = dots := by
      rw [show dots = Text.toBytes ".." from by decide, Text.shown_toBytes]
    rw [hshown, h]
    cases h
    rfl
  · have hidle : isIdle s = false := isIdle_eq_false_iff.2 ⟨c, h⟩
    have hne : s ≠ [] ∧ s ≠ dot := by simpa [isIdle] using hidle
    obtain rfl : c = .name s := by
      simp only [component?, hidle, Bool.false_eq_true, if_false, if_neg hdots] at h
      exact (Option.some.inj h).symm
    have hempty : Text.toBytes (Text.shown s) ≠ [] := fun he =>
      hne.1 (eq_of_toBytes_shown_eq (by simp) he)
    have hdot : Text.toBytes (Text.shown s) ≠ dot := fun he =>
      hne.2 (eq_of_toBytes_shown_eq (by simp [dot]) he)
    have hup : Text.toBytes (Text.shown s) ≠ dots := fun he =>
      hdots (eq_of_toBytes_shown_eq (by simp [dots]) he)
    simp [component?, isIdle, hempty, hdot, hup, Component.shown]

theorem inner_shown (h : c.Inner) : c.shown.Inner := by
  obtain ⟨s, hslash, hs⟩ := h
  exact ⟨_, slash_not_mem_shown hslash, component?_shown hs⟩

theorem inner_of_mem_map_shown (h : ∀ c ∈ cs, c.Inner) : ∀ c ∈ cs.map Component.shown, c.Inner := by
  intro d hd
  obtain ⟨c, hc, rfl⟩ := List.mem_map.1 hd
  exact inner_shown (h c hc)

theorem map_shown_of_isText (h : ∀ c ∈ cs, c.IsText) : cs.map Component.shown = cs := by
  calc cs.map Component.shown = cs.map id := List.map_congr_left h
    _ = cs := List.map_id cs

/-! ## What is read -/

/-- An absolute path is the root followed by inner components. -/
theorem components_of_isAbsolute (h : p.isAbsolute = true) :
    p.components = .root :: p.segments.tail.filterMap component? := by
  obtain ⟨rest, -, hsegments⟩ := isAbsolute_iff_segments.1 h
  simp [components, hsegments, h]

theorem components_eq_root_cons (h : p.isAbsolute = true) :
    p.components = .root :: p.components.tail := by
  rw [components_of_isAbsolute h, List.tail_cons]

theorem inner_of_mem_tail_components (h : p.isAbsolute = true)
    (hc : c ∈ p.components.tail) : c.Inner := by
  rw [components_of_isAbsolute h, List.tail_cons] at hc
  exact inner_of_mem_filterMap
    (fun s hs => slash_not_mem_of_mem_segments (List.mem_of_mem_tail hs)) hc

/-- A path that does not start with a slash or a `.` is read segment by segment. -/
theorem components_of_first {first : Bytes} {rest : List Bytes}
    (h : p.segments = first :: rest) (hempty : first ≠ []) (hdot : first ≠ dot) :
    p.components = p.segments.filterMap component? := by
  have habs := isAbsolute_eq_false h hempty
  simp only [components, h, habs, if_neg hdot]
  rfl

/-- A path is absolute exactly if its first component is the root. -/
theorem isAbsolute_iff_components : p.isAbsolute = true ↔ .root ∈ p.components := by
  constructor
  · intro h
    rw [components_of_isAbsolute h]
    exact List.mem_cons_self
  · intro h
    by_contra habs
    have hread : ∀ l : List Bytes, Component.root ∉ l.filterMap component? := by
      intro l hmem
      obtain ⟨s, -, hs⟩ := List.mem_filterMap.1 hmem
      cases bytes?_of_component? hs
      cases hs
    unfold components at h
    split at h
    · cases h
    · rw [if_neg habs] at h
      split at h
      · rcases List.mem_cons.1 h with h | h
        · cases h
        · exact hread _ h
      · exact hread _ h

/-- Whether a path is absolute can be told from its components. -/
theorem Same.isAbsolute_eq (h : p.Same q) : p.isAbsolute = q.isAbsolute := by
  rw [Bool.eq_iff_iff, isAbsolute_iff_components, isAbsolute_iff_components,
    show p.components = q.components from h]

/-! ## What is written -/

/-- The path whose segments are those of the components. -/
def ofComponents (cs : List Component) : Path := ofSegments (cs.filterMap Component.bytes?)

/-- What is written is the path of what is shown. -/
theorem ofText_slashed (cs : List Component) :
    ofText (slashed cs) = ofComponents (cs.map Component.shown) := by
  have hjoin : Text.toBytes (slashed cs) =
      [slash].intercalate ((cs.filterMap segment?).map Text.toBytes) :=
    Text.toBytes_join ascii_slash _
  rw [ofText, hjoin, ofComponents, ofSegments, List.map_filterMap, List.filterMap_map]
  congr 3
  funext c
  exact (Component.bytes?_shown c).symm

/-- Inner components with a slash between each two are read back. -/
theorem components_ofComponents (hne : cs ≠ []) (h : ∀ c ∈ cs, c.Inner) :
    (ofComponents cs).components = cs ∧ (ofComponents cs).isAbsolute = false := by
  have hslash : ∀ s ∈ cs.filterMap Component.bytes?, slash ∉ s := fun s hs =>
    (isIdle_of_mem_filterMap (fun c hc => .inr (h c hc)) s hs).2
  cases cs with
  | nil => exact absurd rfl hne
  | cons c cs =>
      obtain ⟨s, hwritten, hread, -⟩ := exists_bytes_of_inner (h c List.mem_cons_self)
      have hlist : (c :: cs).filterMap Component.bytes? = s :: cs.filterMap Component.bytes? := by
        simp [hwritten]
      have hsegments : (ofComponents (c :: cs)).segments = s :: cs.filterMap Component.bytes? := by
        rw [ofComponents, segments_ofSegments (by simp [hlist]) hslash, hlist]
      -- The first segment stands for a component, so the path does not start with a slash.
      have hidle : isIdle s = false := isIdle_eq_false_iff.2 ⟨c, hread⟩
      have hfirst : s ≠ [] ∧ s ≠ dot := by simpa [isIdle] using hidle
      refine ⟨?_, isAbsolute_eq_false hsegments hfirst.1⟩
      rw [components_of_first hsegments hfirst.1 hfirst.2, hsegments, ← hlist,
        filterMap_component?_filterMap_bytes? h]

/-- Inner components written with slashes are read back as they are shown. -/
theorem components_slashed (hne : cs ≠ []) (h : ∀ c ∈ cs, c.Inner) :
    (ofText (slashed cs)).components = cs.map Component.shown ∧
      (ofText (slashed cs)).isAbsolute = false := by
  rw [ofText_slashed]
  exact components_ofComponents (by simpa using hne) (inner_of_mem_map_shown h)

/-- An entry below a directory is one step further than the directory. -/
theorem components_joinRoot {root entry : String} (hempty : root ≠ "") (hdot : root ≠ ".")
    (hslash : '/' ∉ entry.toList) (hc : component? (Text.toBytes entry) = some c) :
    (ofText (joinRoot root entry)).components = (ofText root).components ++ [c] ∧
      (ofText (joinRoot root entry)).isAbsolute = (ofText root).isAbsolute := by
  have hjoin : ofText (joinRoot root entry) =
      ⟨Text.toBytes root ++ slash :: Text.toBytes entry⟩ := by
    have hbyte : Text.toBytes "/" = [slash] := by decide
    simp [joinRoot, hempty, hdot, ofText, Text.toBytes_append, hbyte]
  have hentry : slash ∉ Text.toBytes entry := fun hmem =>
    hslash ((Text.mem_toBytes_iff ascii_slash).1 hmem)
  have hsegments : (ofText (joinRoot root entry)).segments =
      (ofText root).segments ++ [Text.toBytes entry] := by
    rw [hjoin, segments_append, segments_of_slash_not_mem hentry]
    rfl
  have habs : (ofText (joinRoot root entry)).isAbsolute = (ofText root).isAbsolute := by
    have hne : Text.toBytes root ≠ [] := fun he =>
      hempty (Text.toBytes_inj.1 (he.trans (by decide)))
    obtain ⟨b, bs, hb⟩ := List.exists_cons_of_ne_nil hne
    rw [hjoin]
    simp [isAbsolute, ofText, hb]
  obtain ⟨first, rest, hroot⟩ := exists_segments_eq_cons (ofText root)
  refine ⟨?_, habs⟩
  unfold components
  rw [hsegments, habs, hroot, List.cons_append]
  simp only [List.filterMap_append, List.filterMap_cons, List.filterMap_nil, hc]
  split
  · rfl
  · split
    · rfl
    · cases component? first <;> rfl

/-! ## The parent -/

/-- Segments that mean nothing can be left out. -/
theorem filterMap_component?_dropWhile (l : List Bytes) :
    (l.dropWhile isIdle).filterMap component? = l.filterMap component? := by
  induction l with
  | nil => rfl
  | cons s l ih =>
      cases hs : isIdle s with
      | true => simp [hs, component?_eq_none_iff.2 hs, ih]
      | false => simp [hs]

/-- The last segment that means anything stands for the last component. -/
theorem filterMap_component?_of_last {rest before : List Bytes} {last : Bytes}
    (h : rest.reverse.dropWhile isIdle = last :: before) :
    ∃ c, rest.filterMap component? =
      (before.dropWhile isIdle).reverse.filterMap component? ++ [c] := by
  have hidle : isIdle last = false := by
    have hhead := List.head_dropWhile_not isIdle (l := rest.reverse) (by simp [h])
    simpa [h] using hhead
  obtain ⟨c, hc⟩ := isIdle_eq_false_iff.1 hidle
  have hreverse : rest.reverse.filterMap component? = c :: before.filterMap component? := by
    rw [← filterMap_component?_dropWhile, h, List.filterMap_cons, hc]
  rw [List.filterMap_reverse, List.reverse_eq_iff, List.reverse_cons] at hreverse
  exact ⟨c, by rw [hreverse, List.filterMap_reverse, filterMap_component?_dropWhile]⟩

/-- Segments below the root are read below the root. -/
theorem components_below_root {l : List Bytes} (hne : l ≠ []) (h : ∀ s ∈ l, slash ∉ s) :
    (ofSegments ([] :: l)).isAbsolute = true ∧
      (ofSegments ([] :: l)).components = .root :: l.filterMap component? := by
  have hread : (ofSegments ([] :: l)).segments = [] :: l :=
    segments_ofSegments (by simp) (by simpa using h)
  have habs : (ofSegments ([] :: l)).isAbsolute = true :=
    isAbsolute_iff_segments.2 ⟨l, hne, hread⟩
  exact ⟨habs, by rw [components_of_isAbsolute habs, hread, List.tail_cons]⟩

/-- An absolute path other than the root has a parent, which is one step shorter. -/
theorem components_parent? (habs : p.isAbsolute = true) (hroot : p.components ≠ [.root]) :
    ∃ q, p.parent? = some q ∧ q.isAbsolute = true ∧ q.components = p.components.dropLast := by
  obtain ⟨rest, -, hsegments⟩ := isAbsolute_iff_segments.1 habs
  have hcomponents : p.components = .root :: rest.filterMap component? := by
    rw [components_of_isAbsolute habs, hsegments, List.tail_cons]
  cases hlast : rest.reverse.dropWhile isIdle with
  | nil =>
      have hnone : rest.reverse.filterMap component? = [] := by
        rw [← filterMap_component?_dropWhile, hlast, List.filterMap_nil]
      rw [List.filterMap_reverse, List.reverse_eq_nil_iff] at hnone
      rw [hcomponents, hnone] at hroot
      exact absurd rfl hroot
  | cons last before =>
      obtain ⟨c, hread⟩ := filterMap_component?_of_last hlast
      rw [hcomponents, hread, ← List.cons_append, List.dropLast_concat]
      have hslash : ∀ s ∈ (before.dropWhile isIdle).reverse, slash ∉ s := by
        intro s hs
        have hbefore : s ∈ before := (List.dropWhile_sublist _).subset (List.mem_reverse.1 hs)
        have hrest : s ∈ rest.reverse := (List.dropWhile_sublist isIdle).subset
          (hlast ▸ List.mem_cons_of_mem last hbefore)
        exact slash_not_mem_of_mem_segments
          (hsegments ▸ List.mem_cons_of_mem [] (List.mem_reverse.1 hrest))
      cases hkept : (before.dropWhile isIdle).reverse with
      | nil =>
          refine ⟨⟨[slash]⟩, ?_, by decide, by decide⟩
          simp [parent?, hsegments, hlast, hkept, habs]
      | cons k ks =>
          obtain ⟨hparent, hbelow⟩ := components_below_root (by simp) (hkept ▸ hslash)
          exact ⟨_, by simp [parent?, hsegments, hlast, hkept], hparent, hbelow⟩

end Path

end CrateGraph
