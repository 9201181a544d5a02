import CrateGraph.Machine
import CrateGraph.Proofs.Path.Components
import CrateGraph.Proofs.Success

/-!
# Where written paths lead

Looking a path up, a tree of files passes over segments that mean nothing, but not always:
after the name of a file there may not be so much as a slash. So of two ways of writing one
path it can be that only one leads to anything. Where both do, they lead to one location.

## Main results

* `follow_thins` — what segments lead to, they lead to without those that mean nothing.
* `locate_eq_of_same` — two ways of writing a path do not lead to two locations.
* `Machine.normalize_same` — normalized, they are still one path if both lead to something, or
  neither does.
-/

namespace CrateGraph

namespace FileTree

/-! ## Leaving segments out -/

/-- The second list is the first without some of the segments that mean nothing. -/
inductive Thins : List Bytes → List Bytes → Prop
  | nil : Thins [] []
  | keep (s : Bytes) {rest rest' : List Bytes} :
      Thins rest rest' → Thins (s :: rest) (s :: rest')
  | skip {s : Bytes} {rest rest' : List Bytes} :
      Path.isIdle s = true → Thins rest rest' → Thins (s :: rest) rest'

variable {t : FileTree} {cwd l l' : Location} {p q : Path} {links : Nat} {place : Place}
  {segments thinned rest rest' : List Bytes} {s : Bytes}

theorem Thins.append_left (before : List Bytes) (h : Thins rest rest') :
    Thins (before ++ rest) (before ++ rest') := by
  induction before with
  | nil => exact h
  | cons s before ih => exact .keep s ih

/-- All of them can be left out. -/
theorem Thins.filter (segments : List Bytes) :
    Thins segments (segments.filter fun s => !Path.isIdle s) := by
  induction segments with
  | nil => exact .nil
  | cons s rest ih =>
      cases hs : Path.isIdle s with
      | true => simpa [hs] using Thins.skip hs ih
      | false => simpa [hs] using Thins.keep s ih

theorem Thins.of_cons (h : Thins (s :: rest) thinned) (hs : ¬Path.isIdle s = true) :
    ∃ rest', thinned = s :: rest' ∧ Thins rest rest' := by
  cases h with
  | keep _ h => exact ⟨_, rfl, h⟩
  | skip hidle => exact absurd hidle hs

/-! ## Following segments -/

theorem lastName_look (isLink : Bool) (rest : List Bytes) :
    lastName .look isLink rest = .goOn := by
  unfold lastName
  split <;> rfl

theorem missingName_look (l : Location) (rest : List Bytes) :
    missingName .look l rest = .error .notFound := by
  unfold missingName
  split <;> rfl

/-- What segments lead to, they lead to without those that mean nothing. -/
theorem follow_thins (h : t.follow .look links l segments = .ok place)
    (hthins : Thins segments thinned) : t.follow .look links l thinned = .ok place := by
  fun_induction follow t .look links l segments generalizing thinned with
  | case1 =>
      cases hthins
      rw [follow, h]
  | case2 => cases h
  | case3 _ _ s rest hdir hidle ih =>
      cases hthins with
      | keep _ hrest =>
          rw [follow, if_neg hdir, if_pos hidle]
          exact ih h hrest
      | skip _ hrest => exact ih h hrest
  | case4 _ _ rest hdir hidle ih =>
      obtain ⟨rest', rfl, hrest⟩ := hthins.of_cons hidle
      rw [follow, if_neg hdir, if_neg hidle, if_pos rfl]
      exact ih h hrest
  | case5 => cases h
  | case6 => simp [missingName_look] at h
  | case7 => simp_all [lastName_look]
  | case8 => simp_all [lastName_look]
  | case9 => simp [lastName_look] at h
  | case10 l s rest hdir hidle hup hlong target links hnode _ =>
      rename_i ih
      obtain ⟨rest', rfl, hrest⟩ := hthins.of_cons hidle
      rw [follow, if_neg hdir, if_neg hidle, if_neg hup, if_neg hlong, hnode]
      simp only [lastName_look] at h ⊢
      exact ih h (hrest.append_left _)
  | case11 links l s rest hdir hidle hup hlong node hnode _ hlink ih =>
      obtain ⟨rest', rfl, hrest⟩ := hthins.of_cons hidle
      rw [follow, if_neg hdir, if_neg hidle, if_neg hup, if_neg hlong, hnode]
      simp only [lastName_look] at h ⊢
      exact ih h hrest

/-! ## Two ways of writing a path -/

/-- The segments that mean something are those that the components are. -/
theorem filter_segments (p : Path) : (p.segments.filter fun s => !Path.isIdle s) =
    (p.components.filterMap Component.bytes?).filter fun s => !Path.isIdle s := by
  have hread : ∀ l : List Bytes,
      (l.filterMap Path.component?).filterMap Component.bytes? =
        l.filter fun s => !Path.isIdle s := by
    intro l
    induction l with
    | nil => rfl
    | cons s l ih =>
        cases hs : Path.component? s with
        | none => simp [hs, Path.component?_eq_none_iff.1 hs, ih]
        | some c =>
            have hidle : Path.isIdle s = false := by
              rw [Bool.eq_false_iff, Ne, ← Path.component?_eq_none_iff, hs]
              simp
            simp [hs, hidle, Path.bytes?_of_component? hs, ih]
  obtain ⟨first, rest, hsegments⟩ := Path.exists_segments_eq_cons p
  simp only [Path.components, hsegments]
  split
  · rename_i habs
    obtain ⟨_, -, hfirst⟩ := Path.isAbsolute_iff_segments.1 habs
    rw [hsegments] at hfirst
    obtain ⟨rfl, -⟩ := List.cons.inj hfirst
    simp [Component.bytes?, hread, Path.isIdle]
  · split
    · rename_i hdot
      subst hdot
      simp [List.filterMap_cons, Component.bytes?, hread, Path.isIdle]
    · simp [hread]

theorem place_of_locate (h : t.locate cwd p = .ok l) :
    t.place .look cwd p = .ok (.present l) := by
  obtain ⟨place, hplace, hpresent⟩ := (Success.bind_iff _ _ _).1 h
  cases place with
  | present l' =>
      cases hpresent
      exact hplace
  | missing l' => cases hpresent

/-- What a path leads to, its segments lead to without those that mean nothing. -/
theorem follow_of_locate (h : t.locate cwd p = .ok l) :
    t.follow .look mostLinks (if p.isAbsolute then [] else cwd)
      (p.segments.filter fun s => !Path.isIdle s) = .ok (.present l) := by
  have hplace := place_of_locate h
  unfold place at hplace
  split at hplace
  · cases hplace
  · split at hplace
    · cases hplace
    · split at hplace
      · cases hplace
      · exact follow_thins hplace (.filter p.segments)

/-- Two ways of writing a path do not lead to two locations. -/
theorem locate_eq_of_same (hsame : p.Same q) (hp : t.locate cwd p = .ok l)
    (hq : t.locate cwd q = .ok l') : l = l' := by
  have hsegments : (p.segments.filter fun s => !Path.isIdle s) =
      q.segments.filter fun s => !Path.isIdle s := by
    rw [filter_segments, filter_segments, show p.components = q.components from hsame]
  have hfollow := follow_of_locate hp
  rw [hsegments, hsame.isAbsolute_eq, follow_of_locate hq] at hfollow
  cases hfollow
  rfl

end FileTree

/-- Two ways of writing a path are normalized to one path if both lead to something, or
neither does. -/
theorem Machine.normalize_same {m : Machine} {p q : Path} (hsame : p.Same q)
    (hexists : m.pathExists p = m.pathExists q) : (m.normalize p).Same (m.normalize q) := by
  unfold pathExists FileTree.pathExists at hexists
  unfold normalize FileTree.normalize FileTree.canonical
  cases hp : m.tree.locate m.cwd p with
  | ok l =>
      rw [hp] at hexists
      cases hq : m.tree.locate m.cwd q with
      | ok l' =>
          rw [FileTree.locate_eq_of_same hsame hp hq]
          exact rfl
      | error e =>
          rw [hq] at hexists
          cases hexists
  | error e =>
      rw [hp] at hexists
      cases hq : m.tree.locate m.cwd q with
      | ok l' =>
          rw [hq] at hexists
          cases hexists
      | error e' => exact hsame

/-- After a link to a file there may not be a slash. -/
example :
    let t : FileTree :=
      ⟨[(FileTree.locationOf ["f"], .file [] .plain),
        (FileTree.locationOf ["l"], .link (.ofText "f"))]⟩
    t.normalize [] (.ofText "/l") = .ofText "/f" ∧ t.normalize [] (.ofText "/l/") = .ofText "/l/" :=
  ⟨by cbv, by cbv⟩

end CrateGraph
