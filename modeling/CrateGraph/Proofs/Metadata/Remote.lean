import CrateGraph.Proofs.Metadata.Version

/-!
# Documents without remote dependencies

An entry of a package's dependencies says under `source` where the package that it is on is
fetched from. An entry on a package of the workspace has no source. This module takes the
other entries out of a document and follows the decoding of what is left: a document that
decodes still decodes, to the same packages with fewer dependencies.

## Main results

* `not_isRemote_of_localOnly` — what is taken out.
* `package_withoutRemote`, `document_localOnly` — what is left of a package and a document.
* `ofValue_localOnly` — the version gate lets through what is left.
-/

namespace CrateGraph.Metadata

open Decode Fields

/-! ## Taking entries out -/

/-- The items of a field of a tree, if that is a list. -/
def itemsOf (key : String) (place : Nat) (v : Value) : List Value :=
  match v.field? key place with
  | some (.list items) => items
  | _ => []

/-- A list with its items changed; any other tree as it is. -/
def mapItems (g : List Value → List Value) : Value → Value
  | .list items => .list (g items)
  | v => v

/-- The tree with the items of a field changed, if that is a list. -/
def mapItemsOf (key : String) (place : Nat) (g : List Value → List Value) (v : Value) : Value :=
  v.mapField key place (mapItems g)

/-- Whether a dependency is on a package that is fetched from elsewhere. -/
def isRemote (entry : Value) : Bool :=
  match entry.field? "source" 1 with
  | some (.text s) => s ≠ ""
  | _ => false

/-- The entries of a package's dependencies. -/
def entriesOf (package : Value) : List Value := itemsOf "dependencies" 6 package

/-- The packages of a document. -/
def packagesOf (document : Value) : List Value := itemsOf "packages" 0 document

/-- A package without its remote dependencies. -/
def withoutRemote (package : Value) : Value :=
  mapItemsOf "dependencies" 6 (List.filter fun entry => !isRemote entry) package

/-- A document without remote dependencies. -/
def localOnly (document : Value) : Value :=
  mapItemsOf "packages" 0 (List.map withoutRemote) document

/-- A decoded package without the dependencies that are remote according to their entries. -/
def keepLocal (p : Package) (entries : List Value) : Package :=
  { p with dependencies :=
      ((p.dependencies.zip entries).filter fun d => !isRemote d.2).map Prod.fst }

/-- A decoded workspace without the dependencies that are remote according to the trees of its
packages. -/
def keepLocalOf (w : Workspace) (packages : List Value) : Workspace :=
  ⟨(w.packages.zip packages).map fun p => keepLocal p.1 (entriesOf p.2)⟩

/-! ## What is taken out -/

theorem itemsOf_mapItemsOf (key : String) (place : Nat) {g : List Value → List Value}
    (hg : g [] = []) (v : Value) :
    itemsOf key place (mapItemsOf key place g v) = g (itemsOf key place v) := by
  unfold itemsOf mapItemsOf
  rw [Value.field?_mapField_self]
  cases v.field? key place with
  | none => exact hg.symm
  | some x =>
      cases x with
      | list items => rfl
      | _ => exact hg.symm

theorem entriesOf_withoutRemote (package : Value) :
    entriesOf (withoutRemote package) =
      (entriesOf package).filter fun entry => !isRemote entry :=
  itemsOf_mapItemsOf "dependencies" 6 rfl package

theorem packagesOf_localOnly (document : Value) :
    packagesOf (localOnly document) = (packagesOf document).map withoutRemote :=
  itemsOf_mapItemsOf "packages" 0 rfl document

/-- No remote dependency is left in a document. -/
theorem not_isRemote_of_localOnly {document package entry : Value}
    (hpackage : package ∈ packagesOf (localOnly document)) (hentry : entry ∈ entriesOf package) :
    isRemote entry = false := by
  rw [packagesOf_localOnly] at hpackage
  obtain ⟨item, -, rfl⟩ := List.mem_map.1 hpackage
  rw [entriesOf_withoutRemote] at hentry
  simpa using (List.mem_filter.1 hentry).2

/-! ## What is left decodes -/

/-- The items that are kept decode to the values in their places. -/
theorem forall₂_filter {α β : Type} {R : α → β → Prop} {items : List α} {l : List β}
    (keep : α → Bool) (h : List.Forall₂ R items l) :
    List.Forall₂ R (items.filter keep)
      (((l.zip items).filter fun x => keep x.2).map Prod.fst) := by
  induction h with
  | nil => exact .nil
  | @cons a b items l hab _ ih =>
      rw [List.filter_cons, List.zip_cons_cons, List.filter_cons]
      cases keep a with
      | true => exact .cons hab ih
      | false => exact ih

/-- The reader of a list field follows a change to its items if what is left of them decodes. -/
theorem follows_mapItems {α : Type} {key wanted : String} {place : Nat} {d : Decoder α}
    {f : Format} {v : Value} {r : Record} {g : List Value → List Value}
    {R : List α → List α → Prop} (hr : v.record? = some r)
    (h : ∀ l, List.Forall₂ (fun item a => d f item = .ok a) (itemsOf key place v) l →
      ∃ l', List.Forall₂ (fun item a => d f item = .ok a) (g (itemsOf key place v)) l' ∧ R l l') :
    (required key (list d)).Follows place ⟨f, r, wanted⟩
      (.mapField key place (mapItems g) ⟨f, r, wanted⟩) R := by
  refine follows_required_self fun x hx l hl => ?_
  obtain ⟨items, rfl, hitems⟩ := (list_ok_iff d f x l).1 hl
  have hfield : v.field? key place = some (.list items) := by
    rw [Value.field?, hr]
    exact hx
  have hof : itemsOf key place v = items := by
    rw [itemsOf, hfield]
  rw [hof] at h
  obtain ⟨l', hl', hR⟩ := h l hitems
  exact ⟨l', (list_ok_iff d f _ l').2 ⟨g items, rfl, hl'⟩, hR⟩

/-- Dependencies, one for each of some entries, and those that are left of them. -/
def DependenciesLeft (entries : List Value) (l l' : List String) : Prop :=
  entries.length = l.length ∧
    l' = ((l.zip entries).filter fun d => !isRemote d.2).map Prod.fst

/-- A package with a dependency for each of some entries, and what is left of it. -/
def PackageLeft (entries : List Value) (p p' : Package) : Prop :=
  entries.length = p.dependencies.length ∧ p' = keepLocal p entries

/-- A package that decodes does so without its remote dependencies, and has an entry for each
dependency. -/
theorem package_withoutRemote {f : Format} {v : Value} {p : Package} (h : package f v = .ok p) :
    package f (withoutRemote v) = .ok (keepLocal p (entriesOf v)) ∧
      (entriesOf v).length = p.dependencies.length := by
  suffices ∃ p', package f (withoutRemote v) = .ok p' ∧ PackageLeft (entriesOf v) p p' by
    obtain ⟨p', hp', hlength, rfl⟩ := this
    exact ⟨hp', hlength⟩
  refine record_mapField h fun r wanted hr => ?_
  -- The readers are taken off from the last one. Only that of the dependencies sees a change,
  -- and those before it make a function that passes the change on.
  repeat refine Follows.seqLeft ?_ (follows_field_of_ne (by decide) (by decide) _ _ _ _)
  refine Follows.seq ?_ (follows_field_of_ne (by decide) (by decide) _ _ _ _)
  repeat refine Follows.seqLeft ?_ (follows_field_of_ne (by decide) (by decide) _ _ _ _)
  refine Follows.seq (R := DependenciesLeft (entriesOf v)) ?_ (follows_mapItems hr ?_)
  · refine Follows.seqLeft ?_ (follows_field_of_ne (by decide) (by decide) _ _ _ _)
    refine Follows.seq ?_ (follows_field_of_ne (by decide) (by decide) _ _ _ _)
    repeat refine Follows.seqLeft ?_ (follows_field_of_ne (by decide) (by decide) _ _ _ _)
    refine Follows.map (follows_field_of_ne (by decide) (by decide) _ _ _ _) ?_
    rintro name _ rfl source _ rfl l l' ⟨hlength, rfl⟩ manifestPath _ rfl
    exact ⟨hlength, rfl⟩
  · intro l hl
    exact ⟨_, forall₂_filter _ hl, hl.length_eq, rfl⟩

/-- The packages of a list that decodes do so without their remote dependencies. -/
theorem forall₂_withoutRemote {f : Format} {items : List Value} {l : List Package}
    (h : List.Forall₂ (fun item p => package f item = .ok p) items l) :
    List.Forall₂ (fun item p => package f item = .ok p) (items.map withoutRemote)
      ((l.zip items).map fun p => keepLocal p.1 (entriesOf p.2)) := by
  induction h with
  | nil => exact .nil
  | cons hp _ ih => exact .cons (package_withoutRemote hp).1 ih

/-- A workspace whose packages some trees decode to, and what is left of it. -/
def WorkspaceLeft (f : Format) (packages : List Value) (w w' : Workspace) : Prop :=
  List.Forall₂ (fun item p => package f item = .ok p) packages w.packages ∧
    w' = keepLocalOf w packages

/-- A document that decodes does so without its remote dependencies, and has a tree for each
package. -/
theorem document_localOnly {f : Format} {v : Value} {w : Workspace} (h : document f v = .ok w) :
    document f (localOnly v) = .ok (keepLocalOf w (packagesOf v)) ∧
      List.Forall₂ (fun item p => package f item = .ok p) (packagesOf v) w.packages := by
  suffices ∃ w', document f (localOnly v) = .ok w' ∧ WorkspaceLeft f (packagesOf v) w w' by
    obtain ⟨w', hw', hitems, rfl⟩ := this
    exact ⟨hw', hitems⟩
  refine record_mapField h fun r wanted hr => ?_
  repeat refine Follows.seqLeft ?_ (follows_field_of_ne (by decide) (by decide) _ _ _ _)
  refine Follows.map
    (R := fun l l' => WorkspaceLeft f (packagesOf v) ⟨l⟩ ⟨l'⟩) (follows_mapItems hr ?_) ?_
  · intro l hl
    exact ⟨_, forall₂_withoutRemote hl, hl, rfl⟩
  · exact fun _ _ hleft => hleft

/-- The version gate sees no difference. -/
theorem ofValue_localOnly {expected : Nat} {v : Value} {w : Workspace}
    (h : ofValue expected v = .ok w) :
    ofValue expected (localOnly v) = .ok (keepLocalOf w (packagesOf v)) := by
  have hentry : Value.entry? (localOnly v) "version" = v.entry? "version" :=
    Value.entry?_mapField_of_ne (by decide) _ _ v
  have hstated : statedVersion? (localOnly v) = statedVersion? v := by
    rw [statedVersion?, statedVersion?, hentry]
  obtain ⟨hdoc, hgate⟩ := (ofValue_ok_iff expected v w).1 h
  refine (ofValue_ok_iff expected _ _).2 ⟨(document_localOnly hdoc).1, ?_⟩
  rwa [hstated]

end CrateGraph.Metadata
