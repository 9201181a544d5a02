import CrateGraph.Proofs.Metadata.Remote
import CrateGraph.Proofs.Text.Shown

/-!
# What is kept of a document

A document says much about each package, and all of it is checked, but a workspace keeps four
fields of each. This module writes down what an entry of a document says in those fields and
what a package would say in them. The two agree for every document that is accepted: no package
is lost, none is made up, and two documents that differ elsewhere only describe one workspace.

What a document says is read from its tree, so a name that is no text, or a dependency without a
name, would show. The packages of a document may be written as tables or as lists. A document is
text, so the manifests that it names are given by paths that are text.

## Main results

* `Package.eq_of_written_eq` — a package is known from what it says.
* `package_written`, `document_packages` — what a package and a document are decoded from.
* `projects_of_parse` — an accepted document says what its workspace says, and no more is kept.
-/

namespace CrateGraph

/-- What is kept of a package, as a document says it. -/
structure Written where
  name : Option Value
  manifestPath : Option Value
  /-- Null where there is nothing. -/
  source : Value
  /-- The names of the dependencies, one for each entry. -/
  dependencies : List (Option Value)
deriving DecidableEq

namespace Package

/-- What a document says of a package. -/
def written (p : Package) : Written where
  name := some (.text p.name)
  manifestPath := some (.text p.manifestPath.shown)
  source := Value.ofOption .text p.source
  dependencies := p.dependencies.map fun name => some (.text name)

theorem ofOption_text_injective : Function.Injective (Value.ofOption Value.text) := by
  intro s t h
  cases s <;> cases t <;> simp_all [Value.ofOption]

/-- Two packages of which documents say the same are equal, if their paths are text. -/
theorem eq_of_written_eq {p q : Package} (hp : ∃ t, p.manifestPath = .ofText t)
    (hq : ∃ t, q.manifestPath = .ofText t) (h : p.written = q.written) : p = q := by
  rcases p with ⟨name, path, dependencies, source⟩
  rcases q with ⟨name', path', dependencies', source'⟩
  obtain ⟨t, rfl⟩ := hp
  obtain ⟨t', rfl⟩ := hq
  simp only [written, Written.mk.injEq, Option.some.injEq, Value.text.injEq, Path.shown,
    Path.ofText, Text.shown_toBytes] at h
  obtain ⟨rfl, rfl, hsource, hdependencies⟩ := h
  have hnames : Function.Injective fun name => some (Value.text name) := by
    intro a b hab
    simpa using hab
  rw [ofOption_text_injective hsource, hnames.list_map hdependencies]

theorem eq_of_map_written_eq {l l' : List Package} (hl : ∀ p ∈ l, ∃ t, p.manifestPath = .ofText t)
    (hl' : ∀ p ∈ l', ∃ t, p.manifestPath = .ofText t) (h : l.map written = l'.map written) :
    l = l' := by
  induction l generalizing l' with
  | nil => exact (List.map_eq_nil_iff.1 h.symm).symm
  | cons p l ih =>
      obtain ⟨q, rest, rfl, hq, hrest⟩ := List.map_eq_cons_iff.1 h.symm
      rw [List.forall_mem_cons] at hl hl'
      rw [eq_of_written_eq hl.1 hl'.1 hq.symm, ih hl.2 hl'.2 hrest.symm]

end Package

namespace Metadata

open Decode Fields

/-- What an entry says of its package in the fields that are kept. -/
def writtenIn (entry : Value) : Written where
  name := entry.field? "name" 0
  manifestPath := entry.field? "manifest_path" 11
  source := (entry.field? "source" 4).getD .null
  dependencies := (entriesOf entry).map (Value.field? "name" 0)

/-! ## Fields that are kept -/

theorem path_ok_iff (f : Format) (v : Value) (p : Path) :
    path f v = .ok p ↔ ∃ t, v = .text t ∧ .ofText t = p := by
  cases v <;> simp [path, textAs, mismatch, Except.map]

theorem optionText_ok_iff (f : Format) (v : Value) (s : Option String) :
    option text f v = .ok s ↔ v = Value.ofOption .text s := by
  cases v <;> cases s <;> simp [option, text, textAs, mismatch, Except.map, Value.ofOption]

theorem field?_of_record? {v : Value} {r : Record} (hr : v.record? = some r) (key : String)
    (place : Nat) : v.field? key place = r.field? key place := by
  rw [Value.field?, hr, Option.bind_some]

/-- A field with a list of items is there, and the items are what the list is decoded from. -/
theorem tells_items {α : Type} {key wanted : String} {place : Nat} {f : Format} {v : Value}
    {r : Record} (hr : v.record? = some r) (d : Decoder α) :
    (required key (list d)).Tells place ⟨f, r, wanted⟩ fun l =>
      v.field? key place = some (.list (itemsOf key place v)) ∧
        List.Forall₂ (fun item a => d f item = .ok a) (itemsOf key place v) l := by
  intro l hl
  obtain ⟨x, hx, hlist⟩ := tells_required key (list d) l hl
  obtain ⟨items, rfl, hitems⟩ := (list_ok_iff d f x l).1 hlist
  have hfield : v.field? key place = some (.list items) := (field?_of_record? hr _ _).trans hx
  have hof : itemsOf key place v = items := by
    rw [itemsOf, hfield]
  rw [hof]
  exact ⟨hfield, hitems⟩

/-! ## Entries -/

/-- The name of a dependency is the one under `name`, whatever else its entry says. -/
theorem dependency_name {f : Format} {v : Value} {name : String}
    (h : dependency f v = .ok name) : v.field? "name" 0 = some (.text name) := by
  refine record_tells (P := fun name => v.field? "name" 0 = some (.text name)) h
    fun r wanted hr => ?_
  repeat refine Tells.seqLeft ?_ _
  intro name hname
  obtain ⟨x, hx, htext⟩ := tells_required "name" text name hname
  obtain rfl := (text_ok_iff f x name).1 htext
  rw [field?_of_record? hr]
  exact hx

/-- The dependencies of a package are the names of its entries, one for each and in their
order. -/
theorem names_of_dependencies {f : Format} {items : List Value} {l : List String}
    (h : List.Forall₂ (fun item name => dependency f item = .ok name) items l) :
    items.map (Value.field? "name" 0) = l.map fun name => some (.text name) := by
  induction h with
  | nil => rfl
  | cons hname _ ih => rw [List.map_cons, List.map_cons, dependency_name hname, ih]

/-- A package says what its entry says, which names its manifest by a text. -/
theorem package_written {f : Format} {v : Value} {p : Package} (h : package f v = .ok p) :
    v.field? "dependencies" 6 = some (.list (entriesOf v)) ∧ writtenIn v = p.written ∧
      ∃ t, p.manifestPath = .ofText t := by
  refine record_tells (P := fun p => v.field? "dependencies" 6 = some (.list (entriesOf v)) ∧
    writtenIn v = p.written ∧ ∃ t, p.manifestPath = .ofText t) h fun r wanted hr => ?_
  -- The readers are taken off from the last one, and only those of the kept fields tell.
  repeat refine Tells.seqLeft ?_ _
  refine Tells.seq ?_ (tells_required "manifest_path" path)
  repeat refine Tells.seqLeft ?_ _
  refine Tells.seq ?_ (tells_items hr dependency)
  refine Tells.seqLeft ?_ _
  refine Tells.seq ?_ (tells_optional "source" text)
  repeat refine Tells.seqLeft ?_ _
  refine Tells.map ?_
  rintro name hname source hsource dependencies ⟨hlisted, hentries⟩ manifestPath ⟨x, hx, hpath⟩
  obtain ⟨y, hy, htext⟩ := tells_required "name" text name hname
  obtain rfl := (text_ok_iff _ _ _).1 htext
  obtain ⟨t, rfl, rfl⟩ := (path_ok_iff _ _ _).1 hpath
  have hname : v.field? "name" 0 = some (.text name) := (field?_of_record? hr _ _).trans hy
  have hpath : v.field? "manifest_path" 11 = some (.text t) := (field?_of_record? hr _ _).trans hx
  have hsource : (v.field? "source" 4).getD .null = Value.ofOption .text source := by
    rw [field?_of_record? hr]
    exact (optionText_ok_iff _ _ _).1 hsource
  have hnames : (entriesOf v).map (Value.field? "name" 0) =
      dependencies.map fun name => some (.text name) := names_of_dependencies hentries
  refine ⟨hlisted, ?_, t, rfl⟩
  rw [writtenIn, hnames, hname, hpath, hsource, Package.written, Path.shown, Path.ofText,
    Text.shown_toBytes]

/-! ## Documents -/

/-- What a document says of its packages. -/
def writtenPackages (document : Value) : List Written := (packagesOf document).map writtenIn

/-- A workspace is what a document says of its packages, which are listed there, each with a list
of its dependencies. -/
structure Projects (document : Value) (w : Workspace) : Prop where
  packages_listed : document.field? "packages" 0 = some (.list (packagesOf document))
  dependencies_listed : ∀ entry ∈ packagesOf document,
    entry.field? "dependencies" 6 = some (.list (entriesOf entry))
  /-- One package for each entry and in their order. -/
  written : writtenPackages document = w.packages.map Package.written
  /-- What a document says is text, and nothing is lost of it. -/
  manifests_text : ∀ p ∈ w.packages, ∃ t, p.manifestPath = .ofText t

/-- A document determines the workspace that is what it says. -/
theorem Projects.eq_iff {v v' : Value} {w w' : Workspace} (h : Projects v w)
    (h' : Projects v' w') : writtenPackages v = writtenPackages v' ↔ w = w' := by
  rw [h.written, h'.written]
  constructor
  · intro hsame
    have hpackages : w.packages = w'.packages :=
      Package.eq_of_map_written_eq h.manifests_text h'.manifests_text hsame
    rcases w with ⟨packages⟩
    rw [Workspace.mk.injEq]
    exact hpackages
  · rintro rfl
    rfl

/-- The packages of a document are decoded from its entries, one from each. -/
theorem document_packages {f : Format} {v : Value} {w : Workspace} (h : document f v = .ok w) :
    v.field? "packages" 0 = some (.list (packagesOf v)) ∧
      List.Forall₂ (fun item p => package f item = .ok p) (packagesOf v) w.packages := by
  refine record_tells (P := fun w => v.field? "packages" 0 = some (.list (packagesOf v)) ∧
    List.Forall₂ (fun item p => package f item = .ok p) (packagesOf v) w.packages) h
    fun r wanted hr => ?_
  repeat refine Tells.seqLeft ?_ _
  exact Tells.map (tells_items hr package)

/-- Packages say what the entries say that they are decoded from. -/
theorem packages_written {f : Format} {items : List Value} {l : List Package}
    (h : List.Forall₂ (fun item p => package f item = .ok p) items l) :
    (∀ entry ∈ items, entry.field? "dependencies" 6 = some (.list (entriesOf entry))) ∧
      items.map writtenIn = l.map Package.written ∧ ∀ p ∈ l, ∃ t, p.manifestPath = .ofText t := by
  induction h with
  | nil => exact ⟨by simp, rfl, by simp⟩
  | cons hp _ ih =>
      obtain ⟨hlisted, hwritten, htext⟩ := package_written hp
      refine ⟨List.forall_mem_cons.2 ⟨hlisted, ih.1⟩, ?_, List.forall_mem_cons.2 ⟨htext, ih.2.2⟩⟩
      rw [List.map_cons, List.map_cons, hwritten, ih.2.1]

theorem projects_of_document {f : Format} {v : Value} {w : Workspace}
    (h : document f v = .ok w) : Projects v w := by
  obtain ⟨hpackages, hdecoded⟩ := document_packages h
  obtain ⟨hdependencies, hwritten, htext⟩ := packages_written hdecoded
  exact ⟨hpackages, hdependencies, hwritten, htext⟩

/-! ## Outputs -/

theorem parse_ok_iff (bytes : Bytes) (expected : Nat) (w : Workspace) :
    parse bytes expected = .ok w ↔
      ∃ v, Json.parse bytes = .ok v ∧ ofValue expected v = .ok w := by
  simp only [parse, Success.bind_iff, Success.mapError_iff]

/-- The document of an accepted output says what the workspace says. -/
theorem projects_of_accepted {bytes : Bytes} {expected : Nat} {v : Value} {w : Workspace}
    (hv : Json.parse bytes = .ok v) (h : parse bytes expected = .ok w) : Projects v w := by
  obtain ⟨v', hv', hw⟩ := (parse_ok_iff bytes expected w).1 h
  obtain rfl : v = v' := Except.ok.inj (hv.symm.trans hv')
  exact projects_of_document ((ofValue_ok_iff expected v w).1 hw).1

/-- An accepted output holds a document that says what the workspace says: nothing is lost and
nothing is made up. The outputs that give the same workspace are exactly those that say the same
of their packages, whatever else is in them. -/
theorem projects_of_parse {bytes : Bytes} {expected : Nat} {w : Workspace}
    (h : parse bytes expected = .ok w) :
    ∃ v, Json.parse bytes = .ok v ∧ Projects v w ∧
      ∀ bytes' expected' v' w', Json.parse bytes' = .ok v' → parse bytes' expected' = .ok w' →
        (writtenPackages v = writtenPackages v' ↔ w = w') := by
  obtain ⟨v, hv, -⟩ := (parse_ok_iff bytes expected w).1 h
  have hprojects : Projects v w := projects_of_accepted hv h
  refine ⟨v, hv, hprojects, ?_⟩
  intro bytes' expected' v' w' hv' h'
  exact hprojects.eq_iff (projects_of_accepted hv' h')

/-- An output about one package that depends on another twice, with the fields before the name of
the package and before that of its first dependency left open. -/
def outputWith (more rename : String) : Bytes := Text.toBytes ("\x7b\"packages\":[\x7b" ++ more
  ++ "\"name\":\"app\",\"version\":\"0.1.0\",\"id\":\"app\",\"targets\":[],"
  ++ "\"features\":\x7b\x7d,\"manifest_path\":\"/ws/app/Cargo.toml\","
  ++ "\"dependencies\":[\x7b" ++ rename ++ "\"name\":\"core\",\"req\":\"*\",\"kind\":null,"
  ++ "\"optional\":false,\"uses_default_features\":true,\"features\":[]\x7d,"
  ++ "\x7b\"name\":\"core\",\"req\":\"^1\",\"optional\":true,\"uses_default_features\":true,"
  ++ "\"features\":[],\"kind\":\"dev\"\x7d]\x7d],\"workspace_members\":[],"
  ++ "\"workspace_root\":\"/ws\",\"target_directory\":\"/ws/target\",\"version\":1\x7d")

/-- The workspace that it describes, if what is left open says nothing of the source. -/
def outputWorkspace : Workspace :=
  ⟨[⟨"app", .ofText "/ws/app/Cargo.toml", ["core", "core"], none⟩]⟩

/-- A null source, a key that is not known and a local name do not show: two different outputs
say the same and give the same workspace, where the dependency is listed twice. -/
theorem projects_outputWith :
    outputWith "" "" ≠ outputWith "\"source\":null,\"colour\":1," "\"rename\":\"base\"," ∧
    ∃ v v', Json.parse (outputWith "" "") = .ok v ∧
      Json.parse (outputWith "\"source\":null,\"colour\":1," "\"rename\":\"base\",") = .ok v' ∧
      Projects v outputWorkspace ∧ writtenPackages v = writtenPackages v' := by
  have h : parse (outputWith "" "") 1 = .ok outputWorkspace := by decide +kernel
  have h' : parse (outputWith "\"source\":null,\"colour\":1," "\"rename\":\"base\",") 1 =
      .ok outputWorkspace := by decide +kernel
  obtain ⟨v, hv, hprojects, hsame⟩ := projects_of_parse h
  obtain ⟨v', hv', -⟩ := projects_of_parse h'
  exact ⟨by decide +kernel, v, v', hv, hv', hprojects, (hsame _ _ _ _ hv' h').2 rfl⟩

end Metadata

end CrateGraph
