import CrateGraph.Edge
import CrateGraph.Node
import CrateGraph.Policy
import CrateGraph.Proofs.Decode.Rearranged
import CrateGraph.Synchronizer

/-!
# Documents are decoded

Each record that is handed to the orchestrator is decoded from its tree, whatever the order of
the entries. A field that is left out of a tree has the value that its decoder takes for a
missing one, the names of fields and variants are the same on both sides, and a fragment that
shares its table with the edges of a result is decoded as if it had one of its own. Of all that
is written only the name of the crate that a node was made from is lost.

## Main results

* `Target.decode_rearranged`, `Node.decode_rearranged`, `Edge.decode_rearranged`,
  `Policy.decode_rearranged` — one record after the other.
* `Fragment.decode_rearranged` — a fragment, whatever else its table holds.
* `SyncResult.shownBy_rearranged` — a result, from which both of its parts are decoded.
-/

namespace CrateGraph

open Fields (required defaulted)

/-- The node as its tree shows it, without the name of its crate. -/
def Node.withoutCrate (n : Node) : Node := { n with packageName := "" }

/-- The fragment as its tree shows it. -/
def Fragment.withoutCrates (g : Fragment) : Fragment :=
  { g with projects := g.projects.map Node.withoutCrate }

/-- A document is a table of a fragment and the edges beside it, and both are read from it. -/
structure SyncResult.ShownBy (r : SyncResult) (f : Format) (document : Value) : Prop where
  table : ∃ entries, document = .table entries ∧
    (entries.map Prod.fst).Perm ["projects", "externalNodes", "dependencies"]
  graph : Fragment.decode f document = .ok r.graph.withoutCrates
  dependencies : ∃ v, document.entry? "dependencies" = some v ∧
    Decode.list Edge.decode f v = .ok r.dependencies

variable {α : Type} {o : Value → Value} {f : Format} {r : Reading}
  {entries : List (String × Value)} {name : String}

/-! ## Fields of a kind -/

namespace Fields

theorem reads_text (ho : Value.Rearranges o) (h : r.Shows o f entries) {s : String}
    (hv : entries.lookup name = some (.text s)) : (required name Decode.text).Reads r s :=
  reads_required h hv (Decode.text_rearranged ho s)

/-- A list that is left out where it is empty. -/
theorem reads_list_nonempty {d : Decoder α} {l : List α} {v : Value} (h : r.Shows o f entries)
    (hv : entries.lookup name = if l = [] then none else some v)
    (hd : Decode.list d f (o v) = .ok l) : (defaulted name (Decode.list d) []).Reads r l := by
  by_cases hl : l = []
  · subst hl
    exact reads_defaulted_of_none h (by simpa using hv)
  · exact reads_defaulted h (by simpa [hl] using hv) hd []

end Fields

variable (ho : Value.Rearranges o)

include ho

/-! ## Targets and nodes -/

theorem ProjectKind.decode_rearranged (k : ProjectKind) : decode f (o k.encode) = .ok k := by
  cases k
  rw [encode, ho.scalar _ rfl]
  rfl

theorem Command.decode_rearranged (c : Command) : decode f (o c.encode) = .ok c := by
  have hkeys : ["command", "cwd"].Nodup := by decide
  refine Decode.record_rearranged ho hkeys fun r h => ?_
  have hcommand : (required "command" Decode.text).Reads r c.command := Fields.reads_text ho h rfl
  have hcwd : (required "cwd" Decode.text).Reads r c.cwd := Fields.reads_text ho h rfl
  exact (hcommand.map Command.mk).seq hcwd

/-- The command of a target is not taken for a missing one. -/
theorem Command.option_rearranged (c : Command) :
    Decode.option decode f (o c.encode) = .ok (some c) := by
  have hkeys : ["command", "cwd"].Nodup := by decide
  have hc : decode f (o c.encode) = .ok c := decode_rearranged ho c
  obtain ⟨entries, htable, -⟩ := ho.table [("command", .text c.command), ("cwd", .text c.cwd)] hkeys
  rw [encode, htable] at hc ⊢
  -- a table is not null, so the decoder of the command is asked
  rw [Decode.option, hc]
  · rfl
  · exact Value.noConfusion

theorem Target.reads_options (t : Target) (h : r.Shows o f entries)
    (hv : entries.lookup "options" =
      if t.options.isSome then some (Value.ofOption Command.encode t.options) else none) :
    (defaulted "options" (Decode.option Command.decode) none).Reads r t.options := by
  cases ht : t.options with
  | none => exact Fields.reads_defaulted_of_none h (by simpa [ht] using hv)
  | some c =>
      have hc : Decode.option Command.decode f (o c.encode) = .ok (some c) :=
        Command.option_rearranged ho c
      exact Fields.reads_defaulted h (by simpa [ht, Value.ofOption] using hv) hc none

theorem Target.decode_rearranged (t : Target) : decode f (o t.encode) = .ok t := by
  have hkeys : ["executor", "options", "inputs", "outputs", "dependsOn"].Nodup := by decide
  -- which keys are there depends on the target, but they are always among these
  refine Decode.record_rearranged ho (hkeys.sublist ?_) fun r h => ?_
  · simp only [List.map_append]
    exact ((((List.Sublist.refl ["executor"]).append (Value.keys_entryIf_sublist ..)).append
      (Value.keys_entryIf_sublist ..)).append (Value.keys_entryIf_sublist ..)).append
      (Value.keys_entryIf_sublist ..)
  · have hexecutor : (required "executor" Decode.text).Reads r t.executor :=
      Fields.reads_text ho h rfl
    have hoptions : (defaulted "options" (Decode.option Command.decode) none).Reads r t.options :=
      t.reads_options ho h (by simp [List.lookup_append, List.lookup_cons])
    have hinputs : (defaulted "inputs" (Decode.list Decode.text) []).Reads r t.inputs :=
      Fields.reads_list_nonempty h (by simp [List.lookup_append, List.lookup_cons])
        (Decode.texts_rearranged ho t.inputs)
    have houtputs : (defaulted "outputs" (Decode.list Decode.text) []).Reads r t.outputs :=
      Fields.reads_list_nonempty h (by simp [List.lookup_append, List.lookup_cons])
        (Decode.texts_rearranged ho t.outputs)
    have hdependsOn : (defaulted "dependsOn" (Decode.list Decode.text) []).Reads r t.dependsOn :=
      Fields.reads_list_nonempty h (by simp [List.lookup_append, List.lookup_cons])
        (Decode.texts_rearranged ho t.dependsOn)
    exact ((((hexecutor.map Target.mk).seq hoptions).seq hinputs).seq houtputs).seq hdependsOn

theorem Node.reads_implicit (n : Node) (h : r.Shows o f entries)
    (hv : entries.lookup "implicit" = if n.implicit then some (.bool true) else none) :
    (defaulted "implicit" Decode.bool false).Reads r n.implicit := by
  cases hn : n.implicit with
  | false => exact Fields.reads_defaulted_of_none h (by simpa [hn] using hv)
  | true =>
      have htrue : Decode.bool f (o (.bool true)) = .ok true := by
        rw [ho.scalar _ rfl]
        rfl
      exact Fields.reads_defaulted h (by simpa [hn] using hv) htrue false

/-- A node is read back but for the name of its crate. -/
theorem Node.decode_rearranged (n : Node) : decode f (o n.encode) = .ok n.withoutCrate := by
  have hkeys :
      ["root", "name", "sourceRoot", "projectType", "implicit", "targets", "tags"].Nodup := by
    decide
  refine Decode.record_rearranged ho (hkeys.sublist ?_) fun r h => ?_
  · simp only [List.map_append]
    exact ((List.Sublist.refl ["root", "name", "sourceRoot", "projectType"]).append
      (Value.keys_entryIf_sublist ..)).append (List.Sublist.refl ["targets", "tags"])
  · have hroot : (required "root" Decode.text).Reads r n.root := Fields.reads_text ho h rfl
    have hname : (required "name" Decode.text).Reads r n.name := Fields.reads_text ho h rfl
    have hsourceRoot : (required "sourceRoot" Decode.text).Reads r n.sourceRoot :=
      Fields.reads_text ho h rfl
    have hkind : (required "projectType" ProjectKind.decode).Reads r n.kind :=
      Fields.reads_required h rfl (n.kind.decode_rearranged ho)
    have himplicit : (defaulted "implicit" Decode.bool false).Reads r n.implicit :=
      n.reads_implicit ho h (by simp [List.lookup_append, List.lookup_cons])
    have htargets : (defaulted "targets" (Decode.table Target.decode) .empty).Reads r n.targets :=
      Fields.reads_defaulted h (by simp [List.lookup_append, List.lookup_cons])
        (Decode.table_rearranged_self ho fun t _ => t.decode_rearranged ho) .empty
    have htags : (defaulted "tags" (Decode.list Decode.text) []).Reads r n.tags :=
      Fields.reads_defaulted h (by simp [List.lookup_append, List.lookup_cons])
        (Decode.texts_rearranged ho n.tags) []
    exact ((((((hroot.map _).seq hname).seq hsourceRoot).seq hkind).seq himplicit).seq htargets).seq
      htags

/-! ## Fragments and edges -/

/-- A fragment is read back from any table that its entries stand in. -/
theorem Fragment.decode_rearranged (g : Fragment) (hfree : ∀ x ∈ g.externalNodes.values, o x = x)
    {more : List (String × Value)} (hkeys : ((g.entries ++ more).map Prod.fst).Nodup) :
    decode f (o (.table (g.entries ++ more))) = .ok g.withoutCrates := by
  refine Decode.record_rearranged ho hkeys fun r h => ?_
  have hprojects : (required "projects" (Decode.table Node.decode)).Reads r
      (g.projects.map Node.withoutCrate) :=
    Fields.reads_required h rfl
      (Decode.table_rearranged ho g.projects fun n _ => n.decode_rearranged ho)
  have hexternal : (required "externalNodes" (Decode.table Decode.any)).Reads r g.externalNodes :=
    Fields.reads_required h rfl (Decode.free_rearranged ho hfree)
  exact (hprojects.map Fragment.mk).seq hexternal

theorem EdgeKind.decode_rearranged (k : EdgeKind) : decode f (o k.encode) = .ok k := by
  cases k
  rw [encode, ho.scalar _ rfl]
  rfl

theorem Edge.decode_rearranged (e : Edge) : decode f (o e.encode) = .ok e := by
  have hkeys : ["source", "target", "type", "sourceFile"].Nodup := by decide
  refine Decode.record_rearranged ho hkeys fun r h => ?_
  have hsource : (required "source" Decode.text).Reads r e.source := Fields.reads_text ho h rfl
  have htarget : (required "target" Decode.text).Reads r e.target := Fields.reads_text ho h rfl
  have hkind : (required "type" EdgeKind.decode).Reads r e.kind :=
    Fields.reads_required h rfl (e.kind.decode_rearranged ho)
  have hsourceFile : (required "sourceFile" Decode.text).Reads r e.sourceFile :=
    Fields.reads_text ho h rfl
  exact (((hsource.map Edge.mk).seq htarget).seq hkind).seq hsourceFile

/-! ## Policies -/

theorem Plugin.decode_rearranged (p : Plugin) (hfree : ∀ x ∈ p.options.values, o x = x) :
    decode f (o p.encode) = .ok p := by
  have hkeys : ["plugin", "options"].Nodup := by decide
  refine Decode.record_rearranged ho hkeys fun r h => ?_
  have hpath : (required "plugin" Decode.text).Reads r p.path := Fields.reads_text ho h rfl
  have hoptions : (defaulted "options" (Decode.table Decode.any) .empty).Reads r p.options :=
    Fields.reads_defaulted h rfl (Decode.free_rearranged ho hfree) .empty
  exact (hpath.map Plugin.mk).seq hoptions

theorem TargetDefault.decode_rearranged (d : TargetDefault) : decode f (o d.encode) = .ok d := by
  have hkeys : ["dependsOn", "inputs"].Nodup := by decide
  refine Decode.record_rearranged ho hkeys fun r h => ?_
  have hdependsOn : (required "dependsOn" (Decode.list Decode.text)).Reads r d.dependsOn :=
    Fields.reads_required h rfl (Decode.texts_rearranged ho d.dependsOn)
  have hinputs : (required "inputs" (Decode.list Decode.text)).Reads r d.inputs :=
    Fields.reads_required h rfl (Decode.texts_rearranged ho d.inputs)
  exact (hdependsOn.map TargetDefault.mk).seq hinputs

theorem Policy.decode_rearranged (p : Policy)
    (hfree : ∀ q ∈ p.plugins, ∀ x ∈ q.options.values, o x = x) :
    decode f (o p.encode) = .ok p := by
  have hkeys : ["plugins", "targetDefaults", "namedInputs"].Nodup := by decide
  refine Decode.record_rearranged ho (hkeys.sublist ?_) fun r h => ?_
  · rw [List.map_append]
    exact (Value.keys_entryIf_sublist ..).append
      (List.Sublist.refl ["targetDefaults", "namedInputs"])
  · have hplugins : (defaulted "plugins" (Decode.list Plugin.decode) []).Reads r p.plugins :=
      Fields.reads_list_nonempty h (by simp [List.lookup_append, List.lookup_cons])
        (Decode.list_rearranged ho fun q hq => q.decode_rearranged ho (hfree q hq))
    have hdefaults : (defaulted "targetDefaults" (Decode.table TargetDefault.decode) .empty).Reads r
        p.targetDefaults :=
      Fields.reads_defaulted h (by simp [List.lookup_append])
        (Decode.table_rearranged_self ho fun d _ => d.decode_rearranged ho) .empty
    have hinputs : (defaulted "namedInputs" (Decode.table (Decode.list Decode.text)) .empty).Reads r
        p.namedInputs :=
      Fields.reads_defaulted h (by simp [List.lookup_append, List.lookup_cons])
        (Decode.table_rearranged_self ho fun l _ => Decode.texts_rearranged ho l) .empty
    exact ((hplugins.map Policy.mk).seq hdefaults).seq hinputs

/-! ## Results -/

theorem SyncResult.shownBy_rearranged (s : SyncResult)
    (hfree : ∀ x ∈ s.graph.externalNodes.values, o x = x) : s.ShownBy f (o s.encode) := by
  have hall : ["projects", "externalNodes", "dependencies"].Nodup := by decide
  have hkeys : ((s.graph.entries ++
      [("dependencies", Value.list (s.dependencies.map Edge.encode))]).map Prod.fst).Nodup := hall
  refine ⟨?_, s.graph.decode_rearranged ho hfree hkeys, ?_⟩
  · obtain ⟨entries, htable, hperm⟩ := ho.table _ hkeys
    exact ⟨entries, htable, hperm.map Prod.fst⟩
  · obtain ⟨entries, htable, hlookup⟩ := ho.exists_lookup hkeys
    refine ⟨o (.list (s.dependencies.map Edge.encode)), ?_, ?_⟩
    · rw [SyncResult.encode, htable]
      exact hlookup "dependencies"
    · exact Decode.list_rearranged ho fun e _ => e.decode_rearranged ho

end CrateGraph
