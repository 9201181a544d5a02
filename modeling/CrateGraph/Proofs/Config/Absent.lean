import CrateGraph.Config
import CrateGraph.Proofs.Decode.Absent
import CrateGraph.Proofs.Json.Tree
import CrateGraph.Proofs.Text.Utf8

/-!
# Configurations with keys taken out

Defaults stand at several levels: a section that is absent has a default, a field that is absent
from a section has one, and the triggers and their plugin are not even written where there are
none. The law here is about every choice of keys at once, whole sections and fields of the
sections that stay: a configuration decodes from what is left of its tree with precisely the
missing parts reset, and the one way to fail is to lose a field of the triggers that has no
default.

A configuration has a tree if the program in it is given by a path that is text, or if none is
given.

## Main results

* `Config.exists_encode?_iff` — which configurations have a tree.

* `Naming.decode_without`, `Triggers.decode_without` and the others — one section.
* `Config.decode_apply` — all sections, whatever the order of the entries in the tree.
* `Config.lost?_eq_none_iff` — when nothing is missed.
* `Config.filledIn` — configurations are filled in from trees and from texts.
-/

namespace CrateGraph

open Fields (required defaulted)

/-! ## What is taken out -/

/-- A choice of keys to take out of the tree of a configuration. -/
structure Removal where
  /-- The sections that are taken out as a whole. -/
  sections : String → Bool
  /-- The fields that are taken out of each section. -/
  fields : String → String → Bool

/-- The tree of a configuration without the keys. -/
def Removal.apply (k : Removal) (v : Value) : Value :=
  (v.mapEntries fun key x => x.without (k.fields key)).without k.sections

/-- The settings with what is gone left open. -/
def MetadataSettings.reset (gone : String → Bool) (m : MetadataSettings) : MetadataSettings where
  program := if gone "program" then unset.program else m.program
  formatVersion := if gone "format_version" then unset.formatVersion else m.formatVersion
  noDeps := if gone "no_deps" then unset.noDeps else m.noDeps
  maxBuffer := if gone "max_buffer" then unset.maxBuffer else m.maxBuffer
  timeoutSecs := if gone "timeout_secs" then unset.timeoutSecs else m.timeoutSecs

/-- The naming with defaults for what is gone. -/
def Naming.reset (gone : String → Bool) (n : Naming) : Naming where
  structuralPrefix := if gone "prefix" then default.structuralPrefix else n.structuralPrefix
  explicit := if gone "explicit" then default.explicit else n.explicit
  names := if gone "names" then default.names else n.names

/-- The sources with defaults for what is gone. -/
def Sources.reset (gone : String → Bool) (s : Sources) : Sources where
  included := if gone "include" then default.included else s.included
  excluded := if gone "exclude" then default.excluded else s.excluded
  manifests := if gone "manifests" then default.manifests else s.manifests
  namedInput := if gone "named_input" then default.namedInput else s.namedInput

/-- The template with defaults for what is gone. -/
def Template.reset (gone : String → Bool) (t : Template) : Template where
  buildExecutor := if gone "build_executor" then default.buildExecutor else t.buildExecutor
  buildCommand := if gone "build_command" then default.buildCommand else t.buildCommand
  outputs := if gone "outputs" then default.outputs else t.outputs
  testExecutor := if gone "test_executor" then default.testExecutor else t.testExecutor
  lintExecutor := if gone "lint_executor" then default.lintExecutor else t.lintExecutor
  tags := if gone "tags" then default.tags else t.tags
  structuralTags := if gone "structural_tags" then default.structuralTags else t.structuralTags

namespace Triggers

/-- The fields that triggers cannot do without. -/
def indispensable : List String :=
  ["native_crate", "binding_project", "consumer_project", "binding_dir"]

/-- The triggers with defaults for what is gone of the other fields. -/
def reset (gone : String → Bool) (t : Triggers) : Triggers where
  nativeCrate := t.nativeCrate
  bindingProject := t.bindingProject
  consumerProject := t.consumerProject
  bindingDir := t.bindingDir
  consumerInputs := if gone "consumer_inputs" then defaultConsumerInputs else t.consumerInputs
  plugin := if gone "plugin" then none else t.plugin

end Triggers

namespace Config

/-- The configuration with defaults for what is taken out. -/
def reset (k : Removal) (c : Config) : Config where
  metadata :=
    if k.sections "metadata" then default.metadata else c.metadata.reset (k.fields "metadata")
  graph := if k.sections "graph" then default.graph else c.graph.reset (k.fields "graph")
  sources := if k.sections "sources" then default.sources else c.sources.reset (k.fields "sources")
  targets := if k.sections "targets" then default.targets else c.targets.reset (k.fields "targets")
  triggers :=
    if k.sections "triggers" then none else c.triggers.map (Triggers.reset (k.fields "triggers"))

/-- The first field that the triggers of a configuration cannot do without and that is taken out
of them, while they are left themselves. -/
def lost? (k : Removal) (c : Config) : Option String :=
  if c.triggers.isSome && !k.sections "triggers" then
    Triggers.indispensable.find? (k.fields "triggers")
  else none

/-- What a configuration decodes to with keys taken out. -/
def remainder (k : Removal) (c : Config) : Except DecodeError Config :=
  match c.lost? k with
  | none => .ok (c.reset k)
  | some key => .error (.missingField key)

end Config

/-! ## Configurations that have a tree -/

namespace MetadataSettings

/-- The tree of settings, if the path of the program is text or none is set. -/
theorem encode?_of_program {m : MetadataSettings} {program : Option String}
    (h : m.program = program.map Path.ofText) : m.encode? = some (.table [
      ("program", Value.ofOption .text program),
      ("format_version", Value.ofOption (fun n => .int n.toNat) m.formatVersion),
      ("no_deps", Value.ofOption .bool m.noDeps),
      ("max_buffer", Value.ofOption (fun n => .int n.toNat) m.maxBuffer),
      ("timeout_secs", Value.ofOption (fun n => .int n.toNat) m.timeoutSecs)]) := by
  rw [encode?, h]
  cases program with
  | none => rfl
  | some t =>
      have htext : (Path.ofText t).text? = some t := Text.ofBytes?_toBytes t
      simp only [Option.map_some, htext]
      rfl

theorem exists_program_of_encode? {m : MetadataSettings} {v : Value} (h : m.encode? = some v) :
    ∃ program : Option String, m.program = program.map Path.ofText := by
  cases hprogram : m.program with
  | none => exact ⟨none, rfl⟩
  | some p =>
      simp only [encode?, hprogram] at h
      obtain ⟨x, hx, -⟩ := Option.bind_eq_some_iff.1 h
      obtain ⟨t, ht, -⟩ := Option.map_eq_some_iff.1 hx
      exact ⟨some t, congrArg some (congrArg Path.mk (Text.eq_toBytes_of_ofBytes? ht))⟩

end MetadataSettings

/-- A configuration has a tree exactly if its program is given by a path that is text, if it is
given at all. -/
theorem Config.exists_encode?_iff {c : Config} : (∃ v, c.encode? = some v) ↔
    ∀ p, c.metadata.program = some p → ∃ t, p = .ofText t := by
  constructor
  · rintro ⟨v, hv⟩ p hp
    obtain ⟨m, hm, -⟩ := Option.bind_eq_some_iff.1 hv
    obtain ⟨program, hprogram⟩ := MetadataSettings.exists_program_of_encode? hm
    rw [hp] at hprogram
    obtain ⟨t, -, ht⟩ := Option.map_eq_some_iff.1 hprogram.symm
    exact ⟨t, ht.symm⟩
  · intro h
    have hprogram : ∃ program : Option String, c.metadata.program = program.map Path.ofText := by
      cases hp : c.metadata.program with
      | none => exact ⟨none, rfl⟩
      | some p =>
          obtain ⟨t, ht⟩ := h p hp
          exact ⟨some t, congrArg some ht⟩
    obtain ⟨program, hprogram⟩ := hprogram
    rw [encode?, MetadataSettings.encode?_of_program hprogram]
    exact ⟨_, rfl⟩

/-! ## Values that are decoded -/

section

variable {α : Type} {o : Value → Value} (ho : Value.Rearranges o) {f : Format}

namespace Decode

/-- A value that may be absent is written as null where it is. -/
theorem option_rearranged (ho : Value.Rearranges o) (d : Decoder α) (encode : α → Value)
    (hscalar : ∀ a, (encode a).record? = none ∧ encode a ≠ .null)
    (h : ∀ a, d f (encode a) = .ok a) (a : Option α) :
    option d f (o (Value.ofOption encode a)) = .ok a := by
  cases a with
  | none => rw [Value.ofOption, ho.scalar _ rfl]; rfl
  | some a =>
      obtain ⟨hrecord, hnull⟩ := hscalar a
      rw [Value.ofOption, ho.scalar _ hrecord, option, h a]
      · rfl
      · exact hnull

theorem word32_int (n : UInt32) : word32 f (.int n.toNat) = .ok n := by
  have hn : natural 4294967296 "u32" f (.int n.toNat) = .ok n.toNat :=
    (natural_ok_iff _ _ f _ _).2 ⟨n.toNat_lt, rfl⟩
  rw [word32, hn]
  exact congrArg Except.ok UInt32.ofNat_toNat

theorem word64_int (wanted : String) (n : UInt64) : word64 wanted f (.int n.toNat) = .ok n := by
  have hn : natural wordLimit wanted f (.int n.toNat) = .ok n.toNat :=
    (natural_ok_iff _ _ f _ _).2 ⟨n.toNat_lt, rfl⟩
  rw [word64, hn]
  exact congrArg Except.ok UInt64.ofNat_toNat

/-- A program is written as the text that its path is. -/
theorem program_rearranged (ho : Value.Rearranges o) (program : Option String) :
    option (fun f v => (textAs "path string" f v).map Path.ofText) f
      (o (Value.ofOption .text program)) = .ok (program.map Path.ofText) := by
  cases program <;> (rw [Value.ofOption, ho.scalar _ rfl]; rfl)

end Decode

/-! ## Sections -/

include ho

theorem MetadataSettings.decode_without (gone : String → Bool) {m : MetadataSettings} {v : Value}
    (hv : m.encode? = some v) : decode f (o (v.without gone)) = .ok (m.reset gone) := by
  obtain ⟨program, hprogram⟩ := exists_program_of_encode? hv
  rw [encode?_of_program hprogram] at hv
  obtain rfl := Option.some.inj hv
  have hkeys : ["program", "format_version", "no_deps", "max_buffer", "timeout_secs"].Nodup := by
    decide
  refine Decode.record_rearranged ho (Value.nodup_keys_without gone hkeys) fun r h => ?_
  have hprogram := Fields.reads_defaulted_without "program" h rfl
    (hprogram ▸ Decode.program_rearranged ho program) unset.program
  have hformatVersion := Fields.reads_defaulted_without "format_version" h rfl
    (Decode.option_rearranged ho Decode.word32 (fun n => .int n.toNat) (fun _ => ⟨rfl, nofun⟩)
      Decode.word32_int m.formatVersion) unset.formatVersion
  have hnoDeps := Fields.reads_defaulted_without "no_deps" h rfl
    (Decode.option_rearranged ho Decode.bool .bool (fun _ => ⟨rfl, nofun⟩) (fun _ => rfl)
      m.noDeps) unset.noDeps
  have hmaxBuffer := Fields.reads_defaulted_without "max_buffer" h rfl
    (Decode.option_rearranged ho (Decode.word64 "usize") (fun n => .int n.toNat)
      (fun _ => ⟨rfl, nofun⟩) (Decode.word64_int "usize") m.maxBuffer) unset.maxBuffer
  have htimeoutSecs := Fields.reads_defaulted_without "timeout_secs" h rfl
    (Decode.option_rearranged ho (Decode.word64 "u64") (fun n => .int n.toNat)
      (fun _ => ⟨rfl, nofun⟩) (Decode.word64_int "u64") m.timeoutSecs) unset.timeoutSecs
  exact ((((hprogram.map MetadataSettings.mk).seq hformatVersion).seq hnoDeps).seq
    hmaxBuffer).seq htimeoutSecs

theorem Naming.decode_without (gone : String → Bool) (n : Naming) :
    decode f (o (n.encode.without gone)) = .ok (n.reset gone) := by
  have hkeys : ["prefix", "explicit", "names"].Nodup := by decide
  refine Decode.record_rearranged ho (Value.nodup_keys_without gone hkeys) fun r h => ?_
  have hstructural := Fields.reads_defaulted_without "prefix" h rfl
    (Decode.text_rearranged ho n.structuralPrefix) default.structuralPrefix
  have hexplicit := Fields.reads_defaulted_without "explicit" h rfl
    (Decode.texts_rearranged ho n.explicit) default.explicit
  have hnames := Fields.reads_defaulted_without "names" h rfl
    (Decode.table_rearranged_self ho fun s _ => Decode.text_rearranged ho s) default.names
  exact ((hstructural.map Naming.mk).seq hexplicit).seq hnames

theorem Sources.decode_without (gone : String → Bool) (s : Sources) :
    decode f (o (s.encode.without gone)) = .ok (s.reset gone) := by
  have hkeys : ["include", "exclude", "manifests", "named_input"].Nodup := by decide
  refine Decode.record_rearranged ho (Value.nodup_keys_without gone hkeys) fun r h => ?_
  have hincluded := Fields.reads_defaulted_without "include" h rfl
    (Decode.texts_rearranged ho s.included) default.included
  have hexcluded := Fields.reads_defaulted_without "exclude" h rfl
    (Decode.texts_rearranged ho s.excluded) default.excluded
  have hmanifests := Fields.reads_defaulted_without "manifests" h rfl
    (Decode.texts_rearranged ho s.manifests) default.manifests
  have hnamedInput := Fields.reads_defaulted_without "named_input" h rfl
    (Decode.text_rearranged ho s.namedInput) default.namedInput
  exact (((hincluded.map Sources.mk).seq hexcluded).seq hmanifests).seq hnamedInput

theorem Template.decode_without (gone : String → Bool) (t : Template) :
    decode f (o (t.encode.without gone)) = .ok (t.reset gone) := by
  have hkeys : ["build_executor", "build_command", "outputs", "test_executor", "lint_executor",
      "tags", "structural_tags"].Nodup := by decide
  refine Decode.record_rearranged ho (Value.nodup_keys_without gone hkeys) fun r h => ?_
  have hbuildExecutor := Fields.reads_defaulted_without "build_executor" h rfl
    (Decode.text_rearranged ho t.buildExecutor) default.buildExecutor
  have hbuildCommand := Fields.reads_defaulted_without "build_command" h rfl
    (Decode.text_rearranged ho t.buildCommand) default.buildCommand
  have houtputs := Fields.reads_defaulted_without "outputs" h rfl
    (Decode.texts_rearranged ho t.outputs) default.outputs
  have htestExecutor := Fields.reads_defaulted_without "test_executor" h rfl
    (Decode.text_rearranged ho t.testExecutor) default.testExecutor
  have hlintExecutor := Fields.reads_defaulted_without "lint_executor" h rfl
    (Decode.text_rearranged ho t.lintExecutor) default.lintExecutor
  have htags := Fields.reads_defaulted_without "tags" h rfl
    (Decode.texts_rearranged ho t.tags) default.tags
  have hstructuralTags := Fields.reads_defaulted_without "structural_tags" h rfl
    (Decode.texts_rearranged ho t.structuralTags) default.structuralTags
  exact ((((((hbuildExecutor.map Template.mk).seq hbuildCommand).seq houtputs).seq
    htestExecutor).seq hlintExecutor).seq htags).seq hstructuralTags

namespace Triggers

omit ho in
theorem nodup_keys : (indispensable ++ ["consumer_inputs", "plugin"]).Nodup := by decide

omit ho in
theorem exists_encode (t : Triggers) :
    ∃ entries, t.encode = .table entries ∧ (entries.map Prod.fst).Nodup := by
  refine ⟨_, rfl, Value.nodup_keys_entryIf ?_ _ _⟩
  exact nodup_keys

omit ho in
/-- Of the fields that are missed the first one is noticed. -/
theorem missed_indispensable (gone : String → Bool) :
    (((Fields.missed gone "native_crate").or (Fields.missed gone "binding_project")).or
      (Fields.missed gone "consumer_project")).or (Fields.missed gone "binding_dir") =
        (indispensable.find? gone).map .missingField := by
  simp only [indispensable, List.find?_cons, Fields.missed]
  cases gone "native_crate" <;> cases gone "binding_project" <;>
    cases gone "consumer_project" <;> cases gone "binding_dir" <;> rfl

theorem decode_without (gone : String → Bool) (t : Triggers) :
    decode f (o (t.encode.without gone)) =
      Decode.orFault ((indispensable.find? gone).map .missingField) (t.reset gone) := by
  refine Decode.record_without ho (Value.nodup_keys_entryIf ?_ _ _) fun r h => ?_
  · exact nodup_keys
  · obtain ⟨left, hleft, -⟩ := h.record
    refine ⟨left.length, ?_⟩
    have hnativeCrate := Fields.gives_required_without "native_crate" h hleft rfl
      (Decode.text_rearranged ho t.nativeCrate)
    have hbindingProject := Fields.gives_required_without "binding_project" h hleft rfl
      (Decode.text_rearranged ho t.bindingProject)
    have hconsumerProject := Fields.gives_required_without "consumer_project" h hleft rfl
      (Decode.text_rearranged ho t.consumerProject)
    have hbindingDir := Fields.gives_required_without "binding_dir" h hleft rfl
      (Decode.text_rearranged ho t.bindingDir)
    have hconsumerInputs := Fields.reads_defaulted_without "consumer_inputs" h rfl
      (Decode.texts_rearranged ho t.consumerInputs) defaultConsumerInputs
    have hplugin := Fields.reads_option_without "plugin" .text t.plugin h
      (by cases t.plugin <;> rfl) fun plugin => Decode.option_rearranged ho Decode.text .text
        (fun _ => ⟨rfl, nofun⟩) (fun _ => rfl) (some plugin)
    have hall := (((((hnativeCrate.map Triggers.mk).seq hbindingProject).seq hconsumerProject).seq
      hbindingDir).seq (hconsumerInputs.gives _)).seq (hplugin.gives _)
    rwa [Option.or_none, Option.or_none, missed_indispensable] at hall

/-- A table is not null, so triggers that are there are decoded. -/
theorem option_without (gone : String → Bool) (t : Triggers) :
    Decode.option decode f (o (t.encode.without gone)) =
      Decode.orFault ((indispensable.find? gone).map .missingField) (some (t.reset gone)) := by
  have hdecode := decode_without ho (f := f) gone t
  obtain ⟨entries, hencode, hkeys⟩ := t.exists_encode
  obtain ⟨left, htable, -⟩ := ho.table _ (Value.nodup_keys_without gone hkeys)
  rw [hencode, Value.without, htable] at hdecode ⊢
  rw [Decode.option, hdecode]
  · cases indispensable.find? gone <;> rfl
  · exact Value.noConfusion

end Triggers

/-! ## Configurations -/

namespace Config

/-- The triggers are read from an entry that is left out where there are none. -/
theorem gives_triggers (k : Removal) (c : Config) {r : Reading} {entries : List (String × Value)}
    (h : r.Shows o f (entries.filter fun e => !k.sections e.1))
    (hv : entries.lookup "triggers" =
      c.triggers.map fun t => t.encode.without (k.fields "triggers")) :
    ∃ place, (defaulted "triggers" (Decode.option Triggers.decode) none).Gives r place
      ((c.lost? k).map .missingField) (c.reset k).triggers := by
  cases ht : c.triggers with
  | none =>
      have hnone : (defaulted "triggers" (Decode.option Triggers.decode) none).Reads r none := by
        refine Fields.reads_defaulted_of_none h ?_
        rw [Value.lookup_without, hv, ht, Option.map_none, ite_self]
      refine ⟨0, ?_⟩
      simpa [lost?, reset, ht] using hnone.gives 0
  | some t =>
      rw [ht] at hv
      obtain ⟨place, hplace⟩ := Fields.gives_defaulted_without "triggers" h hv
        (t.option_without ho (k.fields "triggers")) none
      refine ⟨place, ?_⟩
      cases hgone : k.sections "triggers" <;> simpa [lost?, reset, ht, hgone] using hplace

/-- A configuration with keys taken out decodes to what remains of it. -/
theorem decode_apply (k : Removal) {c : Config} {v : Value} (hv : c.encode? = some v) :
    decode f (o (k.apply v)) = c.remainder k := by
  obtain ⟨metadata, hmetadata, htable⟩ := Option.bind_eq_some_iff.1 hv
  obtain rfl := Option.some.inj htable
  have hremainder : c.remainder k =
      Decode.orFault ((c.lost? k).map .missingField) (c.reset k) := by
    rw [remainder]
    cases c.lost? k <;> rfl
  have hkeys : ["metadata", "graph", "sources", "targets", "triggers"].Nodup := by decide
  rw [hremainder]
  refine Decode.record_without ho ?_ fun r h => ?_
  · rw [List.map_map]
    refine Value.nodup_keys_entryIf ?_ _ _
    exact hkeys
  · have hmetadata := Fields.reads_defaulted_without "metadata" h rfl
      (MetadataSettings.decode_without ho (k.fields "metadata") hmetadata) default.metadata
    have hgraph := Fields.reads_defaulted_without "graph" h rfl
      (c.graph.decode_without ho (k.fields "graph")) default.graph
    have hsources := Fields.reads_defaulted_without "sources" h rfl
      (c.sources.decode_without ho (k.fields "sources")) default.sources
    have htargets := Fields.reads_defaulted_without "targets" h rfl
      (c.targets.decode_without ho (k.fields "targets")) default.targets
    obtain ⟨place, htriggers⟩ := c.gives_triggers ho k h (by cases c.triggers <;> rfl)
    have hsections := (((hmetadata.map Config.mk).seq hgraph).seq hsources).seq htargets
    exact ⟨place, (hsections.gives place).seq htriggers⟩

end Config

end

/-! ## What a text can hold -/

section Writable

variable {room : Nat}

/-- A text can hold what is left of a tree that it can hold. -/
theorem Value.writable_without {v : Value} (gone : String → Bool) (h : v.Writable room) :
    (v.without gone).Writable room := by
  cases v with
  | table entries =>
      obtain ⟨hroom, hentries⟩ := h
      rw [writableEntries_iff] at hentries
      refine ⟨hroom, (writableEntries_iff _ _).2 fun e he => ?_⟩
      exact hentries e (List.mem_filter.1 he).1
  | _ => exact h

theorem Value.writable_mapEntries {v : Value} {g : String → Value → Value}
    (hg : ∀ key x room, x.Writable room → (g key x).Writable room) (h : v.Writable room) :
    (v.mapEntries g).Writable room := by
  cases v with
  | table entries =>
      obtain ⟨hroom, hentries⟩ := h
      rw [writableEntries_iff] at hentries
      refine ⟨hroom, (writableEntries_iff _ _).2 (List.forall_mem_map.2 fun e he => ?_)⟩
      exact hg e.1 e.2 _ (hentries e he)
  | _ => exact h

theorem Removal.writable_apply {v : Value} (k : Removal) (h : v.Writable room) :
    (k.apply v).Writable room :=
  Value.writable_without _ (Value.writable_mapEntries (fun _ _ _ => Value.writable_without _) h)

theorem MetadataSettings.writable_of_encode? {m : MetadataSettings} {v : Value}
    (hv : m.encode? = some v) : v.Writable (room + 1) := by
  have h32 : ∀ n : UInt32, (Value.int n.toNat).Writable room := by
    intro n
    have hlt := n.toNat_lt
    simp only [Value.Writable, wordLimit]
    omega
  have h64 : ∀ n : UInt64, (Value.int n.toNat).Writable room := by
    intro n
    have hlt := n.toNat_lt
    simp only [Value.Writable, wordLimit]
    omega
  have hbool : ∀ b, (Value.bool b).Writable room := fun _ => trivial
  obtain ⟨program, hprogram⟩ := exists_program_of_encode? hv
  rw [encode?_of_program hprogram] at hv
  obtain rfl := Option.some.inj hv
  simp only [Value.writable_table, List.forall_mem_cons]
  exact ⟨Value.writable_ofOption Value.writable_text _, Value.writable_ofOption h32 _,
    Value.writable_ofOption hbool _, Value.writable_ofOption h64 _,
    Value.writable_ofOption h64 _, List.forall_mem_nil _⟩

theorem Naming.writable_encode (n : Naming) : n.encode.Writable (room + 2) := by
  have hnames : (Value.ofTable Value.text n.names).Writable (room + 1) :=
    Value.writable_ofTable fun _ _ => Value.writable_text _
  simp [encode, Value.writable_table, Value.writable_text, Value.writable_ofTexts, hnames]

theorem Sources.writable_encode (s : Sources) : s.encode.Writable (room + 2) := by
  simp [encode, Value.writable_table, Value.writable_text, Value.writable_ofTexts]

theorem Template.writable_encode (t : Template) : t.encode.Writable (room + 2) := by
  simp [encode, Value.writable_table, Value.writable_text, Value.writable_ofTexts]

theorem Triggers.writable_encode (t : Triggers) : t.encode.Writable (room + 2) := by
  have hplugin : (Value.ofOption .text t.plugin).Writable (room + 1) :=
    Value.writable_ofOption (fun _ => Value.writable_text _) t.plugin
  rw [encode, Value.writable_table, List.forall_mem_append]
  refine ⟨?_, Value.forall_mem_entryIf hplugin⟩
  simp [Value.writable_text, Value.writable_ofTexts]

theorem Config.writable_of_encode? {c : Config} {v : Value} (hv : c.encode? = some v) :
    v.Writable (room + 3) := by
  obtain ⟨metadata, hmetadata, htable⟩ := Option.bind_eq_some_iff.1 hv
  obtain rfl := Option.some.inj htable
  have htriggers : (Value.ofOption Triggers.encode c.triggers).Writable (room + 2) :=
    Value.writable_ofOption (fun t => t.writable_encode) c.triggers
  rw [Value.writable_table, List.forall_mem_append]
  refine ⟨?_, Value.forall_mem_entryIf htriggers⟩
  simp [MetadataSettings.writable_of_encode? hmetadata, Naming.writable_encode,
    Sources.writable_encode, Template.writable_encode]

end Writable

/-! ## What is read back -/

namespace Config

/-- Decoding a configuration from its tree with keys taken out fills in exactly these: what is left
is kept as it is, and what is gone has its default. -/
structure FilledIn (k : Removal) (c : Config) (v : Value) : Prop where
  tree : decode .json (k.apply v) = c.remainder k
  /-- A JSON value has its tables in the order of their keys. -/
  value : decode .json (k.apply v).sorted = c.remainder k
  text : ∃ w, Json.parseText (Json.pretty (k.apply v)) = .ok w ∧ decode .json w = c.remainder k
  succeeds : (∀ key ∈ Triggers.indispensable, c.triggers.isSome → k.sections "triggers" = false →
    k.fields "triggers" key = false) → c.remainder k = .ok (c.reset k)
  /-- Triggers that are left fail without a field that has no default. -/
  fails : ∀ key ∈ Triggers.indispensable, c.triggers.isSome → k.sections "triggers" = false →
    k.fields "triggers" key = true → ∃ first ∈ Triggers.indispensable,
      k.fields "triggers" first = true ∧ c.remainder k = .error (.missingField first)
  nothing : (∀ name, k.sections name = false) → (∀ name key, k.fields name key = false) →
    c.remainder k = .ok c

/-- Nothing is lost exactly if triggers that are left have every field that they cannot do
without. -/
theorem lost?_eq_none_iff (k : Removal) (c : Config) :
    c.lost? k = none ↔ ∀ key ∈ Triggers.indispensable, c.triggers.isSome →
      k.sections "triggers" = false → k.fields "triggers" key = false := by
  unfold lost?
  by_cases h : c.triggers.isSome = true ∧ k.sections "triggers" = false
  · simp [h, List.find?_eq_none]
  · have hcond : (c.triggers.isSome && !k.sections "triggers") = false := by
      simpa using h
    simp only [hcond, Bool.false_eq_true, if_false, true_iff]
    exact fun key _ hsome hleft => absurd ⟨hsome, hleft⟩ h

theorem of_lost? {k : Removal} {c : Config} {key : String} (h : c.lost? k = some key) :
    key ∈ Triggers.indispensable ∧ k.fields "triggers" key = true := by
  unfold lost? at h
  split at h
  · exact ⟨List.mem_of_find?_eq_some h, List.find?_some h⟩
  · cases h

/-- A configuration of which nothing is gone is kept. -/
theorem reset_of_nothing {k : Removal} (hsections : ∀ name, k.sections name = false)
    (hfields : ∀ name key, k.fields name key = false) (c : Config) : c.reset k = c := by
  have htriggers : Triggers.reset (k.fields "triggers") = id := by
    funext t
    simp [Triggers.reset, hfields]
  simp [reset, MetadataSettings.reset, Naming.reset, Sources.reset, Template.reset, htriggers,
    hsections, hfields]

theorem filledIn_of_encode? (k : Removal) {c : Config} {v : Value} (hv : c.encode? = some v) :
    c.FilledIn k v where
  tree := decode_apply Value.id_rearranges k hv
  value := decode_apply Value.sorted_rearranges k hv
  text := by
    have hwritable : (k.apply v).Writable Json.deepest :=
      k.writable_apply (writable_of_encode? hv)
    refine ⟨(k.apply v).sorted, Json.parseText_pretty hwritable, ?_⟩
    exact decode_apply Value.sorted_rearranges k hv
  succeeds h := by
    rw [remainder, (c.lost?_eq_none_iff k).2 h]
  fails key hkey hsome hleft hgone := by
    cases hlost : c.lost? k with
    | none =>
        have hkept := (c.lost?_eq_none_iff k).1 hlost key hkey hsome hleft
        exact absurd hgone (by simp [hkept])
    | some first =>
        obtain ⟨hfirst, hmissed⟩ := of_lost? hlost
        exact ⟨first, hfirst, hmissed, by rw [remainder, hlost]⟩
  nothing hsections hfields := by
    have hlost : c.lost? k = none :=
      (c.lost?_eq_none_iff k).2 fun key _ _ _ => hfields "triggers" key
    rw [remainder, hlost, reset_of_nothing hsections hfields]

/-- What is taken out of a configuration is filled in with its defaults when it is decoded. A
configuration has a tree if its program is given by a path that is text. -/
theorem filledIn (k : Removal) (c : Config)
    (h : ∀ p, c.metadata.program = some p → ∃ t, p = .ofText t) :
    ∃ v, c.encode? = some v ∧ c.FilledIn k v := by
  obtain ⟨v, hv⟩ := exists_encode?_iff.2 h
  exact ⟨v, hv, filledIn_of_encode? k hv⟩

/-- A configuration with a program, names and sources of its own. -/
def programConfig : Config :=
  { Config.default with
    metadata := { MetadataSettings.unset with program := some (.ofText "tool") }
    graph := { Naming.default with explicit := ["core"] }
    sources := { Sources.default with namedInput := "crates" } }

/-- The choice of the whole naming and of every field of the sources. -/
def sourcesRemoval : Removal := ⟨fun name => name == "graph", fun name _ => name == "sources"⟩

theorem filledIn_programConfig :
    (∀ p, programConfig.metadata.program = some p → ∃ t, p = .ofText t) ∧
      ∃ v, programConfig.encode? = some v ∧ decode .json (sourcesRemoval.apply v) =
        .ok { Config.default with metadata := programConfig.metadata } := by
  have htext : ∀ p, programConfig.metadata.program = some p → ∃ t, p = .ofText t := by
    intro p hp
    exact ⟨"tool", (Option.some.inj hp).symm⟩
  obtain ⟨v, hv, hfilled⟩ := filledIn sourcesRemoval programConfig htext
  exact ⟨htext, v, hv, hfilled.tree⟩

end Config

end CrateGraph
