import CrateGraph.Proofs.Decode.Documents
import CrateGraph.Proofs.Json.Tree

/-!
# Documents are read back

Whatever is handed to the orchestrator is read back as what it was, from its tree and from its
text. Free-form trees are not the program's own: of them it is asked that they are JSON values,
whose tables are in the order of their keys, and for the text that a text can hold them inside
of what is around them.

## Main results

* `Document.shownBy_rearranged` — a document shows itself after its tree was rearranged.
* `Document.writable_encode` — a text can hold a document if it can hold what is free-form in it.
* `Document.readBack` — a document is read back from its tree and from its text.
-/

namespace CrateGraph

/-- What is handed to the orchestrator, as a whole or in part. -/
inductive Document where
  | node (n : Node)
  | target (t : Target)
  | fragment (g : Fragment)
  | edge (e : Edge)
  | policy (p : Policy)
  | result (r : SyncResult)

namespace Document

/-- The document as a tree. -/
def encode : Document → Value
  | .node n => n.encode
  | .target t => t.encode
  | .fragment g => g.encode
  | .edge e => e.encode
  | .policy p => p.encode
  | .result r => r.encode

/-- The free-form trees in a document, each with the number of lists and tables around it. -/
def freeTrees : Document → List (Nat × Value)
  | .fragment g => g.externalNodes.values.map (2, ·)
  | .policy p => p.plugins.flatMap fun q => q.options.values.map (4, ·)
  | .result r => r.graph.externalNodes.values.map (2, ·)
  | _ => []

/-- Whether the document can be decoded from a tree. The crates that nodes were made from are
not part of it. -/
def ShownBy (v : Value) : Document → Prop
  | .node n => Node.decode .json v = .ok n.withoutCrate
  | .target t => Target.decode .json v = .ok t
  | .fragment g => Fragment.decode .json v = .ok g.withoutCrates
  | .edge e => Edge.decode .json v = .ok e
  | .policy p => Policy.decode .json v = .ok p
  | .result r => r.ShownBy .json v

/-- A document is read back from its own tree, from the JSON value that its tree is, and from
its text. -/
structure ReadBack (d : Document) : Prop where
  tree : d.ShownBy d.encode
  /-- What is read back is a JSON value. It has its tables in the order of their keys, those of
  free-form trees too. -/
  value : (∀ x ∈ d.freeTrees, x.2.sorted = x.2) → d.ShownBy d.encode.sorted
  /-- Besides, the value can be written as a text and read from that. Free-form trees that are
  nested too deep for a reader, or hold a number that is rounded when it is read, are no part of a
  text, so this is about fewer documents than `value`. -/
  text : (∀ x ∈ d.freeTrees, x.2.sorted = x.2 ∧ x.2.Writable (Json.deepest - x.1)) →
    ∃ v, Json.parseText (Json.pretty d.encode) = .ok v ∧ d.ShownBy v

theorem shownBy_rearranged {o : Value → Value} (ho : Value.Rearranges o) {d : Document}
    (h : ∀ x ∈ d.freeTrees, o x.2 = x.2) : d.ShownBy (o d.encode) := by
  cases d with
  | node n => exact n.decode_rearranged ho
  | target t => exact t.decode_rearranged ho
  | fragment g =>
      have hboth : ["projects", "externalNodes"].Nodup := by decide
      have hkeys : ((g.entries ++ []).map Prod.fst).Nodup := hboth
      exact g.decode_rearranged ho (fun x hx => h (2, x) (List.mem_map_of_mem hx)) hkeys
  | edge e => exact e.decode_rearranged ho
  | policy p =>
      refine p.decode_rearranged ho fun q hq x hx => h (4, x) ?_
      exact List.mem_flatMap.2 ⟨q, hq, List.mem_map_of_mem hx⟩
  | result r => exact r.shownBy_rearranged ho fun x hx => h (2, x) (List.mem_map_of_mem hx)

end Document

/-! ## What a text can hold -/

section Writable

variable {room : Nat}

theorem Command.writable_encode (c : Command) : c.encode.Writable (room + 1) := by
  simp [encode, Value.writable_table, Value.writable_text]

theorem Target.writable_encode (t : Target) : t.encode.Writable (room + 2) := by
  have hoptions : (Value.ofOption Command.encode t.options).Writable (room + 1) := by
    cases t.options with
    | none => trivial
    | some c => exact c.writable_encode
  simp only [encode, Value.writable_table, List.forall_mem_append, List.forall_mem_singleton]
  exact ⟨⟨⟨⟨Value.writable_text _, Value.forall_mem_entryIf hoptions⟩,
    Value.forall_mem_entryIf (Value.writable_ofTexts _)⟩,
    Value.forall_mem_entryIf (Value.writable_ofTexts _)⟩,
    Value.forall_mem_entryIf (Value.writable_ofTexts _)⟩

theorem ProjectKind.writable_encode (k : ProjectKind) : k.encode.Writable room := by
  cases k
  exact Value.writable_text _

theorem Node.writable_encode (n : Node) : n.encode.Writable (room + 4) := by
  have htargets : (Value.ofTable Target.encode n.targets).Writable (room + 3) :=
    Value.writable_ofTable fun t _ => t.writable_encode
  rw [encode, Value.writable_table, List.forall_mem_append, List.forall_mem_append]
  refine ⟨⟨?_, Value.forall_mem_entryIf trivial⟩, ?_⟩
  · simp [Value.writable_text, ProjectKind.writable_encode]
  · simp [htargets, Value.writable_ofTexts]

theorem Fragment.writable_entries (g : Fragment)
    (h : ∀ x ∈ g.externalNodes.values, x.Writable (room + 4)) :
    ∀ e ∈ g.entries, e.2.Writable (room + 5) := by
  have hprojects : (Value.ofTable Node.encode g.projects).Writable (room + 5) :=
    Value.writable_ofTable fun n _ => n.writable_encode
  have hexternal : (Value.ofTable id g.externalNodes).Writable (room + 5) :=
    Value.writable_ofTable h
  simp [entries, hprojects, hexternal]

theorem Fragment.writable_encode (g : Fragment)
    (h : ∀ x ∈ g.externalNodes.values, x.Writable (room + 4)) : g.encode.Writable (room + 6) := by
  rw [encode, Value.writable_table]
  exact g.writable_entries h

theorem Edge.writable_encode (e : Edge) : e.encode.Writable (room + 1) := by
  have hkind : e.kind.encode.Writable room := Value.writable_text _
  simp [encode, Value.writable_table, Value.writable_text, hkind]

theorem SyncResult.writable_encode (s : SyncResult)
    (h : ∀ x ∈ s.graph.externalNodes.values, x.Writable (room + 4)) :
    s.encode.Writable (room + 6) := by
  have hedges : (Value.list (s.dependencies.map Edge.encode)).Writable (room + 5) := by
    rw [Value.writable_list, List.forall_mem_map]
    exact fun e _ => e.writable_encode
  rw [encode, Value.writable_table, List.forall_mem_append, List.forall_mem_singleton]
  exact ⟨s.graph.writable_entries h, hedges⟩

theorem Plugin.writable_encode (p : Plugin) (h : ∀ x ∈ p.options.values, x.Writable room) :
    p.encode.Writable (room + 2) := by
  have hoptions : (Value.ofTable id p.options).Writable (room + 1) := Value.writable_ofTable h
  simp [encode, Value.writable_table, Value.writable_text, hoptions]

theorem TargetDefault.writable_encode (d : TargetDefault) : d.encode.Writable (room + 2) := by
  simp [encode, Value.writable_table, Value.writable_ofTexts]

theorem Policy.writable_encode (p : Policy)
    (h : ∀ q ∈ p.plugins, ∀ x ∈ q.options.values, x.Writable room) :
    p.encode.Writable (room + 4) := by
  have hplugins : (Value.list (p.plugins.map Plugin.encode)).Writable (room + 3) := by
    rw [Value.writable_list, List.forall_mem_map]
    exact fun q hq => q.writable_encode (h q hq)
  have hdefaults : (Value.ofTable TargetDefault.encode p.targetDefaults).Writable (room + 3) :=
    Value.writable_ofTable fun d _ => d.writable_encode
  have hinputs : (Value.ofTable Value.ofTexts p.namedInputs).Writable (room + 3) :=
    Value.writable_ofTable fun l _ => Value.writable_ofTexts l
  rw [encode, Value.writable_table, List.forall_mem_append]
  exact ⟨Value.forall_mem_entryIf hplugins, by simp [hdefaults, hinputs]⟩

end Writable

namespace Document

/-- A text can hold a document if it can hold what is free-form in it. -/
theorem writable_encode {d : Document}
    (h : ∀ x ∈ d.freeTrees, x.2.Writable (Json.deepest - x.1)) :
    d.encode.Writable Json.deepest := by
  cases d with
  | node n => exact n.writable_encode
  | target t => exact t.writable_encode
  | fragment g => exact g.writable_encode fun x hx => h (2, x) (List.mem_map_of_mem hx)
  | edge e => exact e.writable_encode
  | policy p =>
      refine p.writable_encode fun q hq x hx => h (4, x) ?_
      exact List.mem_flatMap.2 ⟨q, hq, List.mem_map_of_mem hx⟩
  | result r => exact r.writable_encode fun x hx => h (2, x) (List.mem_map_of_mem hx)

/-- A document is read back from its tree and from its text. -/
theorem readBack (d : Document) : d.ReadBack where
  tree := d.shownBy_rearranged Value.id_rearranges fun _ _ => rfl
  value h := d.shownBy_rearranged Value.sorted_rearranges h
  text h := by
    have hwritable : d.encode.Writable Json.deepest := writable_encode fun x hx => (h x hx).2
    refine ⟨d.encode.sorted, Json.parseText_pretty hwritable, ?_⟩
    exact shownBy_rearranged Value.sorted_rearranges fun x hx => (h x hx).1

/-- A policy with free-form options, among them a number with a point, the least integer and
texts that are escaped. -/
def optionedPolicy : Policy where
  plugins := [⟨"crates", .ofList [("ratio", .real (.finite false 6755399441055744 (-52))),
    ("least", .int (-9223372036854775808)),
    ("notes", .table [("a\n", .text "\"é\x01"), ("b", .list [.null, .table []])])]⟩]
  targetDefaults := .empty
  namedInputs := .empty

theorem readBack_optioned :
    (∀ x ∈ (Document.policy optionedPolicy).freeTrees,
      x.2.sorted = x.2 ∧ x.2.Writable (Json.deepest - x.1)) ∧
    ∃ v, Json.parseText (Json.pretty optionedPolicy.encode) = .ok v ∧
      Policy.decode .json v = .ok optionedPolicy := by
  have hfree : (Document.policy optionedPolicy).freeTrees =
      [(4, .int (-9223372036854775808)),
        (4, .table [("a\n", .text "\"é\x01"), ("b", .list [.null, .table []])]),
        (4, .real (.finite false 6755399441055744 (-52)))] := by
    decide +kernel
  have hreal : Json.readNumber (Text.toBytes
      (Decimal.Layout.scientific.render (.finite false 6755399441055744 (-52)))) =
        .ok (.real (.finite false 6755399441055744 (-52)), []) := by
    decide +kernel
  have hall : ∀ x ∈ (Document.policy optionedPolicy).freeTrees,
      x.2.sorted = x.2 ∧ x.2.Writable (Json.deepest - x.1) := by
    rw [hfree]
    simp only [List.forall_mem_cons]
    refine ⟨⟨rfl, ?_⟩, ⟨by decide +kernel, ?_⟩, ⟨rfl, hreal⟩, nofun⟩
    · simp [Value.Writable, wordLimit]
    · simp [Value.Writable, Value.WritableEntries, Value.WritableItems, Json.deepest]
  exact ⟨hall, (readBack (.policy optionedPolicy)).text hall⟩

end Document

end CrateGraph
