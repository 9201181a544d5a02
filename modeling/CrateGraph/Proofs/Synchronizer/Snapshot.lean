import CrateGraph.Proofs.FileTree
import CrateGraph.Proofs.Graph.Locations
import CrateGraph.Proofs.Synchronizer.Replies

/-!
# Working on a snapshot

A synchronizer asks its source about a root once and works with that answer from then on. If
the paths of files stay what they are meanwhile, it cannot be told from one that was given a
snapshot of all workspaces: the outcome of each operation is a function of the configuration,
the normalized root, and the first answer about that root. What was done before or between,
and how a root is written, does not matter.

## Main results

* `outcome_congr` — an outcome does not depend on how a root is written.
* `answer_eq` — the outcome of one query, and the progress after it.
* `run_eq`, `outcomes_start`, `asked_start` — the same of all operations of a run.
* `worksOnSnapshot` — what follows for the outcomes.
-/

namespace CrateGraph

open Metadata

variable {σ : Type}

/-! ## Outcomes as functions -/

/-- What a query gives for a workspace at a root. -/
def Query.outcome (c : Config) (root : Path) (w : Workspace) : Query → Outcome σ
  | .metadata => .workspace w
  | .nodes => .graph (buildNodes root w c).1
  | .dependencies g => .edges (buildEdges root w g)
  | .synchronize =>
    .result ⟨(buildNodes root w c).1.fragment, buildEdges root w (buildNodes root w c).1⟩
  | .missingExplicit => .names (c.graph.explicit.filter fun name => (w.member? name).isNone)

/-- What an operation gives for the workspaces at normalized roots. -/
def Operation.outcome (s : Synchronizer σ) (normalize : Path → Path)
    (workspaceAt : Path → Workspace) : Operation → Outcome σ
  | .ask root query => query.outcome s.config (normalize root) (workspaceAt (normalize root))
  | .policy => .policy (.ofConfig s.config)
  | .config => .config s.config
  | .source => .source s.source

/-- An outcome does not depend on how a root is written. -/
theorem Query.outcome_congr {root root' : Path} (h : root.Same root') (c : Config)
    (w : Workspace) (query : Query) :
    (query.outcome c root w : Outcome σ) = query.outcome c root' w := by
  cases query with
  | metadata => rfl
  | nodes => simp only [outcome, buildNodes_congr h]
  | dependencies g => simp only [outcome, buildEdges_congr h]
  | synchronize => simp only [outcome, buildNodes_congr h, buildEdges_congr h]
  | missingExplicit => rfl

/-! ## One operation -/

namespace Synchronizer

variable {s : Synchronizer σ} {start : σ} {roots : List Path} {p : Progress σ}

theorem run_map {α : Type} {x : Sync σ α} {a : α} {p' : Progress σ} (h : x.run p = (a, p'))
    (f : α → Outcome σ) : (f <$> x).run p = (f a, p') := by
  have hrun : (f <$> x).run p = (f (x.run p).1, (x.run p).2) := rfl
  rw [hrun, h]

/-- The normalized forms of roots, before anything was asked. -/
def normalizedAt (s : Synchronizer σ) (start : σ) (root : Path) : Path :=
  (s.source.machine start).normalize root

/-- The normalized roots of queries, the first of each. -/
def firstUses (s : Synchronizer σ) (start : σ) (operations : List Operation) : List Path :=
  First.firsts Path.components ((operations.filterMap Operation.root?).map (s.normalizedAt start))

/-- What the source says about a normalized root that comes after others. -/
def answerAfter (s : Synchronizer σ) (start : σ) (roots : List Path) (root : Path) : Workspace :=
  firstAnswer (s.source.replies (First.firsts Path.components (roots ++ [root])) start) root

theorem normalized_eq (hfixed : s.source.KeepsPaths) (h : p.Records s.source start roots)
    (root : Path) : s.normalized p root = s.normalizedAt start root := by
  rw [normalized, normalizedAt, h.state, Source.normalize_after hfixed]

section Queries

variable (hfixed : s.source.KeepsPaths) (h : p.Records s.source start roots) (root : Path)

include hfixed h

theorem metadata_eq :
    ∃ p', (s.metadata root).run p =
        (s.answerAfter start roots (s.normalizedAt start root), p') ∧
      p'.Records s.source start (roots ++ [s.normalizedAt start root]) := by
  obtain ⟨p', hrun, hrecords⟩ := h.metadata root
  rw [normalized_eq hfixed h] at hrun hrecords
  exact ⟨p', by rw [hrun, answerAfter, hrecords.asked], hrecords⟩

theorem nodes_eq :
    ∃ p', (s.nodes root).run p = ((buildNodes (s.normalizedAt start root)
        (s.answerAfter start roots (s.normalizedAt start root)) s.config).1, p') ∧
      p'.Records s.source start (roots ++ [s.normalizedAt start root]) := by
  obtain ⟨p', hrun, hrecords⟩ := metadata_eq hfixed h root
  have hnodes := run_nodes hrun
  rw [normalized_eq hfixed hrecords] at hnodes
  exact ⟨_, hnodes, hrecords.tell fun e he => isFetchFailed_of_mem_buildNodes he⟩

theorem dependencies_eq (g : ProjectGraph) :
    ∃ p', (s.dependencies root g).run p = (buildEdges (s.normalizedAt start root)
        (s.answerAfter start roots (s.normalizedAt start root)) g, p') ∧
      p'.Records s.source start (roots ++ [s.normalizedAt start root]) := by
  obtain ⟨p', hrun, hrecords⟩ := metadata_eq hfixed h root
  have hedges := run_dependencies hrun g
  rw [normalized_eq hfixed hrecords] at hedges
  exact ⟨p', hedges, hrecords⟩

/-- Nodes and edges are made of one answer, though the metadata is read twice. -/
theorem synchronize_eq :
    ∃ p' w, w = s.answerAfter start roots (s.normalizedAt start root) ∧
      (s.synchronize root).run p =
        (⟨(buildNodes (s.normalizedAt start root) w s.config).1.fragment,
          buildEdges (s.normalizedAt start root) w
            (buildNodes (s.normalizedAt start root) w s.config).1⟩, p') ∧
      p'.Records s.source start (roots ++ [s.normalizedAt start root]) := by
  obtain ⟨p', hnodes, hrecords⟩ := nodes_eq hfixed h root
  obtain ⟨p'', hedges, hrecords'⟩ := dependencies_eq hfixed hrecords root
    (buildNodes (s.normalizedAt start root)
      (s.answerAfter start roots (s.normalizedAt start root)) s.config).1
  have hused : s.normalizedAt start root ∈ roots ++ [s.normalizedAt start root] := by simp
  have hanswer : s.answerAfter start (roots ++ [s.normalizedAt start root])
      (s.normalizedAt start root) = s.answerAfter start roots (s.normalizedAt start root) :=
    firstAnswer_firsts_append hused _ s.source start
  have hagain : p''.Records s.source start (roots ++ [s.normalizedAt start root]) :=
    { hrecords' with asked := by rw [hrecords'.asked, First.firsts_append_of_mem hused] }
  rw [hanswer] at hedges
  refine ⟨_, _, rfl, run_synchronize hnodes hedges, hagain.tell ?_⟩
  intro e he
  rw [List.mem_singleton.1 he, summary]
  split <;> rfl

/-- The outcome of a query, and the progress after it. -/
theorem answer_eq (query : Query) :
    ∃ p', (s.answer root query).run p = (query.outcome s.config (s.normalizedAt start root)
        (s.answerAfter start roots (s.normalizedAt start root)), p') ∧
      p'.Records s.source start (roots ++ [s.normalizedAt start root]) := by
  cases query with
  | metadata =>
      obtain ⟨p', hrun, hrecords⟩ := metadata_eq hfixed h root
      exact ⟨p', run_map hrun .workspace, hrecords⟩
  | nodes =>
      obtain ⟨p', hrun, hrecords⟩ := nodes_eq hfixed h root
      exact ⟨p', run_map hrun .graph, hrecords⟩
  | dependencies g =>
      obtain ⟨p', hrun, hrecords⟩ := dependencies_eq hfixed h root g
      exact ⟨p', run_map hrun .edges, hrecords⟩
  | synchronize =>
      obtain ⟨p', w, rfl, hrun, hrecords⟩ := synchronize_eq hfixed h root
      exact ⟨p', run_map hrun .result, hrecords⟩
  | missingExplicit =>
      obtain ⟨p', hrun, hrecords⟩ := metadata_eq hfixed h root
      exact ⟨p', run_map (run_missingExplicit hrun) .names, hrecords⟩

end Queries

/-! ## Runs -/

/-- The outcomes of a run, and the progress after it: every operation gives what it gives
for the answers that the source was to give in the run as a whole. -/
theorem run_eq (hfixed : s.source.KeepsPaths) (h : p.Records s.source start roots)
    (operations : List Operation) :
    s.outcomes operations p = operations.map (Operation.outcome s (s.normalizedAt start)
        (firstAnswer (s.source.replies (First.firsts Path.components (roots ++
          (operations.filterMap Operation.root?).map (s.normalizedAt start))) start))) ∧
      (s.progress operations p).Records s.source start
        (roots ++ (operations.filterMap Operation.root?).map (s.normalizedAt start)) := by
  induction operations generalizing p roots with
  | nil => exact ⟨rfl, by simpa [progress_nil] using h⟩
  | cons o operations ih =>
      rw [outcomes_cons, progress_cons, List.map_cons]
      cases o with
      | ask root query =>
          obtain ⟨p', hrun, hrecords⟩ := answer_eq hfixed h root query
          obtain ⟨houtcomes, hprogress⟩ := ih hrecords
          have hstep : (s.perform (.ask root query)).run p = (s.answer root query).run p := rfl
          have hused : s.normalizedAt start root ∈ roots ++ [s.normalizedAt start root] := by simp
          -- The answer that was used is also the first one of the whole run.
          have hanswer := firstAnswer_firsts_append hused
            ((operations.filterMap Operation.root?).map (s.normalizedAt start)) s.source start
          rw [hstep, hrun, houtcomes, answerAfter, ← hanswer]
          rw [List.append_assoc, List.singleton_append] at hprogress ⊢
          exact ⟨rfl, hprogress⟩
      | policy =>
          obtain ⟨houtcomes, hprogress⟩ := ih h
          exact ⟨congrArg _ houtcomes, hprogress⟩
      | config =>
          obtain ⟨houtcomes, hprogress⟩ := ih h
          exact ⟨congrArg _ houtcomes, hprogress⟩
      | source =>
          obtain ⟨houtcomes, hprogress⟩ := ih h
          exact ⟨congrArg _ houtcomes, hprogress⟩

/-- What the source said in a run. -/
def replies (s : Synchronizer σ) (start : σ) (operations : List Operation) :
    List (Path × Except FetchError Workspace) :=
  s.source.replies (s.progress operations (.start start)).asked start

/-- In a run from the start the source is asked about the roots that are used, each once. -/
theorem asked_start (hfixed : s.source.KeepsPaths) (start : σ) (operations : List Operation) :
    (s.progress operations (.start start)).asked = s.firstUses start operations :=
  (run_eq hfixed (.of_start s.source start) operations).2.asked

/-- The outcomes of a run from the start, in terms of what the source said in it. -/
theorem outcomes_start (hfixed : s.source.KeepsPaths) (start : σ) (operations : List Operation) :
    s.outcomes operations (.start start) = operations.map (Operation.outcome s
      (s.normalizedAt start) (firstAnswer (s.replies start operations))) := by
  rw [replies, asked_start hfixed]
  exact (run_eq hfixed (.of_start s.source start) operations).1

/-- About the root of every query the source said something. -/
theorem find?_replies_isSome_of_mem (hfixed : s.source.KeepsPaths) (start : σ)
    {operations : List Operation} {root : Path} {query : Query}
    (h : .ask root query ∈ operations) :
    ((s.replies start operations).find? fun r => r.1.Same (s.normalizedAt start root)).isSome := by
  have hused : s.normalizedAt start root ∈
      (operations.filterMap Operation.root?).map (s.normalizedAt start) :=
    List.mem_map_of_mem (List.mem_filterMap.2 ⟨_, h, rfl⟩)
  rw [replies, asked_start hfixed, firstUses]
  exact find?_replies_isSome hused s.source start

/-- Where answers depend on the root alone, the first one about a root is what the source
would say of it at the start. -/
theorem firstAnswer_replies {operations : List Operation} {root : Path} {query : Query}
    (hsteady : s.source.DependsOnRoot) (hfixed : s.source.KeepsPaths)
    (h : .ask root query ∈ operations) :
    firstAnswer (s.replies start operations) (s.normalizedAt start root) =
      workspaceOf (s.source.fetch (s.normalizedAt start root) start).1.1 := by
  obtain ⟨r, hfind⟩ := Option.isSome_iff_exists.1
    (find?_replies_isSome_of_mem hfixed start h)
  have hsame : r.1.Same (s.normalizedAt start root) := by
    simpa using List.find?_some hfind
  obtain ⟨state, hreply⟩ := Source.exists_fetch_of_mem_replies (List.mem_of_find?_eq_some hfind)
  rw [firstAnswer, hfind, Option.map_some, Option.getD_some, hreply]
  exact hsteady _ _ _ _ hsame

end Synchronizer

/-! ## The snapshot -/

/-- What it means that a synchronizer works on a snapshot of the workspaces. -/
structure WorksOnSnapshot (s : Synchronizer σ) (start : σ) : Prop where
  /-- Every outcome is a function of the configuration, the normalized root, and the first
  answer about that root. -/
  outcomes (operations : List Operation) : s.outcomes operations (.start start) =
    operations.map (Operation.outcome s (s.normalizedAt start)
      (firstAnswer (s.replies start operations)))
  /-- About the root of every query there is an answer. -/
  answered (operations : List Operation) (root : Path) (query : Query)
    (h : .ask root query ∈ operations) : ((s.replies start operations).find? fun r =>
      r.1.Same (s.normalizedAt start root)).isSome
  /-- Nodes and edges are made of one workspace. -/
  synchronized (operations : List Operation) (i : Nat) (root : Path)
    (h : operations[i]? = some (.ask root .synchronize)) :
    ∃ w graph, graph = (buildNodes (s.normalizedAt start root) w s.config).1 ∧
      (s.outcomes operations (.start start))[i]? =
        some (.result ⟨graph.fragment, buildEdges (s.normalizedAt start root) w graph⟩)
  /-- Where answers depend on the root alone, each operation has one outcome, whatever is done
  before it and however often. -/
  steady (hsteady : s.source.DependsOnRoot) (operations : List Operation) :
    s.outcomes operations (.start start) = operations.map (Operation.outcome s
      (s.normalizedAt start) fun root => workspaceOf (s.source.fetch root start).1.1)
  /-- A query has one outcome, however its root is written. Roots are one here if their normalized
  paths take the same steps. -/
  rewritten (operations : List Operation) (i j : Nat) (root root' : Path) (query : Query)
    (hi : operations[i]? = some (.ask root query))
    (hj : operations[j]? = some (.ask root' query))
    (hsame : (s.normalizedAt start root).Same (s.normalizedAt start root')) :
    (s.outcomes operations (.start start))[i]? = (s.outcomes operations (.start start))[j]?
  /-- That is so of roots that take the same steps before they are normalized, unless only one of
  them leads to something. This is said besides: `rewritten` asks for nothing of the kind. -/
  normalized (root root' : Path) (hsame : root.Same root')
    (hexists : (s.source.machine start).pathExists root =
      (s.source.machine start).pathExists root') :
    (s.normalizedAt start root).Same (s.normalizedAt start root')

/-- A synchronizer cannot be told from one that works on a snapshot of the workspaces, as long
as the paths of files stay what they are. -/
theorem worksOnSnapshot {s : Synchronizer σ} (hfixed : s.source.KeepsPaths) (start : σ) :
    WorksOnSnapshot s start where
  outcomes := s.outcomes_start hfixed start
  answered operations root query h := s.find?_replies_isSome_of_mem hfixed start h
  synchronized operations i root h := by
    refine ⟨firstAnswer (s.replies start operations) (s.normalizedAt start root), _, rfl, ?_⟩
    rw [s.outcomes_start hfixed, List.getElem?_map, h]
    rfl
  steady hsteady operations := by
    rw [s.outcomes_start hfixed]
    refine List.map_congr_left fun o ho => ?_
    cases o with
    | ask root query =>
        exact congrArg (query.outcome s.config (s.normalizedAt start root))
          (s.firstAnswer_replies hsteady hfixed ho)
    | policy => rfl
    | config => rfl
    | source => rfl
  rewritten operations i j root root' query hi hj hsame := by
    rw [s.outcomes_start hfixed, List.getElem?_map, List.getElem?_map, hi, hj]
    simp only [Option.map_some, Operation.outcome]
    rw [firstAnswer_congr hsame, Query.outcome_congr hsame]
  normalized root root' := Machine.normalize_same

def fickleWorkspace : Workspace := ⟨[⟨"core", .ofText "/a/core/Cargo.toml", [], none⟩]⟩

/-- A synchronizer whose source fails every second time, on a machine without files. -/
def fickle : Synchronizer Nat where
  config := .default
  source := {
    name := "fickle"
    machine := fun _ => ⟨.empty, [], .ofText "/", []⟩
    fetch := fun _ calls =>
      ((if calls % 2 = 0 then .ok fickleWorkspace else .error (.toolNotFound "cargo"), []),
        calls + 1) }
  consistent := Config.validate_of_naming (n := Config.default.graph) (by decide)
    (by decide +kernel) (by decide +kernel)

/-- The root of the last operation is that of the one before, written otherwise. -/
def fickleOperations : List Operation :=
  [.ask (.ofText "/a") .metadata, .policy, .ask (.ofText "/b") .metadata,
    .ask (.ofText "/b/") .synchronize]

theorem normalizedAt_fickle : fickle.normalizedAt 0 (.ofText "/a") = .ofText "/a" ∧
    fickle.normalizedAt 0 (.ofText "/b") = .ofText "/b" ∧
      fickle.normalizedAt 0 (.ofText "/b/") = .ofText "/b/" :=
  ⟨by cbv, by cbv, by cbv⟩

theorem firstUses_fickle : fickle.firstUses 0 fickleOperations = [.ofText "/a", .ofText "/b"] := by
  obtain ⟨hfirst, hsecond, hagain⟩ := normalizedAt_fickle
  rw [Synchronizer.firstUses]
  simp only [fickleOperations, Operation.root?, List.filterMap_cons, List.filterMap_nil,
    List.map_cons, List.map_nil, hfirst, hsecond, hagain]
  decide +kernel

/-- A third call would not fail, but there is none. -/
theorem worksOnSnapshot_fickle :
    fickle.source.KeepsPaths ∧ WorksOnSnapshot fickle 0 ∧
      fickle.outcomes fickleOperations (.start 0) =
        [.workspace fickleWorkspace, .policy (.ofConfig .default), .workspace .empty,
          .result ⟨⟨.empty, .empty⟩, []⟩] := by
  have hfixed : fickle.source.KeepsPaths := fun _ _ _ => rfl
  have hsnapshot := worksOnSnapshot hfixed 0
  refine ⟨hfixed, hsnapshot, ?_⟩
  obtain ⟨hfirst, hsecond, hagain⟩ := normalizedAt_fickle
  rw [hsnapshot.outcomes, Synchronizer.replies, Synchronizer.asked_start hfixed, firstUses_fickle]
  simp only [fickleOperations, Operation.outcome, List.map_cons, List.map_nil, hfirst, hsecond,
    hagain]
  rfl

end CrateGraph
