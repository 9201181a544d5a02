import CrateGraph.Proofs.Graph.Classification
import CrateGraph.Synchronizer

/-!
# What a synchronizer is asked to do

A synchronizer is used by one operation after another. Most of them are *queries* about the
workspace at a root; each of those reads the metadata of the workspace, once or twice, and
tells about its work. The others read neither the metadata nor the progress so far.

## Main results

* `metadata_cases` — metadata is known, or the source is asked.
* `run_nodes`, `run_dependencies`, `run_synchronize`, `run_missingExplicit` — the queries in
  terms of the metadata that they read.
* `perform_induction` — what reading metadata and telling keep, every operation keeps.
-/

namespace CrateGraph

/-- Whether the event tells that metadata could not be had. -/
def Event.isFetchFailed : Event → Bool
  | .fetchFailed .. => true
  | _ => false

/-- Something that is asked about the workspace at a root. -/
inductive Query where
  | metadata
  | nodes
  | dependencies (graph : ProjectGraph)
  | synchronize
  | missingExplicit

/-- Something that a synchronizer is asked to do. -/
inductive Operation where
  | ask (root : Path) (query : Query)
  | policy
  | config
  | source

/-- What a synchronizer gives for an operation. -/
inductive Outcome (σ : Type) where
  | workspace (w : Workspace)
  | graph (g : ProjectGraph)
  | edges (l : List Edge)
  | result (r : SyncResult)
  | names (l : List String)
  | policy (p : Policy)
  | config (c : Config)
  | source (s : Metadata.Source σ)

/-- The root of a query. -/
def Operation.root? : Operation → Option Path
  | .ask root _ => some root
  | _ => none

namespace Synchronizer

variable {σ : Type}

/-- Answers a query. -/
def answer (s : Synchronizer σ) (root : Path) : Query → Sync σ (Outcome σ)
  | .metadata => .workspace <$> s.metadata root
  | .nodes => .graph <$> s.nodes root
  | .dependencies g => .edges <$> s.dependencies root g
  | .synchronize => .result <$> s.synchronize root
  | .missingExplicit => .names <$> s.missingExplicit root

/-- Does what an operation asks for. -/
def perform (s : Synchronizer σ) : Operation → Sync σ (Outcome σ)
  | .ask root query => s.answer root query
  | .policy => return .policy s.policy
  | .config => return .config s.config
  | .source => return .source s.source

/-- The outcomes of operations that are performed one after the other. -/
def outcomes (s : Synchronizer σ) (operations : List Operation) (p : Progress σ) :
    List (Outcome σ) :=
  ((operations.mapM s.perform).run p).1

/-- The progress after operations that are performed one after the other. -/
def progress (s : Synchronizer σ) (operations : List Operation) (p : Progress σ) : Progress σ :=
  ((operations.mapM s.perform).run p).2

/-- The normalized form of a root, as things are. -/
def normalized (s : Synchronizer σ) (p : Progress σ) (root : Path) : Path :=
  (s.source.machine p.source).normalize root

variable (s : Synchronizer σ) (p : Progress σ) (root : Path)

/-! ## Single operations -/

theorem run_metadata :
    (s.metadata root).run p = match p.known? (s.normalized p root) with
      | some w => (w, p)
      | none => p.ask s.source (s.normalized p root) := by
  have hrun : (s.metadata root).run p = (match p.known? (s.normalized p root) with
      | some w => (pure w : Sync σ Workspace)
      | none => modifyGet (Progress.ask s.source (s.normalized p root))).run p := rfl
  rw [hrun]
  cases p.known? (s.normalized p root) <;> rfl

/-- What is known about a root is returned, and nothing changes; about another root the
source is asked. -/
theorem metadata_cases :
    (∃ w, p.known? (s.normalized p root) = some w ∧ (s.metadata root).run p = (w, p)) ∨
      (p.known? (s.normalized p root) = none ∧
        (s.metadata root).run p = p.ask s.source (s.normalized p root)) := by
  rw [run_metadata]
  cases p.known? (s.normalized p root) with
  | none => exact .inr ⟨rfl, rfl⟩
  | some w => exact .inl ⟨w, rfl, rfl⟩

variable {s p root} {w : Workspace} {p' : Progress σ}

theorem run_nodes (h : (s.metadata root).run p = (w, p')) :
    (s.nodes root).run p =
      ((buildNodes (s.normalized p' root) w s.config).1,
        { p' with events := p'.events ++ (buildNodes (s.normalized p' root) w s.config).2 }) := by
  have hrun : (s.nodes root).run p =
      ((buildNodes (s.normalized ((s.metadata root).run p).2 root) ((s.metadata root).run p).1
          s.config).1,
        { ((s.metadata root).run p).2 with
          events := ((s.metadata root).run p).2.events ++
            (buildNodes (s.normalized ((s.metadata root).run p).2 root)
              ((s.metadata root).run p).1 s.config).2 }) := rfl
  rw [hrun, h]

theorem run_dependencies (h : (s.metadata root).run p = (w, p')) (g : ProjectGraph) :
    (s.dependencies root g).run p = (buildEdges (s.normalized p' root) w g, p') := by
  have hrun : (s.dependencies root g).run p = (buildEdges
      (s.normalized ((s.metadata root).run p).2 root) ((s.metadata root).run p).1 g,
        ((s.metadata root).run p).2) := rfl
  rw [hrun, h]

theorem run_missingExplicit (h : (s.metadata root).run p = (w, p')) :
    (s.missingExplicit root).run p =
      (s.config.graph.explicit.filter fun name => (w.member? name).isNone, p') := by
  have hrun : (s.missingExplicit root).run p =
      (s.config.graph.explicit.filter fun name =>
        (((s.metadata root).run p).1.member? name).isNone, ((s.metadata root).run p).2) := rfl
  rw [hrun, h]

/-- Nodes and edges are made one after the other. -/
theorem run_synchronize {g : ProjectGraph} {edges : List Edge} {p'' : Progress σ}
    (hnodes : (s.nodes root).run p = (g, p'))
    (hedges : (s.dependencies root g).run p' = (edges, p'')) :
    (s.synchronize root).run p =
      (⟨g.fragment, edges⟩, { p'' with events := p''.events ++ [summary g edges] }) := by
  have hrun : (s.synchronize root).run p = ((do
      let edges ← s.dependencies root ((s.nodes root).run p).1
      tell [summary ((s.nodes root).run p).1 edges]
      return ⟨((s.nodes root).run p).1.fragment, edges⟩ : Sync σ SyncResult)).run
        ((s.nodes root).run p).2 := rfl
  have hrest : ((do
      let edges ← s.dependencies root g
      tell [summary g edges]
      return ⟨g.fragment, edges⟩ : Sync σ SyncResult)).run p' =
        (⟨g.fragment, ((s.dependencies root g).run p').1⟩,
          { ((s.dependencies root g).run p').2 with
            events := ((s.dependencies root g).run p').2.events ++
              [summary g ((s.dependencies root g).run p').1] }) := rfl
  rw [hrun, hnodes, hrest, hedges]

/-! ## What every operation keeps -/

/-- Nothing that is told of a graph is about metadata that could not be had. -/
theorem isFetchFailed_of_mem_buildNodes {workspaceRoot : Path} {c : Config} {e : Event}
    (h : e ∈ (buildNodes workspaceRoot w c).2) : e.isFetchFailed = false := by
  by_contra hfailed
  have hwarn : e.level = .warn := by
    cases e <;> simp_all [Event.isFetchFailed, Event.level]
  have hshared : e ∈ (buildNodes workspaceRoot w c).2.filter (·.level = .warn) :=
    List.mem_filter.2 ⟨h, decide_eq_true hwarn⟩
  rw [warnings_buildNodes] at hshared
  obtain ⟨pair, -, rfl⟩ := List.mem_map.1 hshared
  exact hfailed rfl

/-- What a synchronizer keeps when it reads metadata, and when it tells of something else
than metadata that could not be had, it keeps whatever it is asked to do. -/
theorem perform_induction {I : Progress σ → Prop}
    (hmetadata : ∀ p root, I p → I ((s.metadata root).run p).2)
    (htell : ∀ p events, (∀ e ∈ events, e.isFetchFailed = false) → I p →
      I { p with events := p.events ++ events })
    (h : I p) (o : Operation) : I ((s.perform o).run p).2 := by
  have hnodes : ∀ p root, I p → I ((s.nodes root).run p).2 := by
    intro p root h
    rw [run_nodes (Prod.eta _).symm]
    exact htell _ _ (fun e he => isFetchFailed_of_mem_buildNodes he) (hmetadata p root h)
  have hedges : ∀ p root g, I p → I ((s.dependencies root g).run p).2 := by
    intro p root g h
    rw [run_dependencies (Prod.eta _).symm]
    exact hmetadata p root h
  cases o with
  | policy => exact h
  | config => exact h
  | source => exact h
  | ask root query =>
      cases query with
      | metadata => exact hmetadata p root h
      | nodes => exact hnodes p root h
      | dependencies g => exact hedges p root g h
      | missingExplicit =>
          have hrun : ((s.missingExplicit root).run p).2 = ((s.metadata root).run p).2 := by
            rw [run_missingExplicit (Prod.eta _).symm]
          exact hrun ▸ hmetadata p root h
      | synchronize =>
          obtain ⟨g, p', hgraph⟩ : ∃ g p', (s.nodes root).run p = (g, p') := ⟨_, _, rfl⟩
          obtain ⟨edges, p'', hdrawn⟩ : ∃ edges p'', (s.dependencies root g).run p' =
            (edges, p'') := ⟨_, _, rfl⟩
          have hp' : I p' := by simpa [hgraph] using hnodes p root h
          have hp'' : I p'' := by simpa [hdrawn] using hedges p' root g hp'
          have hrun := congrArg Prod.snd (run_synchronize hgraph hdrawn)
          refine hrun ▸ htell p'' _ ?_ hp''
          intro e he
          rw [List.mem_singleton.1 he, summary]
          split <;> rfl

/-! ## Runs -/

theorem progress_nil (p : Progress σ) : s.progress [] p = p := rfl

theorem outcomes_cons (o : Operation) (operations : List Operation) (p : Progress σ) :
    s.outcomes (o :: operations) p =
      ((s.perform o).run p).1 :: s.outcomes operations ((s.perform o).run p).2 := by
  rw [outcomes, List.mapM_cons]
  rfl

theorem progress_cons (o : Operation) (operations : List Operation) (p : Progress σ) :
    s.progress (o :: operations) p = s.progress operations ((s.perform o).run p).2 := by
  rw [progress, List.mapM_cons]
  rfl

/-- What every operation keeps, every run keeps. -/
theorem progress_induction {I : Progress σ → Prop}
    (hperform : ∀ p o, I p → I ((s.perform o).run p).2) (h : I p) (operations : List Operation) :
    I (s.progress operations p) := by
  induction operations generalizing p with
  | nil => exact h
  | cons o operations ih =>
      rw [progress_cons]
      exact ih (hperform p o h)

end Synchronizer

end CrateGraph
