import CrateGraph.Proofs.First
import CrateGraph.Proofs.Synchronizer.Operation

/-!
# What a source was asked, and what it said

A source may answer differently each time it is asked. What a synchronizer has of it is
fixed by the roots that it has used, in their order: the source was asked about the first of
each, and nothing that it might say later counts.

## Main results

* `Progress.Records` — how the progress of a synchronizer follows from the roots it has used.
* `Progress.Records.metadata` — reading metadata uses one more root, and gives the first
  answer about it.
* `firstAnswer_firsts_append` — a first answer stays the first.
-/

namespace CrateGraph

namespace Metadata

/-- The workspace that a reply is taken for: one without packages, if it is a failure. -/
def workspaceOf : Except FetchError Workspace → Workspace
  | .ok w => w
  | .error _ => .empty

/-- The workspace that the first reply about a root is taken for. -/
def firstAnswer (replies : List (Path × Except FetchError Workspace)) (root : Path) :
    Workspace :=
  ((replies.find? fun r => r.1.Same root).map fun r => workspaceOf r.2).getD .empty

namespace Source

variable {σ : Type}

/-- What a source says when it is asked about roots one after the other. -/
def replies (source : Source σ) : List Path → σ → List (Path × Except FetchError Workspace)
  | [], _ => []
  | root :: roots, state =>
    (root, (source.fetch root state).1.1) :: replies source roots (source.fetch root state).2

/-- The state of a source that was asked about roots one after the other. -/
def after (source : Source σ) (roots : List Path) (state : σ) : σ :=
  roots.foldl (fun state root => (source.fetch root state).2) state

/-- What is told of a reply if it is a failure. -/
def failure? (source : Source σ) : Except FetchError Workspace → Option Event
  | .ok _ => none
  | .error e => some (.fetchFailed source.name e.message)

/-- What is told of failures when a source is asked about roots one after the other: what the
source itself tells, and one more if its reply is a failure. -/
def failures (source : Source σ) : List Path → σ → List Event
  | [], _ => []
  | root :: roots, state =>
    (source.fetch root state).1.2.filter Event.isFetchFailed ++
      (source.failure? (source.fetch root state).1.1).toList ++
      failures source roots (source.fetch root state).2

/-- Whether a source leaves it to others to tell of its failures. -/
def Quiet (source : Source σ) : Prop :=
  ∀ root state, ∀ e ∈ (source.fetch root state).1.2, e.isFetchFailed = false

/-- Whether the paths of files stay what they are while a source works. -/
def KeepsPaths (source : Source σ) : Prop :=
  ∀ root state path, (source.machine (source.fetch root state).2).normalize path =
    (source.machine state).normalize path

/-- Whether what a source says of a workspace depends on the root alone. -/
def DependsOnRoot (source : Source σ) : Prop :=
  ∀ root root' state state', Path.Same root root' →
    workspaceOf (source.fetch root state).1.1 = workspaceOf (source.fetch root' state').1.1

variable {source : Source σ} {state : σ} {root : Path} {roots : List Path}

/-! ## Asking about one more root -/

theorem replies_append (roots roots' : List Path) (state : σ) :
    source.replies (roots ++ roots') state =
      source.replies roots state ++ source.replies roots' (source.after roots state) := by
  induction roots generalizing state with
  | nil => rfl
  | cons root roots ih => simp [replies, after, ih]

theorem after_append_singleton (roots : List Path) (root : Path) (state : σ) :
    source.after (roots ++ [root]) state =
      (source.fetch root (source.after roots state)).2 := by
  simp [after]

theorem map_fst_replies (roots : List Path) (state : σ) :
    (source.replies roots state).map Prod.fst = roots := by
  induction roots generalizing state with
  | nil => rfl
  | cons root roots ih => simp [replies, ih]

/-- Every reply was given in some state. -/
theorem exists_fetch_of_mem_replies {r : Path × Except FetchError Workspace}
    (h : r ∈ source.replies roots state) : ∃ state', r.2 = (source.fetch r.1 state').1.1 := by
  induction roots generalizing state with
  | nil => cases h
  | cons root roots ih =>
      rcases List.mem_cons.1 h with rfl | h
      · exact ⟨state, rfl⟩
      · exact ih h

theorem normalize_after (h : source.KeepsPaths) (roots : List Path) (path : Path) :
    (source.machine (source.after roots state)).normalize path =
      (source.machine state).normalize path := by
  induction roots using List.reverseRecOn with
  | nil => rfl
  | append_singleton roots root ih => rw [after_append_singleton, h, ih]

theorem filter_tryFetch (root : Path) (state : σ) :
    (source.tryFetch root state).1.2.filter Event.isFetchFailed =
      (source.fetch root state).1.2.filter Event.isFetchFailed ++
        (source.failure? (source.fetch root state).1.1).toList := by
  cases hreply : (source.fetch root state).1.1 <;>
    simp [tryFetch, hreply, failure?, Event.isFetchFailed]

theorem failures_append_singleton (roots : List Path) (root : Path) (state : σ) :
    source.failures (roots ++ [root]) state = source.failures roots state ++
      (source.tryFetch root (source.after roots state)).1.2.filter Event.isFetchFailed := by
  induction roots generalizing state with
  | nil => simp [failures, after, filter_tryFetch]
  | cons root' roots ih => simp [failures, after, ih]

/-- Where the source itself tells of none, one failure is told of for each reply that is one. -/
theorem failures_of_quiet (h : source.Quiet) (roots : List Path) (state : σ) :
    source.failures roots state =
      (source.replies roots state).filterMap fun r => source.failure? r.2 := by
  induction roots generalizing state with
  | nil => rfl
  | cons root roots ih =>
      have hnone : (source.fetch root state).1.2.filter Event.isFetchFailed = [] := by
        rw [List.filter_eq_nil_iff]
        intro e he
        simp [h root state e he]
      rw [failures, hnone, ih, replies, List.filterMap_cons]
      cases source.failure? (source.fetch root state).1.1 <;> rfl

end Source

end Metadata

open Metadata

variable {σ : Type} {s : Synchronizer σ} {start : σ} {roots : List Path} {p : Progress σ}
  {root : Path}

/-- The source is asked in the state it is in, and what it says is kept. -/
theorem Progress.ask_eq (source : Source σ) (root : Path) (p : Progress σ) :
    p.ask source root = (workspaceOf (source.fetch root p.source).1.1, {
      source := (source.fetch root p.source).2
      known := p.known ++ [(root, workspaceOf (source.fetch root p.source).1.1)]
      asked := p.asked ++ [root]
      events := p.events ++ (source.tryFetch root p.source).1.2 }) := by
  cases hreply : (source.fetch root p.source).1.1 <;>
    simp [ask, Source.tryFetch, hreply, workspaceOf]

/-- Nothing is known of exactly the roots that the source was not asked about. -/
theorem Progress.known?_eq_none_iff (h : p.known.map Prod.fst = p.asked) (root : Path) :
    p.known? root = none ↔ First.Fresh Path.components p.asked root := by
  rw [Progress.known?, Option.map_eq_none_iff, List.find?_eq_none, ← h]
  constructor
  · intro hnone u hu he
    obtain ⟨k, hk, rfl⟩ := List.mem_map.1 hu
    exact hnone k hk (decide_eq_true he)
  · intro hfresh k hk hsame
    exact hfresh k.1 (List.mem_map_of_mem hk) (of_decide_eq_true hsame)

/-! ## The progress after some roots -/

/-- The progress of a synchronizer that has used the metadata of some normalized roots, in
their order: the source was asked about the first of each. -/
structure Progress.Records (source : Source σ) (start : σ) (roots : List Path)
    (p : Progress σ) : Prop where
  asked : p.asked = First.firsts Path.components roots
  known : p.known = (source.replies p.asked start).map fun r => (r.1, workspaceOf r.2)
  state : p.source = source.after p.asked start
  told : p.events.filter Event.isFetchFailed = source.failures p.asked start

namespace Progress.Records

theorem of_start (source : Source σ) (state : σ) : (Progress.start state).Records source state [] :=
  ⟨rfl, rfl, rfl, rfl⟩

/-- Telling of other things changes nothing of this. -/
theorem tell (h : p.Records s.source start roots) {events : List Event}
    (hevents : ∀ e ∈ events, e.isFetchFailed = false) :
    Records s.source start roots { p with events := p.events ++ events } where
  asked := h.asked
  known := h.known
  state := h.state
  told := by
    have hnone : events.filter Event.isFetchFailed = [] := by
      rw [List.filter_eq_nil_iff]
      intro e he
      simp [hevents e he]
    rw [List.filter_append, hnone, List.append_nil]
    exact h.told

theorem known?_eq (h : p.Records s.source start roots) (root : Path) :
    p.known? root = ((s.source.replies p.asked start).find? fun r => r.1.Same root).map
      fun r => workspaceOf r.2 := by
  rw [Progress.known?, h.known, List.find?_map, Option.map_map]
  rfl

theorem keys (h : p.Records s.source start roots) : p.known.map Prod.fst = p.asked := by
  rw [h.known, List.map_map]
  exact Source.map_fst_replies p.asked start

/-- What is known is the first answer, and using it again records nothing. -/
theorem of_known? (h : p.Records s.source start roots) {w : Workspace}
    (hroot : p.known? root = some w) :
    p.Records s.source start (roots ++ [root]) ∧
      w = firstAnswer (s.source.replies p.asked start) root := by
  have hstale : ¬First.Fresh Path.components p.asked root := by
    rw [← Progress.known?_eq_none_iff h.keys, hroot]
    exact Option.some_ne_none w
  have hasked : p.asked = First.firsts Path.components (roots ++ [root]) := by
    rw [First.firsts_append_singleton, ← h.asked, First.keep, if_neg hstale]
  refine ⟨⟨hasked, h.known, h.state, h.told⟩, ?_⟩
  rw [firstAnswer, ← h.known?_eq, hroot, Option.getD_some]

/-- What the source says about a new root is the first answer. -/
theorem ask (h : p.Records s.source start roots) (hroot : p.known? root = none) :
    (p.ask s.source root).2.Records s.source start (roots ++ [root]) ∧
      (p.ask s.source root).1 =
        firstAnswer (s.source.replies (p.ask s.source root).2.asked start) root := by
  have hfresh := (Progress.known?_eq_none_iff h.keys root).1 hroot
  have hasked : p.asked ++ [root] = First.firsts Path.components (roots ++ [root]) := by
    rw [First.firsts_append_singleton, ← h.asked, First.keep, if_pos hfresh]
  have hreplies : s.source.replies (p.asked ++ [root]) start =
      s.source.replies p.asked start ++ [(root, (s.source.fetch root p.source).1.1)] := by
    rw [Source.replies_append, h.state]
    rfl
  rw [Progress.ask_eq]
  refine ⟨⟨hasked, ?_, ?_, ?_⟩, ?_⟩
  · show p.known ++ _ = _
    rw [hreplies, List.map_append, ← h.known]
    rfl
  · show (s.source.fetch root p.source).2 = _
    rw [Source.after_append_singleton, ← h.state]
  · show (p.events ++ _).filter _ = _
    rw [List.filter_append, h.told, Source.failures_append_singleton, ← h.state]
  · show _ = firstAnswer (s.source.replies (p.asked ++ [root]) start) root
    have hnone := h.known?_eq root
    rw [hroot, eq_comm, Option.map_eq_none_iff] at hnone
    rw [hreplies, firstAnswer, List.find?_append, hnone]
    simp [Path.Same]

/-- Reading metadata uses one more root, and gives the first answer about it. -/
theorem metadata (h : p.Records s.source start roots) (root : Path) :
    ∃ p', (s.metadata root).run p = (firstAnswer (s.source.replies p'.asked start)
        (s.normalized p root), p') ∧
      p'.Records s.source start (roots ++ [s.normalized p root]) := by
  rcases s.metadata_cases p root with ⟨w, hroot, hrun⟩ | ⟨hroot, hrun⟩
  · obtain ⟨hrecords, hw⟩ := h.of_known? hroot
    exact ⟨p, by rw [hrun, hw], hrecords⟩
  · obtain ⟨hrecords, hw⟩ := h.ask hroot
    exact ⟨_, by rw [hrun, ← hw], hrecords⟩

end Progress.Records

/-! ## First answers -/

/-- About each root that was used there is a reply. -/
theorem find?_replies_isSome (hroot : root ∈ roots) (source : Source σ) (start : σ) :
    ((source.replies (First.firsts Path.components roots) start).find? fun r =>
      r.1.Same root).isSome := by
  obtain ⟨u, hu, hsame⟩ : ∃ u ∈ First.firsts Path.components roots,
    u.components = root.components := First.exists_mem_firsts hroot
  have hroots : (source.replies (First.firsts Path.components roots) start).map Prod.fst =
      First.firsts Path.components roots := Source.map_fst_replies _ start
  rw [← hroots] at hu
  obtain ⟨r, hr, rfl⟩ := List.mem_map.1 hu
  rw [List.find?_isSome]
  exact ⟨r, hr, decide_eq_true hsame⟩

/-- A first answer stays the first. -/
theorem firstAnswer_firsts_append (hroot : root ∈ roots) (more : List Path)
    (source : Source σ) (start : σ) :
    firstAnswer (source.replies (First.firsts Path.components (roots ++ more)) start) root =
      firstAnswer (source.replies (First.firsts Path.components roots) start) root := by
  obtain ⟨later, hlater⟩ : First.firsts Path.components roots <+:
      First.firsts Path.components (roots ++ more) := by
    rw [First.firsts, First.firsts, List.foldl_append]
    exact First.prefix_foldl_keep _ _
  rw [← hlater, Source.replies_append, firstAnswer, firstAnswer, List.find?_append,
    Option.or_of_isSome (find?_replies_isSome hroot source start)]

/-- The same root written otherwise has the same first answer. -/
theorem firstAnswer_congr {root' : Path} (h : root.Same root')
    (replies : List (Path × Except FetchError Workspace)) :
    firstAnswer replies root = firstAnswer replies root' := by
  have hsame : ∀ path : Path, decide (path.Same root) = decide (path.Same root') := fun path =>
    decide_eq_decide.2 ⟨fun hpath => hpath.trans h, fun hpath => hpath.trans h.symm⟩
  simp only [firstAnswer, hsame]

end CrateGraph
