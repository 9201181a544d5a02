import CrateGraph.Proofs.Synchronizer.Snapshot

/-!
# How often a source is asked

Over its lifetime a synchronizer asks its source at most once about each root, whether the
source answers or fails, and whatever else happens to the source and to the files between two
operations. The invariant is that the roots that something is known about are the roots that
the source was asked about; a root is asked about only if nothing is known of it.

## Main results

* `Keyed.metadata` — reading metadata keeps the invariant.
* `Synchronizer.Reachable.keyed` — so it holds whatever was done.
* `asksOnce` — what follows for the calls, and for what is told of failures.
-/

namespace CrateGraph

open Metadata

variable {σ : Type} {s : Synchronizer σ} {p : Progress σ}

/-- The progress that a synchronizer can have made. Between two operations anything may happen
to the source and the machine that it is on. -/
inductive Synchronizer.Reachable (s : Synchronizer σ) : Progress σ → Prop
  | start (state : σ) : Reachable s (.start state)
  | perform {p : Progress σ} (o : Operation) : Reachable s p → Reachable s ((s.perform o).run p).2
  | outside {p : Progress σ} (state : σ) : Reachable s p → Reachable s { p with source := state }

theorem Synchronizer.Reachable.progress (operations : List Operation) (h : s.Reachable p) :
    s.Reachable (s.progress operations p) :=
  progress_induction (fun _ o h => h.perform o) h operations

/-! ## At most once -/

/-- Something is known about exactly the roots that the source was asked about, and no two of
them are the same. -/
structure Keyed (p : Progress σ) : Prop where
  keys : p.known.map Prod.fst = p.asked
  nodup : (p.asked.map Path.components).Nodup

namespace Keyed

theorem ask (h : Keyed p) {root : Path} (hroot : p.known? root = none) :
    Keyed (p.ask s.source root).2 := by
  have hfresh := (Progress.known?_eq_none_iff h.keys root).1 hroot
  rw [Progress.ask_eq]
  refine ⟨?_, ?_⟩
  · show (p.known ++ [_]).map Prod.fst = p.asked ++ [root]
    rw [List.map_append, h.keys]
    rfl
  · show ((p.asked ++ [root]).map Path.components).Nodup
    rw [List.map_append, List.map_singleton, List.nodup_append]
    refine ⟨h.nodup, List.nodup_singleton _, ?_⟩
    intro cs hcs cs' hcs' heq
    obtain ⟨u, hu, rfl⟩ := List.mem_map.1 hcs
    exact hfresh u hu (heq.trans (List.mem_singleton.1 hcs'))

theorem metadata (h : Keyed p) (root : Path) : Keyed ((s.metadata root).run p).2 := by
  rcases s.metadata_cases p root with ⟨w, -, hrun⟩ | ⟨hroot, hrun⟩
  · rw [hrun]
    exact h
  · rw [hrun]
    exact h.ask hroot

end Keyed

/-- The invariant holds whatever was done. -/
theorem Synchronizer.Reachable.keyed (h : s.Reachable p) : Keyed p := by
  induction h with
  | start => exact ⟨rfl, List.nodup_nil⟩
  | perform o _ ih =>
      exact perform_induction (fun _ root h => h.metadata root) (fun _ _ _ h => ⟨h.keys, h.nodup⟩)
        ih o
  | outside _ _ ih => exact ⟨ih.keys, ih.nodup⟩

/-! ## Calls and failures -/

/-- Every progress from the start records the roots that were used. -/
theorem Synchronizer.exists_records (s : Synchronizer σ) (start : σ) (operations : List Operation) :
    ∃ roots, (s.progress operations (.start start)).Records s.source start roots := by
  have hperform : ∀ (p : Progress σ) (o : Operation), (∃ roots, p.Records s.source start roots) →
      ∃ roots, ((s.perform o).run p).2.Records s.source start roots := by
    intro p o h
    refine perform_induction (I := fun p => ∃ roots, p.Records s.source start roots) ?_ ?_ h o
    · rintro p root ⟨roots, hp⟩
      obtain ⟨p', hrun, hrecords⟩ := hp.metadata root
      exact ⟨_, by rw [hrun]; exact hrecords⟩
    · rintro p events hevents ⟨roots, hp⟩
      exact ⟨roots, hp.tell hevents⟩
  exact progress_induction (I := fun p => ∃ roots, p.Records s.source start roots) hperform
    ⟨[], .of_start s.source start⟩ operations

/-- Nothing is done for what needs no metadata. -/
theorem Synchronizer.run_of_root?_eq_none {o : Operation} (h : o.root? = none) (p : Progress σ) :
    ((s.perform o).run p).2 = p := by
  cases o with
  | ask => cases h
  | policy => rfl
  | config => rfl
  | source => rfl

/-- The metadata tool leaves it to others to tell of its failures. -/
theorem Metadata.Tool.quiet (t : Tool) : t.source.Quiet := by
  intro root m e he
  change e ∈ (t.fetch root m).1.2 at he
  unfold Tool.fetch at he
  split at he
  · cases he
  · rw [List.mem_singleton.1 he]
    rfl

/-- What it means that a synchronizer asks its source once about each root. -/
structure AsksOnce (s : Synchronizer σ) : Prop where
  /-- No two roots that the source was asked about are the same. -/
  nodup (p : Progress σ) (h : s.Reachable p) : (p.asked.map Path.components).Nodup
  /-- If the paths of files stay what they are, the source is asked about the normalized roots
  of the queries, in the order of their first use. -/
  asked (hfixed : s.source.KeepsPaths) (start : σ) (operations : List Operation) :
    (s.progress operations (.start start)).asked = s.firstUses start operations
  /-- The source is asked about these roots and nothing else. -/
  calls (start : σ) (operations : List Operation) :
    (s.progress operations (.start start)).source =
      s.source.after (s.progress operations (.start start)).asked start
  /-- What is not a query changes nothing. -/
  free (o : Operation) (h : o.root? = none) (p : Progress σ) : ((s.perform o).run p).2 = p
  /-- One failure is told of for each reply that is one, beside what the source itself tells. -/
  told (start : σ) (operations : List Operation) :
    (s.progress operations (.start start)).events.filter Event.isFetchFailed =
      s.source.failures (s.progress operations (.start start)).asked start
  /-- If the source itself tells of none, one failure is told of for each root about which its
  one reply was a failure. -/
  toldOnce (hquiet : s.source.Quiet) (start : σ) (operations : List Operation) :
    (s.progress operations (.start start)).events.filter Event.isFetchFailed =
      (s.replies start operations).filterMap fun r => s.source.failure? r.2

/-- A synchronizer asks its source once about each root, whatever it is asked to do. -/
theorem asksOnce (s : Synchronizer σ) : AsksOnce s where
  nodup p h := h.keyed.nodup
  asked hfixed start operations := s.asked_start hfixed start operations
  calls start operations := by
    obtain ⟨roots, hrecords⟩ := s.exists_records start operations
    exact hrecords.state
  free o h p := s.run_of_root?_eq_none h p
  told start operations := by
    obtain ⟨roots, hrecords⟩ := s.exists_records start operations
    exact hrecords.told
  toldOnce hquiet start operations := by
    obtain ⟨roots, hrecords⟩ := s.exists_records start operations
    rw [hrecords.told, Source.failures_of_quiet hquiet]
    rfl

/-- The second root is asked about once, though its reply is a failure, and it is told of once. -/
theorem asksOnce_fickle :
    AsksOnce fickle ∧ fickle.source.KeepsPaths ∧ fickle.source.Quiet ∧
      fickle.Reachable (fickle.progress fickleOperations (.start 0)) ∧
      (fickle.progress fickleOperations (.start 0)).asked = [.ofText "/a", .ofText "/b"] ∧
      (fickle.progress fickleOperations (.start 0)).events.filter Event.isFetchFailed =
        [.fetchFailed "fickle" (FetchError.toolNotFound "cargo").message] := by
  have hfixed : fickle.source.KeepsPaths := fun _ _ _ => rfl
  have hquiet : fickle.source.Quiet := fun _ _ e he => absurd he List.not_mem_nil
  have hasked : (fickle.progress fickleOperations (.start 0)).asked =
      [.ofText "/a", .ofText "/b"] := by
    rw [(asksOnce fickle).asked hfixed, firstUses_fickle]
  refine ⟨asksOnce fickle, hfixed, hquiet, .progress _ (.start 0), hasked, ?_⟩
  rw [(asksOnce fickle).toldOnce hquiet, Synchronizer.replies, hasked]
  rfl

end CrateGraph
