import CrateGraph.Metadata.Source
import CrateGraph.Proofs.Process.Interleaving

/-!
# The limits that settings ask for

The budget and the timeout of the metadata tool are whatever 64-bit numbers the settings say. Two
sums are made of them: one more byte than the budget is how much is read of a stream, and the
timeout added to the clock is the deadline. Both are what they are meant to be but at the ends of
the ranges. The largest budget has no number after it, and the readers of the streams are lost: the
fetch of a tool that works fails. A timeout that leads past the last instant stops the program
instead of the tool.

## Main results

* `Limits.exact_iff` — when both sums are what they are meant to be.
* `Supervision.Reaches.outcome_of_lost` — without readers there is no output, in any order of the
  steps.
* `Run.bounded_of_endsInTime`, `Run.bounded_of_not_endsInTime` — what there is instead, if the
  times are known.
* `Supervision.Reaches.parent_of_unreachable` — no deadline, no outcome.
* `Metadata.sums_ofSettings` — which settings ask for such limits, and what becomes of the others.
-/

namespace CrateGraph

variable {l : Limits} {now : Instant} {budget : UInt64}

/-- Whether what is read of a stream is one byte more than the budget, and the deadline is the
instant that it is meant to be. -/
structure Limits.Exact (l : Limits) (now : Instant) : Prop where
  readLimit : ∃ limit, readLimit? l.budget = some limit ∧ limit.toNat = l.budget.toNat + 1
  deadline : ∀ ns, l.timeout = some ns → ∃ deadline, now.later? ns = some deadline ∧
    deadline.nanos = now.nanos + ns ∧ now ≤ deadline

theorem exists_readLimit_iff : (∃ limit, readLimit? budget = some limit ∧
    limit.toNat = budget.toNat + 1) ↔ budget ≠ 18446744073709551615 := by
  rw [ne_eq, ← readLimit?_eq_none_iff, ← ne_eq, Option.ne_none_iff_exists']
  exact exists_congr fun limit => and_iff_left_of_imp toNat_readLimit

theorem Limits.exact_iff :
    l.Exact now ↔ l.budget ≠ 18446744073709551615 ∧ l.deadline? now ≠ none := by
  rw [deadline?_ne_none_iff, ← exists_readLimit_iff]
  exact ⟨fun h => ⟨h.readLimit, h.deadline⟩, fun h => ⟨h.1, h.2⟩⟩

/-! ## Without readers, in any order of the steps -/

namespace Supervision

variable {past : List State} {s s' : State} {p p' : Pipe} {raised : Bool} {outcome : Run.Outcome}

/-- Whether the reader of a stream is about to be lost, or is. -/
def Pipe.Lost (p : Pipe) : Prop :=
  p.reader = .reading [] ∨ p.reader = .returned (.error .readerLost)

theorem Pipe.Step.lost (h : p.Step budget raised p') (hlost : readLimit? budget = none)
    (hp : p.Lost) : p'.Lost ∧ raised = false := by
  cases h with
  | write | close => exact ⟨hp, rfl⟩
  | read _ hlimit | enough hlimit | all hlimit | fail _ hlimit =>
      rw [hlost] at hlimit
      cases hlimit
  | lose => exact ⟨.inr rfl, rfl⟩
  | hand hfinished =>
      rcases hp with hreading | hreturned
      · rw [hreading] at hfinished
        cases hfinished
      · rw [hreturned] at hfinished
        cases hfinished

/-- Whether no reader of a run has read anything. -/
structure Unread (s : State) : Prop where
  pipe : ∀ stream, (s.pipe stream).Lost
  overflow : s.overflow = false

theorem Acts.unread (h : Acts l s s') (hs : Unread s) : Unread s' := by
  cases h <;> exact ⟨hs.pipe, hs.overflow⟩

theorem Step.unread (h : Step l s s') (hlost : readLimit? l.budget = none) (hs : Unread s) :
    Unread s' := by
  cases h with
  | tick | exit => exact ⟨hs.pipe, hs.overflow⟩
  | parent hacts => exact hacts.unread hs
  | pipe stream hstep =>
      obtain ⟨hpipe, rfl⟩ := hstep.lost hlost (hs.pipe stream)
      refine ⟨fun t => ?_, by simp [State.withPipe, hs.overflow]⟩
      by_cases ht : t = stream
      · simpa [State.withPipe, ht] using hpipe
      · simpa [State.withPipe, ht] using hs.pipe t

theorem Reaches.unread (hlost : readLimit? l.budget = none) (h : Reaches l now past s) :
    Unread s := by
  induction h with
  | start => exact ⟨fun _ => .inl rfl, rfl⟩
  | step _ hstep ih => exact hstep.unread hlost ih

/-- If nobody reads the streams, a run has no output, and there was never too much of it either. -/
theorem Reaches.outcome_of_lost (hlost : readLimit? l.budget = none) (h : Reaches l now past s)
    (hstep : Step l s s') (hreturns : Returns s s' outcome) :
    outcome = .stopped .timeout ∨ outcome = .failed .readerLost ∨
      ∃ e, s.parent = .abandoning e ∧ outcome = .failed e := by
  obtain ⟨hpipe, hoverflow⟩ := h.unread hlost
  have hreader : ∀ {stream result}, (s.pipe stream).reader = .returned result →
      result = .error .readerLost := by
    intro stream result hreturned
    rcases hpipe stream with hreading | hlost
    · rw [hreading] at hreturned
      cases hreturned
    · rw [hlost] at hreturned
      cases hreturned
      rfl
  rcases hreturns.cases hstep with
    ⟨-, rfl⟩ | ⟨status, out, err, -, herr, -⟩ | ⟨e, habandoning | ⟨stream, hreturned⟩, rfl⟩
  · rw [hoverflow]
    exact .inl rfl
  · cases hreader herr
  · exact .inr (.inr ⟨e, habandoning, rfl⟩)
  · cases hreader hreturned
    exact .inr (.inl rfl)

/-- A program that finds no deadline never comes to look at the child. -/
theorem Reaches.parent_of_unreachable (hdeadline : l.deadline? now = none)
    (h : Reaches l now past s) : s.parent = .starting ∨ s.parent = .crashed := by
  have hinv := h.inv
  rcases hinv.timed with hstarting | hcrashed | hsome
  · exact .inl hstarting
  · exact .inr hcrashed
  · exact absurd (Limits.deadline?_eq_none_of_le hinv.begun hdeadline) hsome

end Supervision

/-! ## Without readers, if the times are known -/

namespace Watched

variable {w : Watched} {as : List Act}

theorem overflow_acts_of_lost (hlost : readLimit? budget = none) :
    (acts budget w as).overflow = w.overflow := by
  have hcheck : ∀ w : Watched, (check budget w).overflow = w.overflow := by
    intro w
    simp [check, overBudget, hlost]
  induction as generalizing w with
  | nil => rfl
  | cons a as ih =>
      rw [acts, List.foldl_cons, ← acts, ih]
      cases a with
      | write stream bytes => cases stream <;> exact hcheck _
      | pause ms => rfl
      | flood stream => simp [act, hlost]

end Watched

namespace Run

variable {r : Run}

/-- Whether the end of the child is seen before its time is up, or when it is. -/
def EndsInTime (r : Run) (l : Limits) : Prop :=
  ∃ clock, r.endSeen (Watched.acts l.budget .start r.acts) = some clock ∧
    ∀ ns, l.timeout = some ns → clock ≤ upAt ns

/-- If nobody reads the streams, it is the end of the child or its time that decides. -/
theorem decisive_of_lost (hlost : readLimit? l.budget = none) :
    r.decisive (Watched.acts l.budget .start r.acts) l =
      ([r.endSeen (Watched.acts l.budget .start r.acts),
        l.timeout.map upAt].filterMap id).min? := by
  rw [decisive, Watched.overflow_acts_of_lost hlost]
  rfl

theorem min?_filterMap_pair (m n : Nat) : ([some m, some n].filterMap id).min? = some (min m n) :=
  rfl

/-- If nobody reads the streams, the run of a child that ends in time fails. -/
theorem bounded_of_endsInTime (hlost : readLimit? l.budget = none) (hends : r.EndsInTime l) :
    r.bounded l = .failed .readerLost := by
  obtain ⟨clock, hend, htime⟩ := hends
  have hdecisive : r.decisive (Watched.acts l.budget .start r.acts) l = some clock := by
    rw [decisive_of_lost hlost, hend]
    cases htimeout : l.timeout with
    | none => rfl
    | some ns => rw [Option.map_some, min?_filterMap_pair, Nat.min_eq_left (htime ns htimeout)]
  obtain ⟨status, hstatus, -⟩ := Option.map_eq_some_iff.1 hend
  have hended : (r.lookAt (Watched.acts l.budget .start r.acts) clock).ended = some status := by
    simp [lookAt, hend, hstatus]
  simp only [bounded, hdecisive, Limits.verdict_eq_finish_iff.2 hended, finished, hlost]

/-- If nobody reads the streams, a child that does not end in time is killed. -/
theorem bounded_of_not_endsInTime (hlost : readLimit? l.budget = none)
    (hends : ¬ r.EndsInTime l) : r.bounded l = .stopped .timeout := by
  cases hdecisive : r.decisive (Watched.acts l.budget .start r.acts) l with
  | none => simp only [bounded, hdecisive]
  | some clock =>
      have hdown : (r.lookAt (Watched.acts l.budget .start r.acts) clock).overflow = false := by
        simp [lookAt, Watched.overflow_acts_of_lost hlost, Watched.start]
      have hended : (r.lookAt (Watched.acts l.budget .start r.acts) clock).ended = none := by
        by_contra hsome
        obtain ⟨status, hstatus⟩ := Option.ne_none_iff_exists'.1 hsome
        have hseen : (r.endSeen (Watched.acts l.budget .start r.acts)).any (· ≤ clock) = true := by
          by_contra hlate
          simp [lookAt, hlate] at hstatus
        obtain ⟨reached, hend, hle⟩ := (Option.any_eq_true _ _).1 hseen
        refine hends ⟨reached, hend, fun ns htimeout => ?_⟩
        rw [decisive_of_lost hlost, hend, htimeout, Option.map_some, min?_filterMap_pair] at hdecisive
        have hclock : min reached (upAt ns) = clock := Option.some.inj hdecisive
        have hreached : reached ≤ clock := of_decide_eq_true hle
        omega
      simp only [bounded, hdecisive]
      cases hverdict : l.verdict (r.lookAt (Watched.acts l.budget .start r.acts) clock) with
      | wait => rfl
      | kill => rw [hdown]; rfl
      | finish status =>
          rw [Limits.verdict_eq_finish_iff, hended] at hverdict
          cases hverdict

end Run

namespace Metadata

variable {s : MetadataSettings}

/-- What the fetch of a tool comes to if nobody reads what it writes. -/
inductive Tool.Fails (t : Tool) (root : Path) (m : Machine) : FetchError → Prop
  | notFound (hfound : Tool.resolve m t.program = none) :
      Fails t root m (.toolNotFound t.program.shown)
  | notStarted {program : Path} {e : FileError} (hfound : Tool.resolve m t.program = some program)
      (hspawn : m.spawn (t.invocation program root) t.limits = .error e) :
      Fails t root m (.process (.spawn (t.invocation program root).display e))
  /-- The tool ended, and only then is it known that its output is lost. -/
  | lost {program : Path} {run : Run} {m' : Machine}
      (hfound : Tool.resolve m t.program = some program)
      (hspawn : m.spawn (t.invocation program root) t.limits = .ok (run, m'))
      (hends : run.EndsInTime t.limits) :
      Fails t root m (.process (.io (t.invocation program root).display .readerLost))
  | late {program : Path} {run : Run} {m' : Machine}
      (hfound : Tool.resolve m t.program = some program)
      (hspawn : m.spawn (t.invocation program root) t.limits = .ok (run, m'))
      (hends : ¬ run.EndsInTime t.limits) : Fails t root m
        (.process (.timeout (t.invocation program root).display (t.limits.timeout.getD 0)))

theorem Tool.fetch_of_lost {t : Tool} (hlost : readLimit? t.limits.budget = none) (root : Path)
    (m : Machine) : ∃ e, (t.fetch root m).1.1 = .error e ∧ t.Fails root m e := by
  unfold fetch
  cases hfound : resolve m t.program with
  | none => exact ⟨_, rfl, .notFound hfound⟩
  | some program =>
      simp only [Machine.execute]
      cases hspawn : m.spawn (t.invocation program root) t.limits with
      | error e => exact ⟨_, rfl, .notStarted hfound hspawn⟩
      | ok started =>
          obtain ⟨run, m'⟩ := started
          by_cases hends : run.EndsInTime t.limits
          · simp only [Run.bounded_of_endsInTime hlost hends]
            exact ⟨_, rfl, .lost hfound hspawn hends⟩
          · simp only [Run.bounded_of_not_endsInTime hlost hends]
            exact ⟨_, rfl, .late hfound hspawn hends⟩

theorem budget_ofSettings : (Tool.ofSettings s).limits.budget = 18446744073709551615 ↔
    s.maxBuffer = some 18446744073709551615 := by
  cases h : s.maxBuffer with
  | none => simp [Tool.ofSettings, MetadataSettings.outputBudget, h]
  | some n => simp [Tool.ofSettings, MetadataSettings.outputBudget, h]

theorem deadline_ofSettings : (Tool.ofSettings s).limits.deadline? now = none ↔
    ∃ secs, s.timeout? = some secs ∧ 9223372036854775807 < now.secs + secs.toNat := by
  rw [Limits.deadline?_eq_none_iff]
  cases h : s.timeout? with
  | none => simp [Tool.ofSettings, h]
  | some secs =>
      simp only [Tool.ofSettings, h, Option.map_some, Option.some.injEq, exists_eq_left',
        Instant.later?_eq_none_iff, Instant.secs]
      omega

/-- What becomes of the two sums for settings that may hold any numbers. -/
structure Sums (s : MetadataSettings) : Prop where
  /-- They are what they are meant to be but at the ends of the ranges. -/
  exact_iff : ∀ now, (Tool.ofSettings s).limits.Exact now ↔
    s.maxBuffer ≠ some 18446744073709551615 ∧
      ∀ secs, s.timeout? = some secs → now.secs + secs.toNat ≤ 9223372036854775807
  /-- With the largest budget a run has no output, in whatever order its steps are taken. It times
  out, or fails for the readers or because the child cannot be looked at. -/
  unread : s.maxBuffer = some 18446744073709551615 → ∀ {now past state state' outcome},
    Supervision.Reaches (Tool.ofSettings s).limits now past state →
    Supervision.Step (Tool.ofSettings s).limits state state' →
    Supervision.Returns state state' outcome →
    outcome = .stopped .timeout ∨ outcome = .failed .readerLost ∨
      ∃ e, state.parent = .abandoning e ∧ outcome = .failed e
  /-- So nothing is fetched, whatever the tool writes. -/
  unfetched : s.maxBuffer = some 18446744073709551615 → ∀ root m,
    ∃ e, ((Tool.ofSettings s).fetch root m).1.1 = .error e ∧ (Tool.ofSettings s).Fails root m e
  /-- Without a deadline that is an instant there is no outcome of any kind. -/
  crashed : ∀ {now : Instant} {past state}, (∃ secs, s.timeout? = some secs ∧
      9223372036854775807 < now.secs + secs.toNat) →
    Supervision.Reaches (Tool.ofSettings s).limits now past state →
    state.parent = .starting ∨ state.parent = .crashed

theorem sums_ofSettings (s : MetadataSettings) : Sums s where
  exact_iff now := by
    rw [Limits.exact_iff, ne_eq, budget_ofSettings, ne_eq, ne_eq, deadline_ofSettings]
    simp only [not_exists, not_and, Int.not_lt]
  unread hlargest _ _ _ _ _ h hstep hreturns :=
    h.outcome_of_lost (readLimit?_eq_none_iff.2 (budget_ofSettings.2 hlargest)) hstep hreturns
  unfetched hlargest root m :=
    Tool.fetch_of_lost (readLimit?_eq_none_iff.2 (budget_ofSettings.2 hlargest)) root m
  crashed hlate h := h.parent_of_unreachable (deadline_ofSettings.2 hlate)

/-- The largest budget and the longest timeout both miss what they are meant to give. With the
largest budget, a child that writes a line and ends is no success. -/
theorem not_exact_largest :
    ¬ (Tool.ofSettings ⟨none, none, none, some 18446744073709551615, none⟩).limits.Exact
        ⟨0, by decide, by decide⟩ ∧
      Run.bounded ⟨[.write .out [123, 125, 10]], some (.exited 0), []⟩
          (Tool.ofSettings ⟨none, none, none, some 18446744073709551615, none⟩).limits =
        .failed .readerLost ∧
      ¬ (Tool.ofSettings ⟨none, none, none, none, some 18446744073709551615⟩).limits.Exact
        ⟨0, by decide, by decide⟩ := by
  refine ⟨fun h => (Limits.exact_iff.1 h).1 rfl, by decide, fun h => ?_⟩
  exact (Limits.exact_iff.1 h).2 (deadline_ofSettings.2 ⟨_, rfl, by decide⟩)

end Metadata

end CrateGraph
