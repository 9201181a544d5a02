import CrateGraph.Process.Interleaving
import CrateGraph.Proofs.Process.Clock

/-!
# What every order of steps keeps

The programs of a run, its readers, the clock and its parent take turns in any order. Nothing that
one of them did is undone by another: a child that ended stays ended, a raised flag stays up, what
was written stays written, and what a reader returned stays as it is. So what the parent has seen
at one moment still holds at the next, whatever happened in between.

What a reader took is always the beginning of what was written. A reader that is not lost stops
for two reasons only: it has one byte more than the budget, or there is nothing left and never will
be. That is why bytes within the budget are all the bytes there are.

## Main results

* `Step.grows` — nothing is undone.
* `Returns.cases` — how the parent can return.
* `Pipe.Step.sound` — what a step of a stream keeps of its reader.
* `Reaches.inv` — what holds after any number of steps.
-/

namespace CrateGraph

/-- Only the largest budget has no number after it. -/
theorem readLimit?_eq_none_iff {budget : UInt64} :
    readLimit? budget = none ↔ budget = 18446744073709551615 := by
  simp [readLimit?]

/-- What is read is one byte more than the budget. -/
theorem toNat_readLimit {budget limit : UInt64} (hlimit : readLimit? budget = some limit) :
    limit.toNat = budget.toNat + 1 := by
  unfold readLimit? at hlimit
  split at hlimit
  · cases hlimit
  · rename_i hlargest
    have hlt : budget.toNat < 2 ^ 64 := budget.toNat_lt_size
    have hne : budget.toNat ≠ 18446744073709551615 := fun h => hlargest (UInt64.toNat_inj.1 h)
    have hsum : budget.toNat + 1 < 2 ^ 64 := by omega
    cases hlimit
    rw [UInt64.toNat_add]
    exact Nat.mod_eq_of_lt hsum

theorem exists_readLimit {budget : UInt64} (hbudget : budget.toNat + 1 < UInt64.size) :
    ∃ limit, readLimit? budget = some limit := by
  refine Option.ne_none_iff_exists'.1 fun h => ?_
  rw [readLimit?_eq_none_iff] at h
  exact absurd hbudget (by rw [h]; decide)

namespace Limits

variable {l : Limits} {look : Look} {status : Status} {out err : Bytes}

/-! ## Decisions -/

theorem verdict_eq_finish_iff : l.verdict look = .finish status ↔ look.ended = some status := by
  cases h : look.ended with
  | none =>
      simp only [verdict, h, reduceCtorEq, iff_false]
      split <;> simp
  | some status' => simp [verdict, h]

theorem verdict_eq_kill_iff : l.verdict look = .kill ↔
    look.ended = none ∧ (look.overflow = true ∨ l.isUp look.clock = true) := by
  cases h : look.ended with
  | some status => simp [verdict, h]
  | none => cases hoverflow : look.overflow <;> simp [verdict, h, hoverflow]

theorem verdict_eq_wait_iff : l.verdict look = .wait ↔
    look.ended = none ∧ look.overflow = false ∧ l.isUp look.clock = false := by
  cases h : look.ended with
  | some status => simp [verdict, h]
  | none => cases hoverflow : look.overflow <;> simp [verdict, h, hoverflow]

theorem conclude_eq_output_iff {o : Output} : l.conclude status out err = .output o ↔
    o = ⟨status, out, err⟩ ∧ out.length ≤ l.budget.toNat ∧ err.length ≤ l.budget.toNat := by
  unfold conclude
  split
  · rename_i h
    simp only [reduceCtorEq, false_iff, Bool.or_eq_true, decide_eq_true_eq] at h ⊢
    omega
  · rename_i h
    simp only [Bool.or_eq_true, decide_eq_true_eq, not_or, Nat.not_lt] at h
    simp [h, eq_comm]

theorem conclude_eq_stopped_iff {why : Stopped} : l.conclude status out err = .stopped why ↔
    why = .outputLimit ∧ (l.budget.toNat < out.length ∨ l.budget.toNat < err.length) := by
  unfold conclude
  split
  · rename_i h
    simp only [Bool.or_eq_true, decide_eq_true_eq] at h
    simp [h, eq_comm]
  · rename_i h
    simp only [Bool.or_eq_true, decide_eq_true_eq] at h
    simp [h]

/-- What was read is never a reason for a run to fail. -/
theorem conclude_ne_failed {e : FileError} : l.conclude status out err ≠ .failed e := by
  unfold conclude
  split <;> nofun

end Limits

namespace Supervision

variable {l : Limits} {budget : UInt64} {now : Instant} {past : List State} {s s' : State}
  {p p' : Pipe} {raised : Bool} {taken : Bytes}

/-! ## Streams -/

/-- What a reader holds is the beginning of what was written, and no more than it may take. -/
structure Pipe.Holds (budget : UInt64) (p : Pipe) (taken : Bytes) : Prop where
  isPrefix : taken <+: p.written
  length_le : taken.length ≤ budget.toNat + 1

/-- A reader that is done has as much as it may take, or all there will ever be. There is a number
for how much it may take. -/
structure Pipe.Took (budget : UInt64) (p : Pipe) (taken : Bytes) : Prop
    extends Pipe.Holds budget p taken where
  limited : readLimit? budget ≠ none
  stopped : taken.length = budget.toNat + 1 ∨ p.isOpen = false ∧ taken = p.written

/-- What a reader has is what it should have. -/
structure Pipe.Sound (budget : UInt64) (p : Pipe) : Prop where
  reading : ∀ taken, p.reader = .reading taken → p.Holds budget taken
  finished : ∀ taken, p.reader = .finished taken → p.Took budget taken
  returned : ∀ taken, p.reader = .returned (.ok taken) → p.Took budget taken

theorem Pipe.Holds.grow (h : p.Holds budget taken) (hwritten : p.written <+: p'.written) :
    p'.Holds budget taken :=
  ⟨h.isPrefix.trans hwritten, h.length_le⟩

/-- As long as a stream is open, more can be written to it without harm to what was read. -/
theorem Pipe.Sound.write (h : p.Sound budget) (hopen : p.isOpen = true) (bytes : Bytes) :
    Pipe.Sound budget { p with written := p.written ++ bytes } := by
  have htook : ∀ taken, p.Took budget taken →
      Pipe.Took budget { p with written := p.written ++ bytes } taken := by
    intro taken htook
    refine ⟨htook.grow (List.prefix_append p.written bytes), htook.limited, .inl ?_⟩
    exact htook.stopped.resolve_right fun hclosed => by simp [hopen] at hclosed
  exact ⟨fun taken hr => (h.reading taken hr).grow (List.prefix_append p.written bytes),
    fun taken hr => htook taken (h.finished taken hr),
    fun taken hr => htook taken (h.returned taken hr)⟩

theorem Pipe.Sound.close (h : p.Sound budget) : Pipe.Sound budget { p with isOpen := false } := by
  have htook : ∀ taken, p.Took budget taken →
      Pipe.Took budget { p with isOpen := false } taken := fun taken htook =>
    ⟨⟨htook.isPrefix, htook.length_le⟩, htook.limited,
      htook.stopped.imp_right fun hall => ⟨rfl, hall.2⟩⟩
  exact ⟨fun taken hr => ⟨(h.reading taken hr).isPrefix, (h.reading taken hr).length_le⟩,
    fun taken hr => htook taken (h.finished taken hr),
    fun taken hr => htook taken (h.returned taken hr)⟩

/-- Whatever happens to a stream, its reader has what it should have. -/
theorem Pipe.Step.sound (h : p.Step budget raised p') (hp : p.Sound budget) :
    p'.Sound budget := by
  cases h with
  | write bytes hopen => exact hp.write hopen bytes
  | close => exact hp.close
  | read more hlimit hreading hmore hlength =>
      refine ⟨?_, by simp, by simp⟩
      rintro taken ⟨⟩
      exact ⟨hmore, toNat_readLimit hlimit ▸ hlength⟩
  | enough hlimit hreading hlength =>
      refine ⟨by simp, ?_, by simp⟩
      rintro taken ⟨⟩
      exact ⟨(hp.reading _ hreading).grow List.prefix_rfl, by simp [hlimit],
        .inl (toNat_readLimit hlimit ▸ hlength)⟩
  | all hlimit hreading hclosed hall =>
      refine ⟨by simp, ?_, by simp⟩
      rintro taken ⟨⟩
      exact ⟨(hp.reading _ hreading).grow List.prefix_rfl, by simp [hlimit],
        .inr ⟨hclosed, hall⟩⟩
  | fail | lose => exact ⟨by simp, by simp, by simp⟩
  | hand hfinished =>
      refine ⟨by simp, by simp, ?_⟩
      rintro taken ⟨⟩
      have htook := hp.finished _ hfinished
      exact ⟨⟨htook.isPrefix, htook.length_le⟩, htook.limited, htook.stopped⟩

/-- The flag is raised only if more than the budget was written. -/
theorem Pipe.Step.budget_lt (h : p.Step budget raised p') (hp : p.Sound budget)
    (hraised : raised = true) : budget.toNat < p'.written.length := by
  cases h with
  | hand hfinished =>
      have htook := hp.finished _ hfinished
      exact Nat.lt_of_lt_of_le (of_decide_eq_true hraised) htook.isPrefix.length_le
  | _ => cases hraised

theorem Pipe.Step.written_isPrefix (h : p.Step budget raised p') : p.written <+: p'.written := by
  cases h with
  | write bytes hopen => exact List.prefix_append p.written bytes
  | _ => exact List.prefix_rfl

theorem Pipe.Step.returned_of_returned {result : Except FileError Bytes}
    (h : p.Step budget raised p') (hreturned : p.reader = .returned result) :
    p'.reader = .returned result := by
  cases h with
  | write | close => exact hreturned
  | read _ _ hreading | enough _ hreading | all _ hreading | fail _ _ hreading | lose _ hreading
  | hand hreading =>
      rw [hreturned] at hreading
      cases hreading

/-- Bytes within the budget are all the bytes there are. -/
theorem Pipe.Took.complete (h : p.Took budget taken) (hlength : taken.length ≤ budget.toNat) :
    p.isOpen = false ∧ taken = p.written :=
  h.stopped.resolve_left (by omega)

/-! ## Nothing is undone -/

/-- What one state of a run has in common with those that come after it. -/
structure Grows (s s' : State) : Prop where
  clock : s.clock ≤ s'.clock
  child : ∀ status, s.child = some status → s'.child = some status
  overflow : s.overflow = true → s'.overflow = true
  written : ∀ stream, (s.pipe stream).written <+: (s'.pipe stream).written
  returned : ∀ stream result, (s.pipe stream).reader = .returned result →
    (s'.pipe stream).reader = .returned result

theorem Grows.of_eq (hclock : s'.clock = s.clock) (hpipe : s'.pipe = s.pipe)
    (hoverflow : s'.overflow = s.overflow)
    (hchild : ∀ status, s.child = some status → s'.child = some status) : Grows s s' where
  clock := hclock ▸ Instant.le_refl s.clock
  child := hchild
  overflow h := hoverflow ▸ h
  written stream := by rw [hpipe]
  returned stream result h := by rw [hpipe]; exact h

theorem Acts.grows (h : Acts l s s') : Grows s s' := by
  have hkilled : ∀ status, s.child = some status → s.killed.child = some status := by
    intro status hchild
    rw [State.killed, hchild]
    rfl
  cases h with
  | kill | abandon => exact .of_eq rfl rfl rfl hkilled
  | _ => exact .of_eq rfl rfl rfl fun _ hchild => hchild

theorem Step.grows (h : Step l s s') : Grows s s' := by
  cases h with
  | tick reading hclock => exact ⟨hclock, fun _ h => h, id, fun _ => List.prefix_rfl, fun _ _ => id⟩
  | exit status hrunning =>
      refine .of_eq rfl rfl rfl fun status' hended => ?_
      rw [hrunning] at hended
      cases hended
  | pipe stream hstep =>
      refine ⟨Instant.le_refl s.clock, fun _ h => h, ?_, ?_, ?_⟩
      · intro hup
        simp [State.withPipe, hup]
      · intro t
        by_cases ht : t = stream
        · subst ht
          simpa [State.withPipe] using hstep.written_isPrefix
        · simp [State.withPipe, ht]
      · intro t result hreturned
        by_cases ht : t = stream
        · subst ht
          simpa [State.withPipe] using hstep.returned_of_returned hreturned
        · simpa [State.withPipe, ht] using hreturned
  | parent hacts => exact hacts.grows

/-- A step is one of the parent, or leaves the parent as it is. -/
theorem Step.parent_or (h : Step l s s') :
    Acts l s s' ∨ s'.parent = s.parent ∧ s'.since = s.since := by
  cases h with
  | parent hacts => exact .inl hacts
  | _ => exact .inr ⟨rfl, rfl⟩

/-- The parent has three ways to return: it killed the child for a reason, it read both streams to
their ends, or something failed. -/
theorem Returns.cases {outcome : Run.Outcome} (hreturns : Returns s s' outcome) (h : Step l s s') :
    (s.parent = .choosing ∧ outcome = .stopped (.ofOverflow s.overflow)) ∨
      (∃ status out err, s.parent = .joiningErr status out ∧
        (s.pipe .err).reader = .returned (.ok err) ∧
        outcome = l.conclude status out err) ∨
      ∃ e, (s.parent = .abandoning e ∨ ∃ stream, (s.pipe stream).reader = .returned (.error e)) ∧
        outcome = .failed e := by
  obtain ⟨hbefore, hreturned⟩ := hreturns
  rcases h.parent_or with hacts | ⟨hparent, -⟩
  · cases hacts with
    | choose hp =>
        cases hreturned
        exact .inl ⟨hp, rfl⟩
    | conclude hp herr =>
        cases hreturned
        exact .inr (.inl ⟨_, _, _, hp, herr, rfl⟩)
    | abandon hp =>
        cases hreturned
        exact .inr (.inr ⟨_, .inl hp, rfl⟩)
    | joinFailed _ hreader | joinErrFailed _ hreader =>
        cases hreturned
        exact .inr (.inr ⟨_, .inr ⟨_, hreader⟩, rfl⟩)
    | decide hp =>
        rename_i ended overflow
        cases hverdict : l.verdict ⟨ended, overflow, s.elapsed⟩ <;>
          simp [hverdict, Parent.ofVerdict] at hreturned
    | _ => cases hreturned
  · exact absurd (hparent ▸ hreturned) (hbefore _)

/-! ## What the parent has seen -/

/-- What the parent has seen still holds. -/
structure Informed (s : State) : Prop where
  asked : ∀ status, s.parent = .asked (some status) → s.child = some status
  informed : ∀ status overflow, s.parent = .informed (some status) overflow →
    s.child = some status
  flag : ∀ ended, s.parent = .informed ended true → s.overflow = true
  joining : ∀ status, s.parent = .joining status → s.child = some status
  joiningErr : ∀ status out, s.parent = .joiningErr status out →
    s.child = some status ∧ (s.pipe .out).reader = .returned (.ok out)

theorem Informed.of_grows (h : Informed s) (hgrows : Grows s s') (hparent : s'.parent = s.parent) :
    Informed s' where
  asked status hp := hgrows.child status (h.asked status (hparent ▸ hp))
  informed status overflow hp := hgrows.child status (h.informed status overflow (hparent ▸ hp))
  flag ended hp := hgrows.overflow (h.flag ended (hparent ▸ hp))
  joining status hp := hgrows.child status (h.joining status (hparent ▸ hp))
  joiningErr status out hp := by
    obtain ⟨hchild, hreturned⟩ := h.joiningErr status out (hparent ▸ hp)
    exact ⟨hgrows.child status hchild, hgrows.returned .out _ hreturned⟩

theorem Informed.of_acts (h : Informed s) (hacts : Acts l s s') : Informed s' := by
  cases hacts with
  | ask hp =>
      refine ⟨?_, by simp, by simp, by simp, by simp⟩
      exact fun status hasked => Parent.asked.inj hasked
  | inform hp =>
      refine ⟨by simp, ?_, ?_, by simp, by simp⟩
      · rintro _ _ ⟨⟩
        exact h.asked _ hp
      · exact fun ended hinformed => (Parent.informed.inj hinformed).2
  | decide hp =>
      rename_i ended overflow
      cases hverdict : l.verdict ⟨ended, overflow, s.elapsed⟩ with
      | wait | kill => constructor <;> simp [Parent.ofVerdict]
      | finish status =>
          have hended : ended = some status := Limits.verdict_eq_finish_iff.1 hverdict
          refine ⟨by simp [Parent.ofVerdict], by simp [Parent.ofVerdict],
            by simp [Parent.ofVerdict], ?_, by simp [Parent.ofVerdict]⟩
          rintro _ ⟨⟩
          exact h.informed status overflow (hended ▸ hp)
  | join hp hout =>
      refine ⟨by simp, by simp, by simp, by simp, ?_⟩
      rintro _ _ ⟨⟩
      exact ⟨h.joining _ hp, hout⟩
  | _ => constructor <;> simp

/-! ## Why a child is killed -/

/-- Whether the deadline had passed at a look at which the child was running and the flag down. -/
def Late (l : Limits) (past : List State) (s : State) : Prop :=
  ∃ ns deadline, l.timeout = some ns ∧ s.since.later? ns = some deadline ∧
    ∃ poll ∈ past, poll.parent = .informed none false ∧ deadline ≤ poll.clock

theorem Late.of_step (h : Late l past s) (hsince : s'.since = s.since) : Late l (s :: past) s' := by
  obtain ⟨ns, deadline, htimeout, hlater, poll, hpoll, hlook⟩ := h
  exact ⟨ns, deadline, htimeout, hsince ▸ hlater, poll, List.mem_cons_of_mem s hpoll, hlook⟩

/-- Whether the parent is about to kill the child, or has done so. -/
def Condemns (s : State) : Prop := s.parent = .killing ∨ s.parent = .choosing

/-! ## Any number of steps -/

/-- What holds in every state of a run. -/
structure Inv (l : Limits) (now : Instant) (past : List State) (s : State) : Prop where
  begun : now ≤ s.since
  clock : s.since ≤ s.clock
  /-- The parent goes on only if the clock reaches the deadline. -/
  timed : s.parent = .starting ∨ s.parent = .crashed ∨ l.deadline? s.since ≠ none
  pipes : ∀ stream, (s.pipe stream).Sound l.budget
  flag : s.overflow = true → ∃ stream, l.budget.toNat < (s.pipe stream).written.length
  informed : Informed s
  /-- A child is killed only if the flag is up or its time was. -/
  condemned : Condemns s → s.overflow = true ∨ Late l past s

theorem inv_start (l : Limits) (now : Instant) : Inv l now [] (.start now) where
  begun := Instant.le_refl now
  clock := Instant.le_refl now
  timed := .inl rfl
  pipes stream := by
    refine ⟨?_, by simp [State.start], by simp [State.start]⟩
    rintro _ ⟨⟩
    exact ⟨List.prefix_rfl, Nat.zero_le _⟩
  flag h := by cases h
  informed := by constructor <;> simp [State.start]
  condemned h := by rcases h with h | h <;> cases h

/-- Of the streams and the flag the parent changes nothing. -/
theorem Acts.shared_eq (h : Acts l s s') : s'.pipe = s.pipe ∧ s'.overflow = s.overflow := by
  cases h <;> exact ⟨rfl, rfl⟩

/-- The parent finds the deadline once, from what the clock shows then. -/
theorem Acts.since_eq (h : Acts l s s') :
    s.parent = .starting ∧ s'.since = s.clock ∧ l.deadline? s'.since ≠ none ∨
      s'.since = s.since := by
  cases h with
  | begin hp hdeadline => exact .inl ⟨hp, rfl, by simp [hdeadline]⟩
  | _ => exact .inr rfl

theorem Step.pipes_sound (hpipes : ∀ stream, (s.pipe stream).Sound l.budget)
    (h : Step l s s') (stream : Stream) : (s'.pipe stream).Sound l.budget := by
  cases h with
  | tick | exit => exact hpipes stream
  | pipe changed hstep =>
      by_cases hstream : stream = changed
      · subst hstream
        simpa [State.withPipe] using hstep.sound (hpipes stream)
      · simpa [State.withPipe, hstream] using hpipes stream
  | parent hacts =>
      rw [hacts.shared_eq.1]
      exact hpipes stream

/-- A stream that went over the budget remains one. -/
theorem Grows.exists_budget_lt (h : Grows s s')
    (hover : ∃ stream, l.budget.toNat < (s.pipe stream).written.length) :
    ∃ stream, l.budget.toNat < (s'.pipe stream).written.length := by
  obtain ⟨stream, hstream⟩ := hover
  exact ⟨stream, Nat.lt_of_lt_of_le hstream (h.written stream).length_le⟩

theorem Step.exists_budget_lt (hpipes : ∀ stream, (s.pipe stream).Sound l.budget)
    (hflag : s.overflow = true → ∃ stream, l.budget.toNat < (s.pipe stream).written.length)
    (h : Step l s s') (hup : s'.overflow = true) :
    ∃ stream, l.budget.toNat < (s'.pipe stream).written.length := by
  have hbefore : s.overflow = true →
      ∃ stream, l.budget.toNat < (s'.pipe stream).written.length := fun hup =>
    h.grows.exists_budget_lt (hflag hup)
  cases h with
  | tick | exit => exact hbefore hup
  | pipe changed hstep =>
      rcases Bool.or_eq_true_iff.1 hup with hup | hraised
      · exact hbefore hup
      · exact ⟨changed, by simpa [State.withPipe] using hstep.budget_lt (hpipes changed) hraised⟩
  | parent hacts => exact hbefore (hacts.shared_eq.2 ▸ hup)

/-- The parent kills the child only after a look at which the flag was up or the time was. -/
theorem Acts.condemned (h : Inv l now past s) (hacts : Acts l s s') (hcondemns : Condemns s') :
    s'.overflow = true ∨ Late l (s :: past) s' := by
  have hstays : Condemns s → s'.since = s.since → s'.overflow = true ∨ Late l (s :: past) s' :=
    fun hcondemns hsince =>
      (h.condemned hcondemns).imp hacts.grows.overflow fun hlate => hlate.of_step hsince
  cases hacts with
  | kill hp => exact hstays (.inl hp) rfl
  | decide hp =>
      rename_i ended overflow
      cases hverdict : l.verdict ⟨ended, overflow, s.elapsed⟩ with
      | wait | finish => simp [Condemns, hverdict, Parent.ofVerdict] at hcondemns
      | kill =>
          obtain ⟨hended, hwhy⟩ := Limits.verdict_eq_kill_iff.1 hverdict
          simp only at hended hwhy
          subst hended
          cases overflow with
          | true => exact .inl (h.informed.flag none hp)
          | false =>
              have hstart : l.deadline? s.since ≠ none := by
                rcases h.timed with hstarting | hcrashed | hdeadline
                · rw [hp] at hstarting
                  cases hstarting
                · rw [hp] at hcrashed
                  cases hcrashed
                · exact hdeadline
              have hup : l.isUp s.elapsed = true := hwhy.resolve_left (by simp)
              obtain ⟨ns, deadline, htimeout, hlater, hle⟩ :=
                (Limits.isUp_iff hstart h.clock).1 hup
              exact .inr ⟨ns, deadline, htimeout, hlater, s, List.mem_cons_self, hp, hle⟩
  | _ => simp [Condemns] at hcondemns

/-- The parent goes on only if the clock reaches the deadline. -/
theorem Acts.timed (h : Inv l now past s) (hacts : Acts l s s') :
    s'.parent = .starting ∨ s'.parent = .crashed ∨ l.deadline? s'.since ≠ none := by
  cases hacts with
  | begin hp hdeadline => exact .inr (.inr (by simp [hdeadline]))
  | crash => exact .inr (.inl rfl)
  | ask hp | askFailed _ hp | inform hp | decide hp | kill hp | choose hp | abandon hp | join hp
  | joinFailed hp | conclude hp | joinErrFailed hp =>
      have htimed := h.timed
      rw [hp] at htimed
      have hdeadline : l.deadline? s.since ≠ none := by simpa using htimed
      exact .inr (.inr hdeadline)

theorem Inv.step (h : Inv l now past s) (hstep : Step l s s') : Inv l now (s :: past) s' where
  begun := by
    rcases hstep.parent_or with hacts | ⟨-, hsince⟩
    · rcases hacts.since_eq with ⟨-, hsince, -⟩ | hsince
      · exact hsince ▸ Instant.le_trans h.begun h.clock
      · exact hsince ▸ h.begun
    · exact hsince ▸ h.begun
  clock := by
    have hkept : s'.since = s.since → s'.since ≤ s'.clock := fun hsince =>
      hsince ▸ Instant.le_trans h.clock hstep.grows.clock
    rcases hstep.parent_or with hacts | ⟨-, hsince⟩
    · rcases hacts.since_eq with ⟨-, hsince, -⟩ | hsince
      · exact hsince ▸ hstep.grows.clock
      · exact hkept hsince
    · exact hkept hsince
  timed := by
    rcases hstep.parent_or with hacts | ⟨hparent, hsince⟩
    · exact hacts.timed h
    · rw [hparent, hsince]
      exact h.timed
  pipes := hstep.pipes_sound h.pipes
  flag := hstep.exists_budget_lt h.pipes h.flag
  informed := by
    rcases hstep.parent_or with hacts | ⟨hparent, -⟩
    · exact h.informed.of_acts hacts
    · exact h.informed.of_grows hstep.grows hparent
  condemned hcondemns := by
    rcases hstep.parent_or with hacts | ⟨hparent, hsince⟩
    · exact hacts.condemned h hcondemns
    · rw [Condemns, hparent] at hcondemns
      exact (h.condemned hcondemns).imp hstep.grows.overflow fun hlate => hlate.of_step hsince

/-- Whatever the order of the steps, the invariant holds after any number of them. -/
theorem Reaches.inv (h : Reaches l now past s) : Inv l now past s := by
  induction h with
  | start => exact inv_start l now
  | step _ hstep ih => exact ih.step hstep

end Supervision

end CrateGraph
