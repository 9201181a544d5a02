import CrateGraph.Proofs.Process.Interleaving

/-!
# What comes of a run of which the times are known

`Run.bounded` finds the first look that decides, and what comes of the run from what is seen then.
There are three ways for a look to decide: the child has ended, a stream went over the budget, or
the time is up. Which of them it is depends on the times, but what comes of each does not: after
the end it depends on what was written alone.

So every answer of `Run.bounded` is what the step by step model of a run gives for some order of
its steps. The order that shows it lets the programs write all that matters first, has it read, and
lets the parent look once.

## Main results

* `Watched.overflow_acts_iff` — which runs are noted to go over the budget.
* `Run.gives_bounded` — what can come of a run, and when.
* `Supervision.canReturn_bounded` — some order of the steps ends with the same.
-/

namespace CrateGraph

variable {l : Limits} {budget : UInt64} {w : Watched} {a : Act} {as : List Act} {r : Run}
  {stream : Stream} {now : Instant} {limit : UInt64}

/-! ## Going over the budget -/

theorem overBudget_iff (hlimit : readLimit? budget = some limit) (size : Nat) :
    overBudget budget size = true ↔ budget.toNat < size := by
  rw [overBudget, hlimit, Option.any_some, toNat_readLimit hlimit, decide_eq_true_eq]
  omega

/-- Whether there was too much can be told from what is read. -/
theorem lt_length_take_iff (hlimit : readLimit? budget = some limit) (bytes : Bytes) :
    budget.toNat < (bytes.take limit.toNat).length ↔ budget.toNat < bytes.length := by
  rw [toNat_readLimit hlimit, List.length_take]
  omega

/-- What is within the budget is read to its end. -/
theorem take_limit (hlimit : readLimit? budget = some limit) {bytes : Bytes}
    (hlength : bytes.length ≤ budget.toNat) : bytes.take limit.toNat = bytes := by
  rw [toNat_readLimit hlimit]
  exact List.take_of_length_le (by omega)

/-- Whether more than the budget is written to a stream. -/
def Overruns (budget : UInt64) (as : List Act) (stream : Stream) : Prop :=
  .flood stream ∈ as ∨ budget.toNat < (as.flatMap (Act.bytesTo stream)).length

namespace Watched

/-- The number of bytes that were written to a stream. -/
def size (w : Watched) : Stream → Nat
  | .out => w.outSize
  | .err => w.errSize

/-- Whether it is noted if a stream has gone over the budget. -/
def Notes (budget : UInt64) (w : Watched) : Prop :=
  ∀ stream, budget.toNat < w.size stream → w.overflow.isSome = true

theorem size_check : (check budget w).size stream = w.size stream := by
  unfold check
  split <;> cases stream <;> rfl

theorem overflow_check (hlimit : readLimit? budget = some limit) :
    (check budget w).overflow.isSome = true ↔
      w.overflow.isSome = true ∨ ∃ stream, budget.toNat < w.size stream := by
  have hover : (overBudget budget w.outSize || overBudget budget w.errSize) = true ↔
      ∃ stream, budget.toNat < w.size stream := by
    rw [Bool.or_eq_true, overBudget_iff hlimit, overBudget_iff hlimit]
    constructor
    · rintro (hout | herr)
      · exact ⟨.out, hout⟩
      · exact ⟨.err, herr⟩
    · rintro ⟨_ | _, h⟩
      · exact .inl h
      · exact .inr h
  rw [← hover, check]
  cases hoverflow : w.overflow with
  | none =>
      rw [Option.isNone_none, Bool.true_and]
      split
      · rename_i hsizes
        exact iff_of_true rfl (.inr hsizes)
      · rename_i hsizes
        simp [hoverflow, hsizes]
  | some ms => exact iff_of_true (by simp [hoverflow]) (.inl rfl)

theorem size_act : (act budget w a).size stream = w.size stream + (a.bytesTo stream).length := by
  cases a with
  | write t bytes =>
      cases t <;> rw [act, size_check] <;> cases stream <;> simp [size, Act.bytesTo]
  | pause ms => cases stream <;> rfl
  | flood t =>
      rw [act]
      split <;> cases stream <;> rfl

theorem overflow_act (hlimit : readLimit? budget = some limit) (hnotes : w.Notes budget) :
    (act budget w a).overflow.isSome = true ↔ w.overflow.isSome = true ∨
      ∃ stream, a = .flood stream ∨ budget.toNat < (act budget w a).size stream := by
  cases a with
  | write t bytes =>
      cases t <;> simp [act, overflow_check hlimit, size_check]
  | pause ms =>
      simp only [reduceCtorEq, false_or]
      refine ⟨.inl, fun h => h.elim id ?_⟩
      rintro ⟨stream, hover⟩
      rw [size_act] at hover
      exact hnotes stream (by simpa [Act.bytesTo] using hover)
  | flood t =>
      rw [act, hlimit, if_neg (by simp)]
      exact iff_of_true (by cases w.overflow <;> rfl) (.inr ⟨t, .inl rfl⟩)

theorem Notes.act (hlimit : readLimit? budget = some limit) (hnotes : w.Notes budget) :
    (act budget w a).Notes budget := fun stream hover =>
  (overflow_act hlimit hnotes).2 (.inr ⟨stream, .inr hover⟩)

theorem overflow_acts (hlimit : readLimit? budget = some limit) (hnotes : w.Notes budget)
    (as : List Act) :
    (acts budget w as).overflow.isSome = true ↔ w.overflow.isSome = true ∨ ∃ stream,
      .flood stream ∈ as ∨
        budget.toNat < w.size stream + (as.flatMap (Act.bytesTo stream)).length := by
  induction as generalizing w with
  | nil =>
      simp only [acts, List.foldl_nil, List.not_mem_nil, false_or, List.flatMap_nil,
        List.length_nil, Nat.add_zero]
      refine ⟨.inl, fun h => h.elim id ?_⟩
      rintro ⟨stream, hover⟩
      exact hnotes stream hover
  | cons a as ih =>
      rw [acts, List.foldl_cons, ← acts, ih (hnotes.act hlimit), overflow_act hlimit hnotes,
        or_assoc, ← exists_or]
      refine or_congr_right (exists_congr fun stream => ?_)
      rw [size_act, List.mem_cons, List.flatMap_cons, List.length_append, ← Nat.add_assoc,
        eq_comm]
      have hmore : budget.toNat < w.size stream + (a.bytesTo stream).length →
          budget.toNat < w.size stream + (a.bytesTo stream).length +
            (as.flatMap (Act.bytesTo stream)).length := Nat.lt_add_right _
      tauto

/-- A run is noted to go over the budget exactly if more than the budget is written to one of the
streams. -/
theorem overflow_acts_iff (hlimit : readLimit? budget = some limit) (as : List Act) :
    (acts budget .start as).overflow.isSome = true ↔ ∃ stream, Overruns budget as stream := by
  have hnotes : start.Notes budget := by
    intro stream hover
    cases stream <;> cases hover
  have hsize : ∀ stream, start.size stream = 0 := by
    intro stream
    cases stream <;> rfl
  simp only [overflow_acts hlimit hnotes, hsize, Nat.zero_add, Overruns]
  exact or_iff_right (by simp [start])

theorem acts_append (as bs : List Act) :
    acts budget w (as ++ bs) = acts budget (acts budget w as) bs :=
  List.foldl_append

end Watched

/-! ## What can come of a run -/

namespace Run

/-- Whether something puts an end to a run: the child ends, goes over the budget or has only so
much time. -/
def Stops (r : Run) (l : Limits) : Prop :=
  r.status.isSome = true ∨ (∃ stream, Overruns l.budget r.acts stream) ∨ l.timeout.isSome = true

/-- What can come of a run, and when. -/
inductive Gives (r : Run) (l : Limits) : Run.Outcome → Prop
  | whole {status : Status} (hstatus : r.status = some status)
      (hwithin : ∀ stream, ¬ Overruns l.budget (r.acts ++ r.left) stream) :
      Gives r l (.output ⟨status, r.written .out, r.written .err⟩)
  /-- The child ended, but more than the budget was written. -/
  | tooMuch {status : Status} (stream : Stream) (hstatus : r.status = some status)
      (hover : Overruns l.budget (r.acts ++ r.left) stream) : Gives r l (.stopped .outputLimit)
  /-- The child was killed for what it wrote. -/
  | flooded (stream : Stream) (hover : Overruns l.budget r.acts stream) :
      Gives r l (.stopped .outputLimit)
  | late {ns : Nat} (htimeout : l.timeout = some ns) : Gives r l (.stopped .timeout)

theorem length_written_le (hwithin : ¬ Overruns budget (r.acts ++ r.left) stream) :
    (r.written stream).length ≤ budget.toNat :=
  Nat.le_of_not_lt fun hover => hwithin (.inr hover)

/-- What is written without going over the budget is all in the output. -/
theorem conclude_written (hlimit : readLimit? l.budget = some limit) (status : Status)
    (hwithin : ∀ stream, ¬ Overruns l.budget (r.acts ++ r.left) stream) :
    l.conclude status ((r.written .out).take limit.toNat) ((r.written .err).take limit.toNat) =
      .output ⟨status, r.written .out, r.written .err⟩ := by
  have hlength : ∀ stream, (r.written stream).length ≤ l.budget.toNat := fun stream =>
    length_written_le (hwithin stream)
  rw [take_limit hlimit (hlength .out), take_limit hlimit (hlength .err),
    Limits.conclude_eq_output_iff]
  exact ⟨rfl, hlength .out, hlength .err⟩

theorem le_pollAt (ms : Nat) : ms ≤ pollAt ms := by
  have := Nat.div_add_mod (ms + pollInterval - 1) pollInterval
  simp only [pollAt, pollInterval] at *
  omega

/-- When the parent looks because the time is up, it is. -/
theorem le_upAt (ns : Nat) : ns ≤ upAt ns * nanosPerMilli := by
  have := le_pollAt ((ns + nanosPerMilli - 1) / nanosPerMilli)
  simp only [upAt, nanosPerMilli] at *
  omega

/-- A look is decisive because of something that is seen at it. -/
theorem decisive_eq_some {clock : Nat} (h : r.decisive w l = some clock) :
    r.endSeen w = some clock ∨ w.overflow.map seenAt = some clock ∨
      l.timeout.map upAt = some clock := by
  have hmem := List.min?_mem h
  simpa [eq_comm] using hmem

theorem decisive_eq_none (h : r.decisive w l = none) :
    r.status = none ∧ w.overflow = none ∧ l.timeout = none := by
  rw [decisive, List.min?_eq_none_iff] at h
  cases hstatus : r.status <;> cases hoverflow : w.overflow <;> cases htimeout : l.timeout <;>
    simp_all [endSeen]

/-- At the decisive look the parent does not go on waiting. -/
theorem verdict_lookAt_ne_wait {clock : Nat} (h : r.decisive w l = some clock) :
    l.verdict (r.lookAt w clock) ≠ .wait := by
  intro hwait
  obtain ⟨hended, hoverflow, hup⟩ := Limits.verdict_eq_wait_iff.1 hwait
  rcases decisive_eq_some h with hend | hover | htime
  · have hstatus : r.status = none := by simpa [lookAt, hend] using hended
    simp [endSeen, hstatus] at hend
  · simp [lookAt, hover] at hoverflow
  · obtain ⟨ns, htimeout, rfl⟩ := Option.map_eq_some_iff.1 htime
    simp [Limits.isUp, htimeout, lookAt, le_upAt] at hup

theorem overflow_of_lookAt {clock : Nat} (h : (r.lookAt w clock).overflow = true) :
    w.overflow.isSome = true := by
  obtain ⟨ms, hms, -⟩ := (Option.any_eq_true _ _).1 h
  obtain ⟨reached, hreached, -⟩ := Option.map_eq_some_iff.1 hms
  rw [hreached]
  rfl

theorem status_of_lookAt {clock : Nat} {status : Status}
    (h : (r.lookAt w clock).ended = some status) : r.status = some status := by
  unfold lookAt at h
  split at h
  · exact h
  · cases h

/-- Nothing else than what `Gives` names comes of a run that stops. -/
theorem gives_bounded (hbudget : l.budget.toNat + 1 < UInt64.size) (hstops : r.Stops l) :
    r.Gives l (r.bounded l) := by
  obtain ⟨limit, hlimit⟩ := exists_readLimit hbudget
  have hover : ∀ as, (Watched.acts l.budget .start as).overflow.isSome = true ↔
      ∃ stream, Overruns l.budget as stream := Watched.overflow_acts_iff hlimit
  cases hdecisive : r.decisive (Watched.acts l.budget .start r.acts) l with
  | none =>
      obtain ⟨hstatus, hoverflow, htimeout⟩ := decisive_eq_none hdecisive
      rw [Stops, ← hover, hstatus, hoverflow, htimeout] at hstops
      simp at hstops
  | some clock =>
      simp only [bounded, hdecisive]
      cases hverdict : l.verdict (r.lookAt (Watched.acts l.budget .start r.acts) clock) with
      | wait => exact absurd hverdict (verdict_lookAt_ne_wait hdecisive)
      | finish status =>
          have hstatus := status_of_lookAt (Limits.verdict_eq_finish_iff.1 hverdict)
          simp only [finished, hlimit, ← Watched.acts_append]
          split
          · rename_i hsome
            obtain ⟨stream, hstream⟩ := (hover _).1 hsome
            exact .tooMuch stream hstatus hstream
          · rename_i hsome
            have hwithin := fun stream hstream => hsome ((hover _).2 ⟨stream, hstream⟩)
            rw [conclude_written hlimit status hwithin]
            exact .whole hstatus hwithin
      | kill =>
          obtain ⟨-, hwhy⟩ := Limits.verdict_eq_kill_iff.1 hverdict
          cases hflag : (r.lookAt (Watched.acts l.budget .start r.acts) clock).overflow with
          | true =>
              obtain ⟨stream, hstream⟩ := (hover _).1 (overflow_of_lookAt hflag)
              exact .flooded stream hstream
          | false =>
              have hup := hwhy.resolve_left (by simp [hflag])
              obtain ⟨ns, htimeout, -⟩ := (Option.any_eq_true _ _).1 hup
              exact .late htimeout

/-- Whether these bytes may have been written to a stream in a run so far. What comes after a
flood is not known. -/
def MayWrite (r : Run) (stream : Stream) (bytes : Bytes) : Prop :=
  bytes <+: r.written stream ∨ .flood stream ∈ r.acts ++ r.left

/-- A stream that goes over the budget can be written so far that it has. -/
theorem exists_mayWrite (hover : Overruns budget as stream) (has : as <+: r.acts ++ r.left) :
    ∃ bytes : Stream → Bytes, (∀ t, r.MayWrite t (bytes t)) ∧
      budget.toNat < (bytes stream).length := by
  obtain ⟨rest, hrest⟩ := has
  have hmay : ∃ long, r.MayWrite stream long ∧ budget.toNat < long.length := by
    rcases hover with hflood | hlength
    · exact ⟨List.replicate (budget.toNat + 1) 0,
        .inr (hrest ▸ List.mem_append_left rest hflood), by simp⟩
    · refine ⟨as.flatMap (Act.bytesTo stream), .inl ?_, hlength⟩
      rw [written, ← hrest, List.flatMap_append]
      exact List.prefix_append _ _
  obtain ⟨long, hlong, hlength⟩ := hmay
  refine ⟨fun t => if t = stream then long else [], fun t => ?_, by simpa using hlength⟩
  show r.MayWrite t (if t = stream then long else [])
  split
  · rename_i ht
    exact ht ▸ hlong
  · exact .inl List.nil_prefix

end Run

namespace Supervision

variable {s s' : State} {p p' : Pipe} {raised : Bool}

/-! ## One order of the steps -/

/-- Some steps lead from one state to another. -/
def Leads (l : Limits) : State → State → Prop := Relation.ReflTransGen (Step l)

theorem Reaches.leads {past : List State} (h : Reaches l now past s) (hleads : Leads l s s') :
    ∃ past', Reaches l now past' s' := by
  induction hleads with
  | refl => exact ⟨past, h⟩
  | tail _ hstep ih =>
      obtain ⟨past', hreaches⟩ := ih
      exact ⟨_, hreaches.step hstep⟩

@[simp] theorem State.withPipe_pipe_self : (s.withPipe stream raised p).pipe stream = p := by
  simp [State.withPipe]

theorem State.withPipe_withPipe :
    (s.withPipe stream false p).withPipe stream raised p' = s.withPipe stream raised p' := by
  simp only [State.withPipe, Bool.or_false, State.mk.injEq, and_true, true_and]
  funext t
  split <;> rfl

theorem Step.withPipe (h : p.Step l.budget raised p') :
    Step l (s.withPipe stream false p) (s.withPipe stream raised p') := by
  have hpipe : ((s.withPipe stream false p).pipe stream).Step l.budget raised p' := by
    rwa [State.withPipe_pipe_self]
  have hstep := Step.pipe stream hpipe
  rwa [State.withPipe_withPipe] at hstep

/-- A stream to which all was written, and of which was read what there is to read. -/
def Pipe.drained (limit : UInt64) (bytes : Bytes) : Pipe :=
  ⟨bytes, false, .returned (.ok (bytes.take limit.toNat))⟩

/-- The run after all was written to a stream and read from it. -/
def State.drain (budget limit : UInt64) (stream : Stream) (bytes : Bytes) (s : State) : State :=
  s.withPipe stream (decide (budget.toNat < (bytes.take limit.toNat).length))
    (.drained limit bytes)

theorem leads_drain (hlimit : readLimit? l.budget = some limit) (bytes : Bytes)
    (hpipe : s.pipe stream = ⟨[], true, .reading []⟩) :
    Leads l s (s.drain l.budget limit stream bytes) := by
  have htaken : [] ++ bytes.take limit.toNat <+: bytes := List.take_prefix _ bytes
  have hlength : (bytes.take limit.toNat).length ≤ limit.toNat := List.length_take_le _ bytes
  have hwrite : Step l s (s.withPipe stream false ⟨bytes, true, .reading []⟩) :=
    .pipe stream (hpipe ▸ .write bytes rfl)
  have hclose : Step l (s.withPipe stream false ⟨bytes, true, .reading []⟩)
      (s.withPipe stream false ⟨bytes, false, .reading []⟩) := Step.withPipe .close
  have hread : Step l (s.withPipe stream false ⟨bytes, false, .reading []⟩)
      (s.withPipe stream false ⟨bytes, false, .reading ([] ++ bytes.take limit.toNat)⟩) :=
    Step.withPipe (.read _ hlimit rfl htaken hlength)
  have hfinish : Step l
      (s.withPipe stream false ⟨bytes, false, .reading (bytes.take limit.toNat)⟩)
      (s.withPipe stream false ⟨bytes, false, .finished (bytes.take limit.toNat)⟩) := by
    by_cases hall : bytes.length ≤ limit.toNat
    · exact Step.withPipe (.all hlimit rfl rfl (List.take_of_length_le hall))
    · refine Step.withPipe (.enough hlimit rfl ?_)
      rw [List.length_take]
      omega
  have hhand : Step l
      (s.withPipe stream false ⟨bytes, false, .finished (bytes.take limit.toNat)⟩)
      (s.drain l.budget limit stream bytes) := Step.withPipe (.hand rfl)
  exact .tail (.tail (.tail (.tail (.single hwrite) hclose) hread) hfinish) hhand

/-- A run in which all was written and read, and the parent has yet to look. -/
def State.drained (now : Instant) (budget limit : UInt64) (bytes : Stream → Bytes) : State where
  clock := now
  since := now
  child := none
  pipe stream := .drained limit (bytes stream)
  overflow := decide (budget.toNat < ((bytes .out).take limit.toNat).length) ||
    decide (budget.toNat < ((bytes .err).take limit.toNat).length)
  parent := .looking

theorem reaches_drained (hlimit : readLimit? l.budget = some limit)
    (hdeadline : l.deadline? now ≠ none) (bytes : Stream → Bytes) :
    ∃ past, Reaches l now past (.drained now l.budget limit bytes) := by
  obtain ⟨deadline, hdeadline⟩ := Option.ne_none_iff_exists'.1 hdeadline
  let looking : State := { State.start now with parent := .looking }
  have hbegin : Reaches l now [.start now] looking :=
    .step .start (.parent (.begin rfl hdeadline))
  let outRead : State := looking.drain l.budget limit .out (bytes .out)
  have hout : Leads l looking outRead := leads_drain hlimit _ rfl
  have herr : Leads l outRead (outRead.drain l.budget limit .err (bytes .err)) :=
    leads_drain hlimit _ rfl
  have hdrained : State.drained now l.budget limit bytes =
      outRead.drain l.budget limit .err (bytes .err) := by
    simp only [State.drained, outRead, State.drain, State.withPipe, State.mk.injEq]
    refine ⟨rfl, rfl, rfl, ?_, rfl, rfl⟩
    funext stream
    cases stream <;> rfl
  exact hdrained ▸ hbegin.leads (hout.trans herr)

/-- Some order of steps returns an outcome, after the child ended so and this was written. -/
def CanReturn (l : Limits) (now : Instant) (child : Option Status) (bytes : Stream → Bytes)
    (outcome : Run.Outcome) : Prop :=
  ∃ past s s', Reaches l now past s ∧ Step l s s' ∧ Returns s s' outcome ∧ s.child = child ∧
    ∀ stream, (s.pipe stream).written = bytes stream

variable {bytes : Stream → Bytes} {past : List State}

/-- A look may see everything at one moment. -/
theorem leads_look {s : State} (hlooking : s.parent = .looking) {verdict : Verdict}
    (hverdict : l.verdict ⟨s.child, s.overflow, s.elapsed⟩ = verdict) :
    Leads l s { s with parent := .ofVerdict verdict } := by
  have hask : Step l s { s with parent := .asked s.child } := .parent (.ask hlooking)
  have hinform : Step l { s with parent := .asked s.child }
      { s with parent := .informed s.child s.overflow } := .parent (.inform rfl)
  have hdecide : Step l { s with parent := .informed s.child s.overflow }
      { s with parent := .ofVerdict verdict } := .parent (hverdict ▸ .decide rfl)
  exact .tail (.tail (.single hask) hinform) hdecide

/-- A child that ends can be seen to have ended. -/
theorem canReturn_conclude (hlimit : readLimit? l.budget = some limit)
    (hdeadline : l.deadline? now ≠ none) (status : Status) (bytes : Stream → Bytes) :
    CanReturn l now (some status) bytes (l.conclude status ((bytes .out).take limit.toNat)
      ((bytes .err).take limit.toNat)) := by
  obtain ⟨past, hreaches⟩ := reaches_drained hlimit hdeadline bytes
  let ended : State := { State.drained now l.budget limit bytes with child := some status }
  have hexit : Leads l (.drained now l.budget limit bytes) ended := .single (.exit status rfl)
  have hlook : Leads l ended { ended with parent := .joining status } :=
    leads_look rfl (Limits.verdict_eq_finish_iff.2 rfl)
  have hjoin : Leads l { ended with parent := .joining status }
      { ended with parent := .joiningErr status ((bytes .out).take limit.toNat) } :=
    .single (.parent (.join rfl rfl))
  obtain ⟨past', hjoined⟩ := hreaches.leads ((hexit.trans hlook).trans hjoin)
  exact ⟨past', _, _, hjoined, .parent (.conclude rfl rfl), ⟨by simp, rfl⟩, rfl, fun _ => rfl⟩

/-- A child that is seen to be running, when there is a reason to kill it, is killed. -/
theorem canReturn_stopped {s : State} (hreaches : Reaches l now past s)
    (hlooking : s.parent = .looking) (hchild : s.child = none)
    (hwhy : s.overflow = true ∨ l.isUp s.elapsed = true) :
    CanReturn l now (some (.signaled 9)) (fun stream => (s.pipe stream).written)
      (.stopped (.ofOverflow s.overflow)) := by
  have hlook : Leads l s { s with parent := .killing } :=
    leads_look hlooking (Limits.verdict_eq_kill_iff.2 ⟨hchild, hwhy⟩)
  have hkill : Leads l { s with parent := .killing } { s.killed with parent := .choosing } :=
    .single (.parent (.kill rfl))
  obtain ⟨past', hkilled⟩ := hreaches.leads (hlook.trans hkill)
  exact ⟨past', _, _, hkilled, .parent (.choose rfl), ⟨by simp, rfl⟩,
    by simp [State.killed, hchild], fun _ => rfl⟩

/-- The flag may be up before the first look. -/
theorem canReturn_outputLimit (hlimit : readLimit? l.budget = some limit)
    (hdeadline : l.deadline? now ≠ none) (hover : l.budget.toNat < (bytes stream).length) :
    CanReturn l now (some (.signaled 9)) bytes (.stopped .outputLimit) := by
  obtain ⟨past, hreaches⟩ := reaches_drained hlimit hdeadline bytes
  have hup : (State.drained now l.budget limit bytes).overflow = true := by
    simp only [State.drained, lt_length_take_iff hlimit, Bool.or_eq_true, decide_eq_true_eq]
    cases stream
    · exact .inl hover
    · exact .inr hover
  have hstopped := canReturn_stopped hreaches rfl rfl (.inl hup)
  rwa [hup] at hstopped

/-- The first look may come as late as the deadline. -/
theorem canReturn_timeout (hlimit : readLimit? l.budget = some limit)
    (hdeadline : l.deadline? now ≠ none) {ns : Nat} (htimeout : l.timeout = some ns) :
    CanReturn l now (some (.signaled 9)) (fun _ => []) (.stopped .timeout) := by
  obtain ⟨past, hreaches⟩ := reaches_drained hlimit hdeadline fun _ => []
  obtain ⟨deadline, hlater, -, hle⟩ := Limits.deadline?_ne_none_iff.1 hdeadline ns htimeout
  let waited : State := { State.drained now l.budget limit fun _ => [] with clock := deadline }
  have htick : Step l (.drained now l.budget limit fun _ => []) waited := .tick deadline hle
  have hup : l.isUp waited.elapsed = true :=
    (Limits.isUp_iff hdeadline hle).2 ⟨ns, deadline, htimeout, hlater, Instant.le_refl deadline⟩
  have hdown : waited.overflow = false := by simp [waited, State.drained]
  have hstopped := canReturn_stopped (hreaches.step htick) rfl rfl (.inr hup)
  rwa [hdown] at hstopped

/-- What comes of a run of which the times are known can come of it step by step. -/
theorem canReturn_bounded (hbudget : l.budget.toNat + 1 < UInt64.size)
    (hdeadline : l.deadline? now ≠ none) (hstops : r.Stops l) :
    ∃ child bytes, (child = r.status ∨ child = some (.signaled 9)) ∧
      (∀ stream, r.MayWrite stream (bytes stream)) ∧
      CanReturn l now child bytes (r.bounded l) := by
  obtain ⟨limit, hlimit⟩ := exists_readLimit hbudget
  have hgives := r.gives_bounded hbudget hstops
  generalize r.bounded l = outcome at hgives ⊢
  cases hgives with
  | whole hstatus hwithin =>
      refine ⟨some _, r.written, .inl hstatus.symm, fun _ => .inl List.prefix_rfl, ?_⟩
      rw [← Run.conclude_written hlimit _ hwithin]
      exact canReturn_conclude hlimit hdeadline _ r.written
  | tooMuch stream hstatus hover =>
      rename_i status
      obtain ⟨bytes, hmay, hlength⟩ := Run.exists_mayWrite hover List.prefix_rfl
      refine ⟨some status, bytes, .inl hstatus.symm, hmay, ?_⟩
      have hconclude : l.conclude status ((bytes .out).take limit.toNat)
          ((bytes .err).take limit.toNat) = .stopped .outputLimit := by
        rw [Limits.conclude_eq_stopped_iff, lt_length_take_iff hlimit, lt_length_take_iff hlimit]
        refine ⟨rfl, ?_⟩
        cases stream
        · exact .inl hlength
        · exact .inr hlength
      exact hconclude ▸ canReturn_conclude hlimit hdeadline status bytes
  | flooded stream hover =>
      obtain ⟨bytes, hmay, hlength⟩ := Run.exists_mayWrite hover (List.prefix_append _ r.left)
      exact ⟨_, bytes, .inr rfl, hmay, canReturn_outputLimit hlimit hdeadline hlength⟩
  | late htimeout =>
      exact ⟨_, fun _ => [], .inr rfl, fun _ => .inl List.nil_prefix,
        canReturn_timeout hlimit hdeadline htimeout⟩

end Supervision

end CrateGraph
