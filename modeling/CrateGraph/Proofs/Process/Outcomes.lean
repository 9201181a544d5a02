import CrateGraph.Proofs.Process.Bounded

/-!
# What an outcome says of a run

A run has three outcomes that a caller can act on: the output of a child that ended, too much
output, and too little time. The end of the child, the flag and the deadline race for which of
them it is, and the flag may be raised at any moment: after the last look, while the child is
killed, or after it has ended. Whichever wins, what the outcome says is so.

An output needs more than a look at which the flag was down. It is the lengths of what was read,
compared with the budget at the very end, that tell whether anything is missing.

## Main results

* `Returns.accounts` — what the parent returns is so, by what holds before it does.
* `neverMisreports` — every order of the steps, and `Run.bounded` as one of them.
-/

namespace CrateGraph

/-- What an output has of a stream. -/
def Output.captured (o : Output) : Stream → Bytes
  | .out => o.out
  | .err => o.err

namespace Supervision

variable {l : Limits} {now : Instant} {past : List State} {s s' : State} {outcome : Run.Outcome}

/-- Whether an outcome is true of the run that returns it. -/
structure Accounts (l : Limits) (past : List State) (s : State) (outcome : Run.Outcome) : Prop where
  /-- An output is that of a child that ended, and everything that will ever be written. -/
  output : ∀ o, outcome = .output o → s.child = some o.status ∧ ∀ stream,
    (s.pipe stream).isOpen = false ∧ o.captured stream = (s.pipe stream).written ∧
      (o.captured stream).length ≤ l.budget.toNat
  outputLimit : outcome = .stopped .outputLimit →
    ∃ stream, l.budget.toNat < (s.pipe stream).written.length
  /-- There is no output of a run that went over the budget, even if the child ended. -/
  overBudget : (∃ stream, l.budget.toNat < (s.pipe stream).written.length) →
    ∀ o, outcome ≠ .output o
  timeout : outcome = .stopped .timeout → Late l past s ∧ s.overflow = false

theorem Accounts.of_failed (e : FileError) : Accounts l past s (.failed e) := by
  constructor <;> simp

/-- The reason for which the parent says that it killed the child. -/
theorem Accounts.of_choosing (h : Inv l now past s) (hchoosing : s.parent = .choosing) :
    Accounts l past s (.stopped (.ofOverflow s.overflow)) := by
  cases hflag : s.overflow with
  | true =>
      refine ⟨by simp, fun _ => h.flag hflag, by simp, ?_⟩
      simp [Stopped.ofOverflow]
  | false =>
      refine ⟨by simp, by simp [Stopped.ofOverflow], by simp, fun _ => ⟨?_, hflag⟩⟩
      exact (h.condemned (.inr hchoosing)).resolve_left (by simp [hflag])

/-- The lengths of what was read tell whether anything is missing. -/
theorem Accounts.of_joined (h : Inv l now past s) {status : Status} {out err : Bytes}
    (hjoined : s.parent = .joiningErr status out)
    (herr : (s.pipe .err).reader = .returned (.ok err)) :
    Accounts l past s (l.conclude status out err) := by
  obtain ⟨hchild, hout⟩ := h.informed.joiningErr status out hjoined
  have houtTook := (h.pipes .out).returned out hout
  have herrTook := (h.pipes .err).returned err herr
  cases hconclude : l.conclude status out err with
  | output o =>
      obtain ⟨rfl, houtLength, herrLength⟩ := Limits.conclude_eq_output_iff.1 hconclude
      have hall : ∀ stream, (s.pipe stream).isOpen = false ∧
          Output.captured ⟨status, out, err⟩ stream = (s.pipe stream).written ∧
          (Output.captured ⟨status, out, err⟩ stream).length ≤ l.budget.toNat := by
        intro stream
        cases stream with
        | out =>
            obtain ⟨hclosed, hwritten⟩ := houtTook.complete houtLength
            exact ⟨hclosed, hwritten, houtLength⟩
        | err =>
            obtain ⟨hclosed, hwritten⟩ := herrTook.complete herrLength
            exact ⟨hclosed, hwritten, herrLength⟩
      refine ⟨?_, by simp, ?_, by simp⟩
      · rintro _ ⟨⟩
        exact ⟨hchild, hall⟩
      · rintro ⟨stream, hover⟩
        obtain ⟨-, hwritten, hlength⟩ := hall stream
        rw [hwritten] at hlength
        exact absurd hover (Nat.not_lt.2 hlength)
  | stopped why =>
      obtain ⟨rfl, hover⟩ := Limits.conclude_eq_stopped_iff.1 hconclude
      refine ⟨by simp, fun _ => ?_, by simp, by simp⟩
      rcases hover with hover | hover
      · exact ⟨.out, Nat.lt_of_lt_of_le hover houtTook.isPrefix.length_le⟩
      · exact ⟨.err, Nat.lt_of_lt_of_le hover herrTook.isPrefix.length_le⟩
  | failed e => exact absurd hconclude Limits.conclude_ne_failed

theorem Returns.accounts (h : Inv l now past s) (hstep : Step l s s')
    (hreturns : Returns s s' outcome) : Accounts l past s outcome := by
  rcases hreturns.cases hstep with
    ⟨hchoosing, rfl⟩ | ⟨status, out, err, hjoined, herr, rfl⟩ | ⟨e, -, rfl⟩
  · exact .of_choosing h hchoosing
  · exact .of_joined h hjoined herr
  · exact .of_failed e

/-- Whether runs with some limits never misreport how they went. -/
structure NeverMisreports (l : Limits) : Prop where
  /-- In whatever order the steps are taken, what is returned is true. -/
  accounts : ∀ {now past s s' outcome}, Reaches l now past s → Step l s s' →
    Returns s s' outcome → Accounts l past s outcome
  /-- What comes of a run of which the times are known has one of four reasons. -/
  gives : ∀ r : Run, r.Stops l → r.Gives l (r.bounded l)
  /-- It comes of the steps of the same run in some order. -/
  bounded : ∀ {now} (r : Run), l.deadline? now ≠ none → r.Stops l →
    ∃ child bytes, (child = r.status ∨ child = some (.signaled 9)) ∧
      (∀ stream, r.MayWrite stream (bytes stream)) ∧
      CanReturn l now child bytes (r.bounded l)

theorem neverMisreports (hbudget : l.budget.toNat + 1 < UInt64.size) : NeverMisreports l where
  accounts h hstep hreturns := hreturns.accounts h.inv hstep
  gives _ hstops := Run.gives_bounded hbudget hstops
  bounded _ hdeadline hstops := canReturn_bounded hbudget hdeadline hstops

/-- The flag may be raised after a look at which it was down and the deadline had passed. Then it
is too much output that is reported. -/
theorem neverMisreports_race : ∃ past s s',
    Reaches ⟨3, some 5000000⟩ ⟨0, by decide, by decide⟩ past s ∧ Step ⟨3, some 5000000⟩ s s' ∧
      Returns s s' (.stopped .outputLimit) ∧ Late ⟨3, some 5000000⟩ past s ∧
      Accounts ⟨3, some 5000000⟩ past s (.stopped .outputLimit) := by
  have hstart : Reaches ⟨3, some 5000000⟩ ⟨0, by decide, by decide⟩ _ _ := .start
  have hbegin := hstart.step (.parent (.begin rfl rfl))
  have hwrite := hbegin.step (.pipe .out (.write [1, 2, 3, 4, 5] rfl))
  have hread := hwrite.step (.pipe .out (.read [1, 2, 3, 4] rfl rfl (by decide) (by decide)))
  have henough := hread.step (.pipe .out (.enough rfl rfl (by decide)))
  have htick := henough.step (.tick ⟨5000000, by decide, by decide⟩ (by decide))
  have hask := htick.step (.parent (.ask rfl))
  have hinform := hask.step (.parent (.inform rfl))
  have hdecide := hinform.step (.parent (.decide rfl))
  have hhand := hdecide.step (.pipe .out (.hand rfl))
  have hkill := hhand.step (.parent (.kill rfl))
  refine ⟨_, _, _, hkill, .parent (.choose rfl), ⟨nofun, rfl⟩, ?_, ?_⟩
  · exact ⟨5000000, ⟨5000000, by decide, by decide⟩, rfl, rfl, _, .tail _ (.tail _ (.head _)), rfl,
      by decide⟩
  · exact (neverMisreports (by decide)).accounts hkill (.parent (.choose rfl)) ⟨nofun, rfl⟩

end Supervision

end CrateGraph
