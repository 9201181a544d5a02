import CrateGraph.Process.Clock
import Mathlib

/-!
# Deadlines

A length of time can be added to an instant exactly if the sum is an instant, and the sum is then
exact. A run compares how much time has passed with how much it was given; that is the same as
comparing the clock with the deadline, for which alone the sum is needed.

## Main results

* `later?_eq_some_iff`, `later?_eq_none_iff` — when a later instant is one.
* `later?_eq_none_of_le` — what is too late for an instant is too late for all that come after.
* `deadline_le_iff` — the deadline has passed exactly if the time is up.
-/

namespace CrateGraph

namespace Instant

variable {i j deadline : Instant} {ns : Nat}

theorem eq_of_nanos (h : i.nanos = j.nanos) : i = j := by
  cases i
  cases j
  cases h
  rfl

theorem le_def : i ≤ j ↔ i.nanos ≤ j.nanos := Iff.rfl

theorem le_refl (i : Instant) : i ≤ i := Int.le_refl i.nanos

theorem le_trans {k : Instant} (h : i ≤ j) (h' : j ≤ k) : i ≤ k := Int.le_trans h h'

/-- A later instant is later by exactly the time that was added. -/
theorem later?_eq_some_iff : i.later? ns = some j ↔ j.nanos = i.nanos + ns := by
  unfold later?
  split
  · rw [Option.some_inj]
    exact ⟨fun h => h ▸ rfl, fun h => (eq_of_nanos h).symm⟩
  · rename_i hlate
    have hlast := j.le_last
    simp only [reduceCtorEq, false_iff]
    intro h
    exact hlate (h ▸ hlast)

theorem later?_eq_none_iff :
    i.later? ns = none ↔ 9223372036854775807 < (i.nanos + ns) / 1000000000 := by
  simp [later?]

/-- What the clock does not reach from an instant, it does not reach from a later one. -/
theorem later?_eq_none_of_le (h : i ≤ j) (hlate : i.later? ns = none) : j.later? ns = none := by
  rw [later?_eq_none_iff] at hlate ⊢
  have hnanos : i.nanos ≤ j.nanos := h
  omega

theorem le_later? (h : i.later? ns = some deadline) : i ≤ deadline := by
  rw [later?_eq_some_iff] at h
  rw [le_def]
  omega

/-- The deadline has passed exactly if as much time has passed as was given. -/
theorem deadline_le_iff (hdeadline : i.later? ns = some deadline) (h : i ≤ j) :
    deadline ≤ j ↔ ns ≤ j.nanosSince i := by
  rw [later?_eq_some_iff] at hdeadline
  have hnanos : i.nanos ≤ j.nanos := h
  rw [le_def, nanosSince]
  omega

end Instant

namespace Limits

variable {l : Limits} {start reading : Instant}

theorem deadline?_eq_none_iff :
    l.deadline? start = none ↔ ∃ ns, l.timeout = some ns ∧ start.later? ns = none := by
  cases h : l.timeout <;> simp [deadline?, h]

/-- What comes of a deadline is an instant, and the one that it is meant to be. -/
theorem deadline?_ne_none_iff : l.deadline? start ≠ none ↔
    ∀ ns, l.timeout = some ns → ∃ deadline, start.later? ns = some deadline ∧
      deadline.nanos = start.nanos + ns ∧ start ≤ deadline := by
  rw [ne_eq, deadline?_eq_none_iff, not_exists]
  refine forall_congr' fun ns => ?_
  rw [not_and]
  refine forall_congr' fun htimeout => ?_
  constructor
  · intro h
    obtain ⟨deadline, hlater⟩ := Option.ne_none_iff_exists'.1 h
    exact ⟨deadline, hlater, Instant.later?_eq_some_iff.1 hlater, Instant.le_later? hlater⟩
  · rintro ⟨deadline, hlater, -⟩ hnone
    rw [hnone] at hlater
    cases hlater

/-- If the clock does not reach the deadline from an instant, it does not from a later one. -/
theorem deadline?_eq_none_of_le (h : start ≤ reading) (hlate : l.deadline? start = none) :
    l.deadline? reading = none := by
  obtain ⟨ns, htimeout, hlater⟩ := deadline?_eq_none_iff.1 hlate
  exact deadline?_eq_none_iff.2 ⟨ns, htimeout, Instant.later?_eq_none_of_le h hlater⟩

/-- The time of a run is up at a reading of the clock exactly if there is a deadline, and it has
passed. -/
theorem isUp_iff (hstart : l.deadline? start ≠ none) (h : start ≤ reading) :
    l.isUp (reading.nanosSince start) = true ↔
      ∃ ns deadline, l.timeout = some ns ∧ start.later? ns = some deadline ∧
        deadline ≤ reading := by
  rw [isUp, Option.any_eq_true]
  constructor
  · rintro ⟨ns, htimeout, hns⟩
    obtain ⟨deadline, hlater, -⟩ := deadline?_ne_none_iff.1 hstart ns htimeout
    exact ⟨ns, deadline, htimeout, hlater,
      (Instant.deadline_le_iff hlater h).2 (of_decide_eq_true hns)⟩
  · rintro ⟨ns, deadline, htimeout, hlater, hle⟩
    exact ⟨ns, htimeout, decide_eq_true ((Instant.deadline_le_iff hlater h).1 hle)⟩

end Limits

end CrateGraph
