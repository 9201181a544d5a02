import CrateGraph.Process.Bounded

/-!
# The clock

Whether the time of a run is up is decided by a clock, of which a run takes a reading at its
start. The whole seconds of a reading are a signed number of 64 bits. So there is a last instant,
and a length of time that leads past it cannot be added to a reading.
-/

namespace CrateGraph

/-- A reading of the clock, in nanoseconds. -/
structure Instant where
  nanos : Int
  first_le : -9223372036854775808 ≤ nanos / 1000000000
  le_last : nanos / 1000000000 ≤ 9223372036854775807

namespace Instant

instance : LE Instant := ⟨fun a b => a.nanos ≤ b.nanos⟩

/-- The whole seconds of a reading. -/
def secs (i : Instant) : Int := i.nanos / 1000000000

/-- The instant so many nanoseconds later, if the clock goes that far. -/
def later? (i : Instant) (ns : Nat) : Option Instant :=
  if h : (i.nanos + ns) / 1000000000 ≤ 9223372036854775807 then
    some ⟨i.nanos + ns, by have := i.first_le; omega, h⟩
  else none

/-- How many nanoseconds have passed since another reading. -/
def nanosSince (i earlier : Instant) : Nat := (i.nanos - earlier.nanos).toNat

end Instant

/-- When the time of a run is up that starts at an instant, if it ever is. Nothing at all comes
of it if the clock does not go that far. -/
def Limits.deadline? (l : Limits) (start : Instant) : Option (Option Instant) :=
  match l.timeout with
  | none => some none
  | some ns => (start.later? ns).map some

end CrateGraph
