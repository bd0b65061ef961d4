/-
  Sweeps — tasks that come back at regular times.
-/

namespace Switchboard

/-- The earlier of two times. -/
def earlier : Option Nat → Option Nat → Option Nat
  | some a, some b => some (min a b)
  | a, b => a.or b

/-- A task that sweeps at regular times. -/
structure SweepTask where
  next : Nat
  period : Nat
  deriving DecidableEq, Repr

namespace SweepTask

/-- A sweep that comes for the first time when a period has passed. -/
def starting (now period : Nat) : SweepTask := ⟨now + period, period⟩

def isDue (t : SweepTask) (now : Nat) : Bool := t.next ≤ now

/-- When a sweep comes next, if it was due at a time: the times passed over are
    made up for at once. -/
def after (t : SweepTask) (now : Nat) : SweepTask :=
  { t with next := t.next + ((now - t.next) / t.period + 1) * t.period }

end SweepTask

end Switchboard
