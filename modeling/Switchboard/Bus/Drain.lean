import Switchboard.Bus.Delivery

/-
  Draining — the drainer at work beside a host whose handlers end at once.

  * `carry` is one step: a turn of the drainer, and the handler it asks for;
  * `drain` repeats it until the drainer rests.
-/

namespace Switchboard

/-- The number of steps after which a run that does not come to rest is left
    alone; one that comes to rest needs far fewer. -/
def patience : Nat := 1000000000

namespace Bus

variable {H S : Type}

/-- One step of the drainer.  `run` is the host: it carries a handler through
    and answers how it ended and what it left behind; there is no answer when
    the drainer rests. -/
def carry (run : S → Invocation H → Ending × S) (now : Nat) (s : S) (b : Bus H) :
    Option (S × Bus H) :=
  match b.turn now with
  | (_, .rest) => none
  | (b, .again) => some (s, b)
  | (b, .invoke call) =>
    let (ending, s) := run s call
    some (s, b.finish now ending)

/-- Steps of the drainer, at most `fuel`, until it rests; answers whether there
    were any. -/
def drain (run : S → Invocation H → Ending × S) (now : Nat) :
    Nat → Bool → S → Bus H → Bool × S × Bus H
  | 0, moved, s, b => (moved, s, b)
  | fuel + 1, moved, s, b =>
    match b.carry run now s with
    | none => (moved, s, b)
    | some (s, b) => drain run now fuel true s b

end Bus

end Switchboard
