import Switchboard.Message

/-
  The queue of messages waiting for delivery.

  One line per priority, each first in, first out.  The line of the highest
  priority is served first; a message that has to make room is the oldest of
  the lowest line that is not empty.

  * `push`, `pop?` and `evict?` change the queue, `join` keeps it in bounds;
  * `toList` lists it in the order of service.
-/

namespace Switchboard

/-- A message with the ids of the subscriptions that have accepted it. -/
structure Parcel where
  message : Message
  accepted : List String
  deriving Repr, Inhabited

/-- The parcel of a message nobody has accepted yet. -/
def Parcel.fresh (m : Message) : Parcel := ⟨m, []⟩

structure Queue where
  high : List Parcel := []
  normal : List Parcel := []
  low : List Parcel := []
  deriving Repr, Inhabited

namespace Queue

/-- The line of a priority. -/
def line (q : Queue) : Priority → List Parcel
  | .high => q.high
  | .normal => q.normal
  | .low => q.low

/-- Puts a parcel at the end of its line. -/
def push (q : Queue) (p : Parcel) : Queue :=
  match p.message.priority with
  | .high => { q with high := q.high ++ [p] }
  | .normal => { q with normal := q.normal ++ [p] }
  | .low => { q with low := q.low ++ [p] }

/-- Takes the parcel that is to be served next. -/
def pop? (q : Queue) : Option (Parcel × Queue) :=
  match q.high, q.normal, q.low with
  | p :: r, _, _ => some (p, { q with high := r })
  | [], p :: r, _ => some (p, { q with normal := r })
  | [], [], p :: r => some (p, { q with low := r })
  | [], [], [] => none

/-- Takes the oldest parcel of the lowest line that is not empty. -/
def evict? (q : Queue) : Option (Parcel × Queue) :=
  match q.low, q.normal, q.high with
  | p :: r, _, _ => some (p, { q with low := r })
  | [], p :: r, _ => some (p, { q with normal := r })
  | [], [], p :: r => some (p, { q with high := r })
  | [], [], [] => none

/-- All parcels in the order of service. -/
def toList (q : Queue) : List Parcel := q.high ++ q.normal ++ q.low

def size (q : Queue) : Nat := q.high.length + q.normal.length + q.low.length

/-- Puts a parcel into a queue with a bound, `0` for none; answers the parcel
    that has to make room. -/
def join (q : Queue) (bound : Nat) (p : Parcel) : Option Parcel × Queue :=
  let q := q.push p
  if 0 < bound && bound < q.size then
    match q.evict? with
    | some (out, q) => (some out, q)
    | none => (none, q)
  else (none, q)

def depth (q : Queue) (p : Priority) : Nat := (q.line p).length

def isEmpty (q : Queue) : Bool := q.high.isEmpty && q.normal.isEmpty && q.low.isEmpty

theorem length_toList (q : Queue) : q.toList.length = q.size := by
  simp [toList, size, Nat.add_assoc]

end Queue

end Switchboard
