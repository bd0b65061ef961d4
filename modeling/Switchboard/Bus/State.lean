import Switchboard.Bus.Config
import Switchboard.Fault.Bus
import Switchboard.Index
import Switchboard.Mint
import Switchboard.Queue

/-
  The state of a bus.

  A bus holds its subscriptions, the queue of messages, the drainer that
  delivers them one after the other, and the requests that await a reply.
  Everything a bus does is a function on this state; time is an argument.

  * `Listener` says what listens: a handler of the host, a responder of the
    host, or a request waiting on its reply topic;
  * `Drainer` is idle, ready to take the next message, or amid a `Pass`;
  * `Pending` is a request without a result, `settled` holds the results that
    their requests have not fetched yet.
-/

namespace Switchboard

variable {H : Type}

/-- What listens on the bus. -/
inductive Listener (H : Type) where
  | subscriber (handler : H)
  | responder (handler : H)
  /-- the reply topic of the request with a correlation id -/
  | reply (correlation : String)
  deriving Repr

/-- The delivery of one message to the subscriptions that matched it when it
    was taken from the queue. -/
structure Pass (H : Type) where
  parcel : Parcel
  /-- subscriptions whose turn is still to come -/
  rest : List (Subscription (Listener H))
  /-- the subscription whose handler is running -/
  running : Option (Subscription (Listener H))
  /-- the first failure of the pass -/
  failure : Option HandlerFault
  deriving Repr

/-- The task that empties the queue. -/
inductive Drainer (H : Type) where
  | idle
  | ready
  | delivering (pass : Pass H)
  deriving Repr

/-- A request without a result. -/
structure Pending where
  correlation : String
  topic : String
  /-- the subscription of its reply topic -/
  subscription : String
  openedAt : Nat
  deriving DecidableEq, Repr

/-- What the bus has counted. -/
structure BusCounters where
  published : Nat := 0
  delivered : Nat := 0
  processed : Nat := 0
  retried : Nat := 0
  expired : Nat := 0
  failed : Nat := 0
  undeliverable : Nat := 0
  overflowed : Nat := 0
  requests : Nat := 0
  timeouts : Nat := 0
  unanswerable : Nat := 0
  /-- messages that were waiting at shutdown -/
  discarded : Nat := 0
  deriving DecidableEq, Repr, Inhabited

/-- The result of a request. -/
abbrev Reply := Except BusFault Json

structure Bus (H : Type) where
  config : BusConfig
  /-- whether a host runs the drainer -/
  hosted : Bool := true
  index : Index (Listener H) := {}
  /-- the pattern of every live subscription -/
  patterns : List (String × String) := []
  queue : Queue := {}
  drainer : Drainer H := .idle
  closed : Bool := false
  pending : List Pending := []
  settled : List (String × Reply) := []
  counters : BusCounters := {}
  mint : Mint := { series := 1 }
  deriving Repr

namespace Bus

def create (config : BusConfig) (hosted : Bool) : Bus H := { config, hosted }

/-- Whether a drainer owns the queue. -/
def isDraining (b : Bus H) : Bool :=
  match b.drainer with
  | .idle => false
  | _ => true

/-- Whether nothing is queued or being delivered. -/
def isIdle (b : Bus H) : Bool := !b.isDraining && b.queue.isEmpty

def subscriptionCount (b : Bus H) : Nat := b.patterns.length

def pendingCount (b : Bus H) : Nat := b.pending.length

def hasPending (b : Bus H) (correlation : String) : Bool :=
  b.pending.any (·.correlation = correlation)

/-- Changes the counters. -/
def count (f : BusCounters → BusCounters) (b : Bus H) : Bus H :=
  { b with counters := f b.counters }

/-- The bus on one line of a log. -/
def summary (b : Bus H) : String :=
  "MessageBus \x7b subscriptions: " ++ toString b.subscriptionCount ++
    ", pending_requests: " ++ toString b.pendingCount ++
    ", closed: " ++ (if b.closed then "true" else "false") ++ " \x7d"

end Bus

end Switchboard
