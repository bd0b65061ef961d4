import Switchboard.Bus.Request
import Switchboard.Caller.Config
import Switchboard.Fault.Call

/-
  The caller — calls that are retried.

  A call makes requests on the bus, one attempt after the other, until one
  succeeds, one fails for good, its retries are used up, or the circuit of its
  topic refuses it.  Between two attempts it pauses; what chance draws for the
  pause before each retry is an argument, as time is.

  * `place` opens a call, `poll` carries it on as far as it can go at a time,
    `abandon` gives it up;
  * `sweep` gives up what has been waiting for too long;
  * `readReply` reads the reply of a call as a value of a known shape.
-/

namespace Switchboard

/-- How one call is to be made. -/
structure CallOptions where
  timeoutMs : Option Nat := none
  retries : Option UInt32 := none
  priority : Priority := .normal
  deriving Repr, Inhabited

/-- What a call is doing. -/
inductive CallPhase where
  /-- about to ask the circuit for another attempt -/
  | starting
  /-- waiting for the reply to an attempt -/
  | asking (ticket : Ticket)
  /-- pausing before a retry -/
  | pausing (wake : Nat)
  deriving DecidableEq, Repr

/-- A call under way. -/
structure Call where
  id : Nat
  topic : String
  payload : Json
  priority : Priority
  timeoutMs : Nat
  maxRetries : UInt32
  /-- attempts that have ended -/
  attempts : UInt32
  phase : CallPhase
  deriving Repr

/-- The result of a call. -/
abbrev CallResult := Except CallFault Json

/-- What a caller has counted. -/
structure CallerCounters where
  calls : Nat := 0
  successes : Nat := 0
  failures : Nat := 0
  retries : Nat := 0
  timeouts : Nat := 0
  refusals : Nat := 0
  evictions : Nat := 0
  deriving DecidableEq, Repr, Inhabited

structure Caller where
  config : CallerConfig
  circuits : Circuits
  /-- the calls under way, with the times at which they began -/
  inFlight : List (Nat × Nat) := []
  nextCall : Nat := 0
  counters : CallerCounters := {}
  deriving Repr

namespace Caller

variable {H : Type}

def create (config : CallerConfig) : Caller := { config, circuits := { config := config.circuit } }

/-- Changes the counters. -/
def count (f : CallerCounters → CallerCounters) (c : Caller) : Caller :=
  { c with counters := f c.counters }

/-- Forgets a call that is no longer under way. -/
def forget (c : Caller) (id : Nat) : Caller :=
  { c with inFlight := c.inFlight.filter (·.1 ≠ id) }

/-! ## One attempt -/

/-- What a step of a call came to. -/
inductive CallStep where
  /-- nothing can be done now -/
  | stuck
  | moved (call : Call)
  | done (result : CallResult)
  deriving Repr

/-- Takes in the result of an attempt: the call ends, or pauses before the next
    one, as long as `draw` says. -/
def takeResult (c : Caller) (now draw : Nat) (call : Call) (result : Reply) : CallStep × Caller :=
  let attempts := call.attempts + 1
  match result with
  | .ok v =>
    (.done (.ok v),
      { c with circuits := c.circuits.succeed call.topic }.count fun n =>
        { n with successes := n.successes + 1 })
  | .error fault =>
    let c := match fault with
      | .timeout .. => c.count fun n => { n with timeouts := n.timeouts + 1 }
      | _ => c
    let c := { c with circuits := c.circuits.fail now call.topic }
    let f := CallFault.ofBus fault call.topic
    if f.retriable && attempts ≤ call.maxRetries then
      let wake := now + c.config.pauseMs draw call.attempts.toNat
      (.moved { call with attempts, phase := .pausing wake },
        c.count fun n => { n with retries := n.retries + 1 })
    else
      (.done (.error { f with attempts := attempts.toNat }),
        c.count fun n => { n with failures := n.failures + 1 })

/-- Makes an attempt if the circuit of the topic lets it through. -/
def attempt (c : Caller) (b : Bus H) (now draw : Nat) (call : Call) : CallStep × Caller × Bus H :=
  let (admitted, circuits) := c.circuits.acquire now call.topic
  let c := { c with circuits }
  if admitted then
    let options : RequestOptions :=
      { timeoutMs := some call.timeoutMs, priority := call.priority, maxRetries := some 0 }
    match b.openRequest now call.topic call.payload options with
    | (.ok ticket, b) => (.moved { call with phase := .asking ticket }, c, b)
    | (.error fault, b) =>
      let (s, c) := c.takeResult now draw call (.error fault)
      (s, c, b)
  else
    (.done (.error { CallFault.circuitOpen call.topic with attempts := call.attempts.toNat }),
      c.count fun n => { n with refusals := n.refusals + 1, failures := n.failures + 1 }, b)

/-- One step of a call. -/
def step (c : Caller) (b : Bus H) (now draw : Nat) (call : Call) : CallStep × Caller × Bus H :=
  match call.phase with
  | .starting => c.attempt b now draw call
  | .asking ticket =>
    match b.attend now ticket with
    | (none, b) => (.stuck, c, b)
    | (some r, b) =>
      let (s, c) := c.takeResult now draw call r
      (s, c, b)
  | .pausing wake =>
    if wake ≤ now then c.attempt b now draw call else (.stuck, c, b)

/-! ## Calls -/

/-- What became of a call that was looked after. -/
inductive CallProgress where
  | waiting (call : Call)
  | finished (result : CallResult)
  deriving Repr

/-- Steps of a call, as many as can be done now and at most `fuel`; `draws` says
    what is drawn for the pause before each retry. -/
def steps : Nat → Caller → Bus H → Nat → (Nat → Nat) → Call → CallProgress × Caller × Bus H
  | 0, c, b, _, _, call => (.waiting call, c, b)
  | fuel + 1, c, b, now, draws, call =>
    match c.step b now (draws call.attempts.toNat) call with
    | (.stuck, c, b) => (.waiting call, c, b)
    | (.moved call, c, b) => steps fuel c b now draws call
    | (.done r, c, b) => (.finished r, c.forget call.id, b)

/-- Carries a call on as far as it can go now: three steps for every attempt
    that is left. -/
def poll (c : Caller) (b : Bus H) (now : Nat) (draws : Nat → Nat) (call : Call) :
    CallProgress × Caller × Bus H :=
  steps (3 * (call.maxRetries.toNat + 2 - call.attempts.toNat)) c b now draws call

/-- Opens a call on a topic. -/
def place (c : Caller) (b : Bus H) (now : Nat) (draws : Nat → Nat) (topic : String)
    (payload : Json) (o : CallOptions) : CallProgress × Caller × Bus H :=
  match Address.topic topic with
  | .error f => (.finished (.error (.ofBus f topic)), c, b)
  | .ok () =>
    let call : Call :=
      { id := c.nextCall, topic, payload, priority := o.priority
        timeoutMs := o.timeoutMs.getD c.config.timeoutMs
        maxRetries := o.retries.getD (UInt32.ofNat c.config.retries)
        attempts := 0, phase := .starting }
    let c := { c with
      nextCall := c.nextCall + 1
      inFlight := c.inFlight ++ [(call.id, now)] }
    (c.count fun n => { n with calls := n.calls + 1 }).poll b now draws call

/-- Gives a call up: nothing of it stays behind. -/
def abandon (c : Caller) (b : Bus H) (call : Call) : Caller × Bus H :=
  let b := match call.phase with
    | .asking ticket => b.close ticket.correlation
    | _ => b
  (c.forget call.id, b)

/-- The time at which a waiting call goes on by itself. -/
def wakesAt? (call : Call) : Option Nat :=
  match call.phase with
  | .starting => none
  | .asking ticket => some ticket.deadline
  | .pausing wake => some wake

/-! ## Maintenance -/

/-- Settles the requests of the bus and forgets the calls that have waited for
    too long; answers how many there were of both. -/
def sweep (c : Caller) (b : Bus H) (now : Nat) : Nat × Caller × Bus H :=
  let (settled, b) := b.sweepStale now c.config.staleAfterMs
  let kept := c.inFlight.filter fun (_, began) => now - began < c.config.staleAfterMs
  let total := settled + (c.inFlight.length - kept.length)
  (total, { c with inFlight := kept }.count (fun n => { n with evictions := n.evictions + total }), b)

def statsJson (c : Caller) (now : Nat) : Json :=
  let n := c.counters
  .obj
    [("calls", .nat n.calls), ("successes", .nat n.successes), ("failures", .nat n.failures),
     ("retries", .nat n.retries), ("timeouts", .nat n.timeouts),
     ("circuit_rejections", .nat n.refusals), ("stale_evictions", .nat n.evictions),
     ("in_flight", .nat c.inFlight.length), ("circuits", c.circuits.snapshots now)]

/-- The reply to a call on a topic, read as a value of a known shape. -/
def readReply (shape : Json.Shape α) (topic : String) (reply : Json) : Except CallFault α :=
  match shape reply with
  | .ok a => .ok a
  | .error m =>
    .error <| (CallFault.ofCode .internalError
      ("Invalid reply from '" ++ topic ++ "': " ++ m.message)).onTopic topic

end Caller

end Switchboard
