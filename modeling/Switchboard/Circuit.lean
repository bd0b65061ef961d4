import Switchboard.Json.Record
import Switchboard.Table

/-
  Circuit breakers — refusing calls to a topic that keeps failing.

  A circuit is closed while calls succeed.  Failures in a row open it; an open
  circuit refuses every call until its rest is over, then lets one trial call
  through, whose outcome closes or reopens it.  A trial that never reports is
  replaced after another rest.

  * `Circuit.letThrough`, `Circuit.succeed` and `Circuit.fail` are the transitions
    of one circuit;
  * `Circuits` holds one circuit for every topic that was called.
-/

namespace Switchboard

/-! ## Settings -/

/-- When circuits open, and how long they rest. -/
structure CircuitConfig where
  enabled : Bool := true
  /-- failures in a row that open a circuit -/
  threshold : Nat := 5
  /-- the rest of an open circuit before a trial -/
  resetMs : Nat := 30000
  deriving DecidableEq, Repr, Inhabited

namespace CircuitConfig

def toJson (c : CircuitConfig) : Json :=
  .obj
    [("enabled", .bool c.enabled), ("failure_threshold", .nat c.threshold),
     ("reset_timeout_ms", .nat c.resetMs)]

def fields : List (Json.Field CircuitConfig) :=
  [.of "enabled" Json.boolean fun b c => { c with enabled := b },
   .of "failure_threshold" (Json.word 32) fun n c => { c with threshold := n },
   .of "reset_timeout_ms" (Json.word 64) fun n c => { c with resetMs := n }]

def ofJson (surplus : Json.Surplus) : Json.Shape CircuitConfig :=
  Json.fill "circuit settings" surplus fields {}

end CircuitConfig

/-! ## One circuit -/

/-- What a circuit shows of itself. -/
inductive CircuitState where
  | closed
  | opened
  | halfOpen
  deriving DecidableEq, Repr

def CircuitState.label : CircuitState → String
  | .closed => "closed"
  | .opened => "open"
  | .halfOpen => "half_open"

/-- A circuit with its count of failures in a row. -/
inductive Circuit where
  | closed (failures : Nat)
  /-- open since a time -/
  | opened (failures since : Nat)
  /-- open since a time, with a trial call begun at another -/
  | halfOpen (failures since trial : Nat)
  deriving DecidableEq, Repr

namespace Circuit

/-- A circuit nothing has happened to. -/
def fresh : Circuit := .closed 0

def state : Circuit → CircuitState
  | closed _ => .closed
  | opened .. => .opened
  | halfOpen .. => .halfOpen

def failures : Circuit → Nat
  | closed n => n
  | opened n _ => n
  | halfOpen n .. => n

/-- When the circuit opened, unless it is closed. -/
def openSince? : Circuit → Option Nat
  | closed _ => none
  | opened _ t => some t
  | halfOpen _ t _ => some t

/-- One failure more; the count stops at the largest 32-bit word. -/
def bump (n : Nat) : Nat := min (n + 1) (Nat.pow 2 32 - 1)

/-- Whether a call may be made at a time, given the length of a rest. -/
def letThrough (rest now : Nat) : Circuit → Bool × Circuit
  | closed n => (true, closed n)
  | opened n since =>
    if now - since < rest then (false, opened n since) else (true, halfOpen n since now)
  | halfOpen n since trial =>
    if rest ≤ now - trial then (true, halfOpen n since now) else (false, halfOpen n since trial)

/-- A call has succeeded.  An open circuit keeps its rest: the call was let
    through before it opened. -/
def succeed : Circuit → Circuit
  | closed _ => fresh
  | halfOpen .. => fresh
  | opened n since => opened n since

/-- A call has failed at a time. -/
def fail (threshold now : Nat) : Circuit → Circuit
  | closed n => if threshold ≤ bump n then opened (bump n) now else closed (bump n)
  | halfOpen n .. => opened (bump n) now
  | opened n since => opened (bump n) since

end Circuit

/-! ## The circuits of all topics -/

/-- A circuit for every topic called so far. -/
structure Circuits where
  config : CircuitConfig
  table : Table String Circuit := {}
  deriving Repr

namespace Circuits

/-- The circuit of a topic, fresh if it was never called. -/
def circuitOf (c : Circuits) (topic : String) : Circuit := (c.table.get? topic).getD .fresh

def set (c : Circuits) (topic : String) (k : Circuit) : Circuits :=
  { c with table := c.table.put topic k }

/-- Asks to make a call on a topic. -/
def acquire (c : Circuits) (now : Nat) (topic : String) : Bool × Circuits :=
  if c.config.enabled then
    let (admitted, k) := (c.circuitOf topic).letThrough c.config.resetMs now
    (admitted, c.set topic k)
  else (true, c)

def succeed (c : Circuits) (topic : String) : Circuits :=
  if c.config.enabled then c.set topic (c.circuitOf topic).succeed else c

def fail (c : Circuits) (now : Nat) (topic : String) : Circuits :=
  if c.config.enabled then c.set topic ((c.circuitOf topic).fail c.config.threshold now) else c

def state (c : Circuits) (topic : String) : CircuitState := (c.circuitOf topic).state

/-- Forgets the circuit of a topic; answers whether there was one. -/
def reset (c : Circuits) (topic : String) : Bool × Circuits :=
  (c.table.contains topic, { c with table := c.table.erase topic })

/-- All circuits by topic, as seen at a time. -/
def snapshots (c : Circuits) (now : Nat) : Json :=
  .arr <| c.table.sortedRows.map fun (topic, k) =>
    .record
      [("topic", some (.str topic)), ("state", some (.str k.state.label)),
       ("consecutive_failures", some (.nat k.failures)),
       ("open_for_ms", k.openSince?.map fun t => .nat (now - t))]

end Circuits

end Switchboard
