import Switchboard.Circuit

/-
  Settings of a caller, and the pauses between its attempts.

  * `CallerConfig.backoffMs` is the full pause before a retry: it doubles from one
    retry to the next, up to a cap;
  * `CallerConfig.pauseMs` is the pause that is made, which the settings may leave
    to chance.
-/

namespace Switchboard

/-- How a caller treats its calls. -/
structure CallerConfig where
  timeoutMs : Nat := 5000
  /-- attempts after the first one -/
  retries : Nat := 2
  /-- the pause before the first retry -/
  baseDelayMs : Nat := 100
  /-- the longest pause; `0` for no bound but the range of words -/
  maxDelayMs : Nat := 5000
  /-- whether a pause may be anything up to its full length -/
  jitter : Bool := false
  circuit : CircuitConfig := {}
  /-- requests waiting this long are given up by a sweep -/
  staleAfterMs : Nat := 60000
  cleanupIntervalMs : Nat := 30000
  deriving DecidableEq, Repr, Inhabited

namespace CallerConfig

def toJson (c : CallerConfig) : Json :=
  .obj
    [("default_timeout_ms", .nat c.timeoutMs), ("default_retries", .nat c.retries),
     ("base_delay_ms", .nat c.baseDelayMs), ("max_delay_ms", .nat c.maxDelayMs),
     ("jitter", .bool c.jitter), ("circuit", c.circuit.toJson),
     ("stale_after_ms", .nat c.staleAfterMs), ("cleanup_interval_ms", .nat c.cleanupIntervalMs)]

def fields (surplus : Json.Surplus) : List (Json.Field CallerConfig) :=
  [.of "default_timeout_ms" (Json.word 64) fun n c => { c with timeoutMs := n },
   .of "default_retries" (Json.word 32) fun n c => { c with retries := n },
   .of "base_delay_ms" (Json.word 64) fun n c => { c with baseDelayMs := n },
   .of "max_delay_ms" (Json.word 64) fun n c => { c with maxDelayMs := n },
   .of "jitter" Json.boolean fun b c => { c with jitter := b },
   .of "circuit" (CircuitConfig.ofJson surplus) fun s c => { c with circuit := s },
   .of "stale_after_ms" (Json.word 64) fun n c => { c with staleAfterMs := n },
   .of "cleanup_interval_ms" (Json.word 64) fun n c => { c with cleanupIntervalMs := n }]

def ofJson (surplus : Json.Surplus) : Json.Shape CallerConfig :=
  Json.fill "call settings" surplus (fields surplus) {}

/-- The period of the sweep, at least one millisecond. -/
def sweepPeriodMs (c : CallerConfig) : Nat := max c.cleanupIntervalMs 1

/-! ## Pauses -/

/-- The largest 64-bit word. -/
def largestWord : Nat := Nat.pow 2 64 - 1

/-- By how much the pause before a retry exceeds the first one; it stops
    doubling where it leaves the range of words. -/
def growth (retry : Nat) : Nat := if retry < 64 then Nat.pow 2 retry else largestWord

/-- The full pause before retry number `retry`, counted from zero. -/
def backoffMs (c : CallerConfig) (retry : Nat) : Nat :=
  let delay := min (c.baseDelayMs * growth retry) largestWord
  if 0 < c.maxDelayMs then min delay c.maxDelayMs else delay

/-- The pause before a retry when `draw` is the number that chance has drawn. -/
def pauseMs (c : CallerConfig) (draw retry : Nat) : Nat :=
  if c.jitter then min (c.backoffMs retry) draw else c.backoffMs retry

/-- Draws that leave every pause at its full length. -/
def fullDraws : Nat → Nat := fun _ => largestWord

end CallerConfig

end Switchboard
