import Switchboard.Scenario.Flight

/-
  The clock — who runs when, and when time passes.

  At one moment the calls in the background go first, in the order in which they
  were begun, then the call in the foreground, then the drainer and the sweeps;
  this is repeated until nobody has anything to do.  Time passes only when
  somebody waits for it, and stops at every time at which something is due.

  * `World.round` lets everybody go once, `World.rest` until all wait;
  * `World.advance` lets time pass, `World.await` until a call has ended.
-/

namespace Switchboard.Scenario

/-- The call in the foreground. -/
inductive Foreground where
  | none
  | waiting (activity : Activity)
  | finished (answer : Json)
  deriving Repr

namespace World

/-! ## One moment -/

/-- Looks after calls in the background; answers those that go on, and whether
    anything was done. -/
def attendFlights : List Flight → World → (List Flight × Bool) × World
  | [], w => (([], false), w)
  | f :: rest, w =>
    match w.attend f.activity with
    | (.waiting a moved, w) =>
      let ((flights, more), w) := attendFlights rest w
      (({ f with activity := a } :: flights, moved || more), w)
    | (.finished r, w) =>
      let entry : Json := .obj [("id", .str f.label), ("at", .nat w.now), ("r", r)]
      let ((flights, _), w) := attendFlights rest { w with ended := entry :: w.ended }
      ((flights, true), w)

def attendForeground (w : World) : Foreground → (Foreground × Bool) × World
  | .waiting a =>
    match w.attend a with
    | (.waiting a moved, w) => ((.waiting a, moved), w)
    | (.finished r, w) => ((.finished (Answer.finished w.now r), true), w)
  | f => ((f, false), w)

/-- Sweeps what is due. -/
def sweep (w : World) : Bool × World :=
  let (callerMoved, w) := match w.callerSweep with
    | some t =>
      if t.isDue w.now then
        let (_, caller, bus) := w.caller.sweep w.bus w.now
        (true, { w with caller, bus, callerSweep := some (t.after w.now) })
      else (false, w)
    | none => (false, w)
  match w.hubSweep with
  | some t =>
    if t.isDue w.now then
      let (_, hub) := w.hub.cleanup w.now
      (true, { w with hub, hubSweep := some (t.after w.now) })
    else (callerMoved, w)
  | none => (callerMoved, w)

/-- Lets everybody go once; answers whether anything was done. -/
def round (w : World) (f : Foreground) : (Foreground × Bool) × World :=
  let ((flights, flightsMoved), w) := attendFlights w.flights w
  let ((f, callMoved), w) := { w with flights }.attendForeground f
  let (drained, w) := w.drain
  let (swept, w) := w.sweep
  ((f, flightsMoved || callMoved || drained || swept), w)

/-- Rounds, at most `fuel`, while there is anything to do. -/
def rounds : Nat → World → Foreground → Foreground × World
  | 0, w, f => (f, w)
  | fuel + 1, w, f =>
    match w.round f with
    | ((f, true), w) => rounds fuel w f
    | ((f, false), w) => (f, w)

/-- Lets everybody go until all wait. -/
def rest (w : World) (f : Foreground) : Foreground × World := rounds patience w f

/-! ## Time -/

def foregroundWake? : Foreground → Option Nat
  | .waiting a => a.wakesAt?
  | _ => none

/-- The next time at which something is due. -/
def nextDue? (w : World) (f : Foreground) : Option Nat :=
  let times := w.flights.map (·.activity.wakesAt?) ++
    [foregroundWake? f, w.running.bind (·.wake), w.callerSweep.map (·.next),
     w.hubSweep.map (·.next)]
  (times.map fun t => t.filter (w.now < ·)).foldl earlier none

/-- Stops at every time up to `target` at which something is due, at most `fuel`
    times. -/
def stopsUntil (target : Nat) : Nat → World → World
  | 0, w => w
  | fuel + 1, w =>
    match w.nextDue? .none with
    | some t =>
      if t ≤ target then stopsUntil target fuel ({ w with now := t }.rest .none).2 else w
    | none => w

/-- Lets time pass, and everybody go at the end. -/
def advance (w : World) (ms : Nat) : World :=
  let target := w.now + ms
  let w := stopsUntil target patience (w.rest .none).2
  ({ w with now := target }.rest .none).2

/-- Stops at every time at which something is due until the call in the
    foreground has ended, at most `fuel` times. -/
def stopsFor : Nat → World → Foreground → Json × World
  | _, w, .finished answer => (answer, w)
  | 0, w, _ => (.null, w)
  | fuel + 1, w, f =>
    match w.nextDue? f with
    | some t =>
      let (f, w) := { w with now := t }.rest f
      stopsFor fuel w f
    | none => (.null, w)

/-- Waits for a call in the foreground. -/
def await (w : World) (f : Foreground) : Json × World :=
  let (f, w) := w.rest f
  stopsFor patience w f

end World

end Switchboard.Scenario
