import Switchboard.Bus.Drain
import Switchboard.Scenario.Perform

/-
  Scripted handlers at work.

  A handler does its acts one after the other.  An act that sleeps suspends it
  until its time has come; every other act is done at once and noted.

  * `Act` lists what an act can be;
  * `World.resume` carries a handler on until it sleeps or ends;
  * `World.drain` lets the drainer of the bus work until it has to wait.
-/

namespace Switchboard.Scenario

/-- What a handler does amid a call. -/
inductive Act where
  | sleep (ms : Nat)
  /-- publishes to where the message wants its reply -/
  | reply (payload : Json) (correlation : Option String)
  | step (s : PlainStep)
  deriving Repr

/-- Reads an act; of the steps, those are acts that the bus does at once. -/
def Act.ofJson (v : Json) : Except Defect Act := do
  let fs := fieldsOf v
  match ← need fs "do" Json.text with
  | "sleep" => return .sleep (← Step.milliseconds fs)
  | "reply" => return .reply (content fs "payload") (← may fs "correlation_id" Json.text)
  | name =>
    match Step.busReaders.lookup name with
    | some read =>
      match ← read fs with
      | .plain s => return .step s
      | _ => .error ⟨"do"⟩
    | none => .error ⟨"do"⟩

/-- Where a handler stands. -/
inductive HandlerProgress where
  | asleep (handler : Running)
  | ended (ending : Ending)
  deriving Repr

namespace World

/-- Notes what an act of a handler came to. -/
def noteAct (w : World) (h : Running) (act r : Json) : World :=
  w.note (.obj
    [("by", .str h.script.label), ("act", (act.field? "do").getD .null), ("r", r)])

/-- Publishes a reply of a handler.  A responder is given the payload alone and
    does not know where its message wants the reply. -/
def reply (w : World) (h : Running) (payload : Json) (correlation : Option String) :
    Json × World :=
  if h.script.role = .subscriber then
    w.publish (h.message.replyTo.getD "") payload
      { correlation := correlation.or h.message.correlation }
  else w.publish "" payload { correlation }

/-- Does acts until one sleeps; answers the time to wake up and the acts that
    are left, if one does. -/
def doActs (w : World) (h : Running) : List Json → Option (Nat × List Json) × World
  | [] => (none, w)
  | v :: rest =>
    match Act.ofJson v with
    | .error d => (w.noteAct h v (Answer.ofDefect d)).doActs h rest
    | .ok (.sleep ms) => if ms = 0 then w.doActs h rest else (some (w.now + ms, rest), w)
    | .ok (.reply payload correlation) =>
      let (r, w) := w.reply h payload correlation
      (w.noteAct h v r).doActs h rest
    | .ok (.step s) =>
      let (r, w) := w.perform s
      (w.noteAct h v r).doActs h rest

/-- Whether a handler sleeps on at a time. -/
def sleepsOn (now : Nat) (h : Running) : Bool :=
  match h.wake with
  | some t => now < t
  | none => false

/-- Carries a handler on until it sleeps or ends. -/
def resume (w : World) (h : Running) : HandlerProgress × World :=
  match w.doActs h h.acts with
  | (some (wake, acts), w) => (.asleep { h with wake := some wake, acts }, w)
  | (none, w) => (.ended (h.script.ending h.outcome h.message.payload), w)

/-! ## The drainer -/

/-- One step of the drainer; answers whether anything was done. -/
def drainOnce (w : World) : Bool × World :=
  match w.running with
  | some h =>
    if sleepsOn w.now h then (false, w)
    else match w.resume h with
      | (.asleep h, w) => (true, { w with running := some h })
      | (.ended e, w) => (true, { w with running := none, bus := w.bus.finish w.now e })
  | none =>
    match w.bus.turn w.now with
    | (bus, .rest) => (false, { w with bus })
    | (bus, .again) => (true, { w with bus })
    | (bus, .invoke call) =>
      let (h, w) := { w with bus }.callScript call.handler call.message
      (true, { w with running := some h })

/-- Steps of the drainer, at most `fuel`, while there is anything to do. -/
def drainSteps : Nat → Bool → World → Bool × World
  | 0, moved, w => (moved, w)
  | fuel + 1, moved, w =>
    match w.drainOnce with
    | (true, w) => drainSteps fuel true w
    | (false, w) => (moved, w)

/-- Lets the drainer work until it has to wait; answers whether it did
    anything. -/
def drain (w : World) : Bool × World := drainSteps patience false w

end World

end Switchboard.Scenario
