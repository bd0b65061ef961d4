import Switchboard.Bus.Request
import Switchboard.Fault.Call

/-
  Delivery — how the drainer empties the queue.

  The drainer takes one message at a time.  One that has expired is dropped;
  one that nobody listens to is undeliverable; any other is handed to every
  subscription that matched it at that moment and has not accepted it before,
  one after the other.  A pass with a failure sends the message back to its
  line until its retries are used up.

  * `turn` is one step of the drainer: it does what the bus can do alone, or
    answers the handler that the host has to run next;
  * `finish` takes in how that handler ended.
-/

namespace Switchboard

/-- How a handler ended. -/
inductive Ending where
  /-- it succeeded, with this answer -/
  | returned (reply : Json)
  /-- it failed, or panicked while it ran -/
  | failed (fault : HandlerFault)
  /-- it panicked before it had begun to run -/
  | broke (fault : HandlerFault)
  deriving Repr

/-- A handler that is to be run on a message. -/
structure Invocation (H : Type) where
  handler : H
  message : Message
  /-- whether its answer is published as a reply -/
  responds : Bool
  deriving Repr

/-- What a step of the drainer came to. -/
inductive Turn (H : Type) where
  /-- nothing is to be done, or a handler is running -/
  | rest
  /-- a step was done -/
  | again
  | invoke (call : Invocation H)
  deriving Repr

namespace Bus

variable {H : Type}

/-! ## Taking a message -/

/-- Begins the delivery of a parcel taken from the queue. -/
def receive (b : Bus H) (now : Nat) (p : Parcel) : Bus H :=
  let m := p.message
  if m.isExpiredAt now then b.count fun c => { c with expired := c.expired + 1 }
  else
    let found := b.index.matching m.topic
    if found.isEmpty then
      let b := b.count fun c => { c with undeliverable := c.undeliverable + 1 }
      match m.awaited? with
      | some c =>
        (b.count fun c => { c with unanswerable := c.unanswerable + 1 }).settle c
          (.error (.noSubscriber m.topic))
      | none => b
    else { b with drainer := .delivering ⟨p, found, none, none⟩ }

/-! ## During a pass -/

/-- The running subscription has accepted the message. -/
def accept (b : Bus H) (pass : Pass H) (id : String) : Bus H :=
  let parcel := { pass.parcel with accepted := pass.parcel.accepted ++ [id] }
  { b with drainer := .delivering { pass with parcel, running := none } }.count
    fun c => { c with delivered := c.delivered + 1 }

/-- The running subscription has failed; the first failure of a pass counts. -/
def reject (b : Bus H) (pass : Pass H) (fault : HandlerFault) : Bus H :=
  { b with drainer := .delivering { pass with running := none, failure := pass.failure.or fault } }

/-- The result that a payload on a reply topic means. -/
def replyOf (payload : Json) : Reply :=
  match openEnvelope? payload with
  | some f => .error (.remote f)
  | none => .ok payload

/-- What a message on a reply topic does to the request that waits there. -/
def takeReply (b : Bus H) (correlation : String) (m : Message) : Bus H :=
  if m.correlation = some correlation then b.settle correlation (replyOf m.payload) else b

/-- Ends a pass: the message is processed, sent back to its line, or failed. -/
def endPass (b : Bus H) (pass : Pass H) : Bus H :=
  let b := { b with drainer := .ready }
  match pass.failure with
  | none => b.count fun c => { c with processed := c.processed + 1 }
  | some fault =>
    let m := { pass.parcel.message with attempts := pass.parcel.message.attempts + 1 }
    if m.canRetry then
      (b.count fun c => { c with retried := c.retried + 1 }).enqueue { pass.parcel with message := m }
    else (b.count fun c => { c with failed := c.failed + 1 }).settleMessage m (.handler fault)

/-- Gives a subscription its turn. -/
def deliver (b : Bus H) (pass : Pass H) (s : Subscription (Listener H)) : Bus H × Turn H :=
  let m := pass.parcel.message
  match s.handler with
  | .reply correlation => ((b.takeReply correlation m).accept pass s.id, .again)
  | .subscriber h =>
    ({ b with drainer := .delivering { pass with running := some s } }, .invoke ⟨h, m, false⟩)
  | .responder h =>
    if m.isRequest then
      ({ b with drainer := .delivering { pass with running := some s } }, .invoke ⟨h, m, true⟩)
    else (b.accept pass s.id, .again)

/-- One step of the drainer. -/
def turn (b : Bus H) (now : Nat) : Bus H × Turn H :=
  match b.drainer with
  | .idle => (b, .rest)
  | .ready =>
    match b.queue.pop? with
    | none => ({ b with drainer := .idle }, .again)
    | some (p, queue) => ({ b with queue }.receive now p, .again)
  | .delivering pass =>
    match pass.running with
    | some _ => (b, .rest)
    | none =>
      match pass.rest with
      | [] => (b.endPass pass, .again)
      | s :: rest =>
        let pass := { pass with rest }
        if pass.parcel.accepted.contains s.id then
          ({ b with drainer := .delivering pass }, .again)
        else b.deliver pass s

/-! ## The end of a handler -/

/-- How a reply to a message is published. -/
def replyOptions (m : Message) (correlation : String) : PublishOptions :=
  { priority := m.priority, correlation := some correlation }

/-- Publishes the answer of a responder to where the request wants it; a
    failure to do so is nobody's concern. -/
def respond (b : Bus H) (now : Nat) (m : Message) (answer : Json) : Bus H :=
  match m.replyTo, m.correlation with
  | some replyTo, some c =>
    (b.publish now replyTo answer (replyOptions m c)).2
  | _, _ => b

/-- Takes in how the running handler ended. -/
def finish (b : Bus H) (now : Nat) (ending : Ending) : Bus H :=
  match b.drainer with
  | .delivering pass =>
    match pass.running with
    | none => b
    | some s =>
      let m := pass.parcel.message
      match s.handler, ending with
      | _, .broke f => b.reject pass f
      | .responder _, .returned v => (b.respond now m v).accept pass s.id
      | .responder _, .failed f => (b.respond now m (envelope f)).accept pass s.id
      | _, .returned _ => b.accept pass s.id
      | _, .failed f => b.reject pass f
  | _ => b

end Bus

end Switchboard
