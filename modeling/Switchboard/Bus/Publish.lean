import Switchboard.Bus.Subscribe

/-
  Publishing, and the settlement of requests.

  A message that may be published joins the queue; if the queue is bounded and
  overfull, the oldest message of the lowest priority has to leave it.  Who
  removes the entry of a pending request decides its result, so a request is
  settled once.
-/

namespace Switchboard

/-- What became of a message that was published. -/
inductive PublishOutcome where
  | queued (id : String)
  /-- it had expired already and was not queued -/
  | expired (id : String)
  deriving DecidableEq, Repr

/-- The id of the message. -/
def PublishOutcome.id : PublishOutcome → String
  | .queued id => id
  | .expired id => id

namespace Bus

variable {H : Type}

/-! ## Settlement -/

/-- Gives a pending request, already taken out of the list, its result. -/
def conclude (b : Bus H) (p : Pending) (result : Reply) : Bus H :=
  let b := (b.unsubscribe p.subscription).2
  { b with settled := b.settled ++ [(p.correlation, result)] }

/-- Settles the request with a correlation id, if it is pending. -/
def settle (b : Bus H) (correlation : String) (result : Reply) : Bus H :=
  match b.pending.find? (·.correlation = correlation) with
  | none => b
  | some p =>
    { b with pending := b.pending.filter (·.correlation ≠ correlation) }.conclude p result

/-- Settles the request behind a message, if the message is one. -/
def settleMessage (b : Bus H) (m : Message) (fault : BusFault) : Bus H :=
  match m.awaited? with
  | some c => b.settle c (.error fault)
  | none => b

/-! ## The queue -/

/-- Queues a parcel, and drops the one that has to make room. -/
def enqueue (b : Bus H) (p : Parcel) : Bus H :=
  let (out, queue) := b.queue.join b.config.maxQueueDepth p
  let b := { b with queue }
  match out with
  | none => b
  | some out =>
    (b.count fun c => { c with overflowed := c.overflowed + 1 }).settleMessage out.message
      (.queueOverflow out.message.topic)

/-- Wakes the drainer unless it is at work. -/
def wake (b : Bus H) : Bus H :=
  match b.drainer with
  | .idle => { b with drainer := .ready }
  | _ => b

/-! ## Publishing -/

/-- The message that is made of a topic, a payload and options. -/
def draft (b : Bus H) (id topic : String) (payload : Json) (o : PublishOptions) (now : Nat) :
    Message where
  id := id
  topic := topic
  payload := payload
  priority := o.priority
  attempts := 0
  maxRetries := o.maxRetries.getD (UInt32.ofNat b.config.maxRetries)
  correlation := o.correlation
  replyTo := o.replyTo
  expiresAt := o.resolveExpiry now

/-- Publishes a message.  Only a closed bus, a malformed topic and a missing
    host are faults of publishing; what happens later shows in the counters. -/
def publish (b : Bus H) (now : Nat) (topic : String) (payload : Json) (o : PublishOptions) :
    Except BusFault PublishOutcome × Bus H :=
  if b.closed then (.error .shutdown, b)
  else match Address.topic topic with
    | .error f => (.error f, b)
    | .ok () =>
      if !b.hosted then (.error .noRuntime, b)
      else
        let (id, mint) := b.mint.take
        let m := b.draft id topic payload o now
        let b := { b with mint }.count fun c => { c with published := c.published + 1 }
        if m.isExpiredAt now then
          (.ok (.expired id), b.count fun c => { c with expired := c.expired + 1 })
        else (.ok (.queued id), (b.enqueue (.fresh m)).wake)

end Bus

end Switchboard
