import Switchboard.Bus.Publish

/-
  Requests — asking a topic and waiting for the answer.

  A request listens on a reply topic of its own, publishes its message with
  that topic and a correlation id, and waits until it is settled or its time is
  up.  However it ends, neither its pending entry nor its reply subscription
  stays behind.

  * `openRequest` starts a request and answers its `Ticket`;
  * `result?` is the result of a ticket, `timeOut` and `close` end it;
  * `sweepStale` and `shutdown` settle requests from outside.
-/

namespace Switchboard

/-- How a request is to be made. -/
structure RequestOptions where
  timeoutMs : Option Nat := none
  priority : Priority := .normal
  maxRetries : Option UInt32 := none
  deriving Repr, Inhabited

/-- How the message of a request is published. -/
def RequestOptions.toPublish (o : RequestOptions) (correlation replyTopic : String) :
    PublishOptions :=
  { priority := o.priority, maxRetries := o.maxRetries, correlation := some correlation
    replyTo := some replyTopic }

/-- A request that was opened. -/
structure Ticket where
  correlation : String
  topic : String
  /-- where its reply is awaited -/
  replyTopic : String
  /-- the id of its message -/
  message : String
  timeoutMs : Nat
  /-- the time at which waiting ends -/
  deadline : Nat
  deriving DecidableEq, Repr

namespace Bus

variable {H : Type}

/-- Ends a request without a result: its entry, its reply subscription and a
    result that was not fetched disappear. -/
def close (b : Bus H) (correlation : String) : Bus H :=
  let b := match b.pending.find? (·.correlation = correlation) with
    | none => b
    | some p =>
      ({ b with pending := b.pending.filter (·.correlation ≠ correlation) }.unsubscribe
        p.subscription).2
  { b with settled := b.settled.filter (·.1 ≠ correlation) }

/-- Opens a request on a topic. -/
def openRequest (b : Bus H) (now : Nat) (topic : String) (payload : Json) (o : RequestOptions) :
    Except BusFault Ticket × Bus H :=
  match Address.topic topic with
  | .error f => (.error f, b)
  | .ok () =>
    let (correlation, mint) := b.mint.take
    let (suffix, mint) := mint.takeRun
    let b := { b with mint }
    let replyTopic := b.config.replyPrefix ++ "." ++ correlation ++ "." ++ suffix
    match Address.pattern replyTopic with
    | .error f => (.error f, b)
    | .ok pattern =>
      let metadata := Metadata.describedAs ("reply for " ++ topic) {}
      match b.add pattern (.reply correlation) metadata with
      | (.error f, b) => (.error f, b)
      | (.ok subscription, b) =>
        let entry : Pending := ⟨correlation, topic, subscription, now⟩
        let b : Bus H := { b with pending := b.pending ++ [entry] }
        let b := b.count fun c => { c with requests := c.requests + 1 }
        match b.publish now topic payload (o.toPublish correlation replyTopic) with
        | (.error f, b) => (.error f, b.close correlation)
        | (.ok outcome, b) =>
          let timeoutMs := o.timeoutMs.getD b.config.requestTimeoutMs
          (.ok ⟨correlation, topic, replyTopic, outcome.id, timeoutMs, now + timeoutMs⟩, b)

/-- The result of a request, if it was settled. -/
def result? (b : Bus H) (t : Ticket) : Option Reply := b.settled.lookup t.correlation

/-- Ends a request whose time is up. -/
def timeOut (b : Bus H) (t : Ticket) : Reply × Bus H :=
  (.error (.timeout t.topic t.timeoutMs),
    (b.count fun c => { c with timeouts := c.timeouts + 1 }).close t.correlation)

/-- Looks after a request: its result if there is one, a closed channel if
    nobody can settle it any more, the timeout if its time is up, else nothing. -/
def attend (b : Bus H) (now : Nat) (t : Ticket) : Option Reply × Bus H :=
  match b.result? t with
  | some r => (some r, b.close t.correlation)
  | none =>
    if !b.hasPending t.correlation then (some (.error .channelClosed), b.close t.correlation)
    else if t.deadline ≤ now then
      let (r, b) := b.timeOut t
      (some r, b)
    else (none, b)

/-! ## Settling from outside -/

/-- Settles one stale request. -/
def sweepOne (maxAge : Nat) (b : Bus H) (p : Pending) : Bus H :=
  (b.count fun c => { c with timeouts := c.timeouts + 1 }).settle p.correlation
    (.error (.timeout p.topic maxAge))

/-- Settles the requests that have waited for `maxAge` or longer; answers how
    many there were. -/
def sweepStale (b : Bus H) (now maxAge : Nat) : Nat × Bus H :=
  let stale := b.pending.filter fun p => maxAge ≤ now - p.openedAt
  (stale.length, stale.foldl (sweepOne maxAge) b)

/-- Closes the bus: waiting messages are dropped, pending requests settled and
    subscriptions removed. -/
def shutdown (b : Bus H) : Bus H :=
  if b.closed then b
  else
    let dropped := b.queue.size
    let b := { b with closed := true, queue := {} }
    let b := b.count fun c => { c with discarded := c.discarded + dropped }
    let b := b.pending.foldl (fun b p => b.settle p.correlation (.error .shutdown)) b
    { b with index := {}, patterns := [] }

end Bus

end Switchboard
