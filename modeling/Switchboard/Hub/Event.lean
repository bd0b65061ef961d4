import Switchboard.Json

/-
  Events of a hub, and their readers.

  A hub announces what happens to it.  A reader takes the announcements in
  order; of those it has not taken, only the latest are kept, as many as the
  buffer holds, and a reader that has missed some is told how many.

  * `HubEvent` and its JSON form;
  * `EventLog.announce` adds an event, `EventLog.readFrom` takes those since a
    position.
-/

namespace Switchboard

/-- Something that happened to a hub. -/
inductive HubEvent where
  | subscribed (id pattern : String)
  | unsubscribed (id pattern : String)
  | published (topic : String) (matched delivered failed : Nat)
  | cacheEvicted (removed : Nat)
  deriving DecidableEq, Repr

namespace HubEvent

def toJson : HubEvent → Json
  | subscribed id pattern =>
    .obj [("type", .str "subscribed"), ("subscription_id", .str id), ("pattern", .str pattern)]
  | unsubscribed id pattern =>
    .obj [("type", .str "unsubscribed"), ("subscription_id", .str id), ("pattern", .str pattern)]
  | published topic matched delivered failed =>
    .obj
      [("type", .str "published"), ("topic", .str topic), ("matched", .nat matched),
       ("delivered", .nat delivered), ("failed", .nat failed)]
  | cacheEvicted removed => .obj [("type", .str "cache_evicted"), ("removed", .nat removed)]

end HubEvent

/-- The events of a hub, the newest first. -/
structure EventLog where
  capacity : Nat
  newest : List HubEvent := []
  /-- how many events there are -/
  length : Nat := 0
  deriving Repr

/-- What a reader is given. -/
structure EventBatch where
  /-- how many events it has missed -/
  missed : Nat
  events : List HubEvent
  deriving DecidableEq, Repr

namespace EventLog

/-- The least power of two that is at least `n`, found by doubling `p`. -/
def powerFrom (n : Nat) : Nat → Nat → Nat
  | 0, p => p
  | fuel + 1, p => if n ≤ p then p else powerFrom n fuel (2 * p)

/-- How many events the buffer holds for a capacity asked for: a power of two. -/
def bufferSize (asked : Nat) : Nat := powerFrom asked 64 1

def create (asked : Nat) : EventLog := { capacity := bufferSize asked }

def announce (l : EventLog) (e : HubEvent) : EventLog :=
  { l with newest := e :: l.newest, length := l.length + 1 }

/-- All events, the oldest first. -/
def toList (l : EventLog) : List HubEvent := l.newest.reverse

/-- The events from a position on. -/
def readFrom (l : EventLog) (position : Nat) : EventBatch :=
  let unread := l.length - position
  ⟨unread - l.capacity, (l.newest.take (min unread l.capacity)).reverse⟩

end EventLog

end Switchboard
