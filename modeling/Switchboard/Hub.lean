import Switchboard.Address
import Switchboard.Hub.Config
import Switchboard.Hub.Event
import Switchboard.Index.Stats
import Switchboard.Mint
import Switchboard.Table

/-
  The hub — fanning a payload out to everybody who listens.

  A hub accepts patterns of every form, hands a payload to all matching
  handlers at once and does not retry.  It remembers which subscriptions match
  a topic; every change of the subscriptions makes it forget them all.

  * `subscribe`, `unsubscribe`, `unsubscribePlugin` change the subscriptions;
  * `find` answers the matches of a topic, from the cache if it can;
  * `publish` begins a fan-out, `conclude` takes in how it ended.
-/

namespace Switchboard

/-- Matches of a topic, and when they were found. -/
structure CacheEntry (H : Type) where
  found : List (Subscription H)
  stamp : Nat
  deriving Repr

/-- What a hub has counted. -/
structure HubCounters where
  subscriptions : Nat := 0
  unsubscriptions : Nat := 0
  publishes : Nat := 0
  deliveries : Nat := 0
  failures : Nat := 0
  hits : Nat := 0
  misses : Nat := 0
  evictions : Nat := 0
  deriving DecidableEq, Repr, Inhabited

structure Hub (H : Type) where
  config : HubConfig
  index : Index H := {}
  /-- how often the subscriptions have changed -/
  generation : Nat := 0
  cache : Table String (CacheEntry H) := {}
  events : EventLog
  counters : HubCounters := {}
  mint : Mint := { series := 2 }
  deriving Repr

namespace Hub

variable {H : Type}

def create (config : HubConfig) : Hub H := { config, events := .create config.eventCapacity }

/-- Changes the counters. -/
def count (f : HubCounters → HubCounters) (h : Hub H) : Hub H :=
  { h with counters := f h.counters }

def announce (h : Hub H) (e : HubEvent) : Hub H := { h with events := h.events.announce e }

/-! ## Subscriptions -/

/-- Forgets all matches. -/
def invalidate (h : Hub H) : Hub H := { h with cache := {} }

/-- Puts a changed index in place. -/
def change (h : Hub H) (index : Index H) : Hub H :=
  { h with index, generation := h.generation + 1 }.invalidate

/-- Listens on a pattern. -/
def subscribe (h : Hub H) (pattern : String) (handler : H) (metadata : Metadata) :
    Except BusFault String × Hub H :=
  match Address.pattern pattern with
  | .error f => (.error f, h)
  | .ok p =>
    let (id, mint) := h.mint.take
    let h := { h with mint }.change (h.index.insert ⟨id, p, handler, metadata⟩)
    let h := h.count fun c => { c with subscriptions := c.subscriptions + 1 }
    (.ok id, h.announce (.subscribed id pattern))

/-- Removes the subscription with an id under a pattern; answers whether it was
    there. -/
def unsubscribe (h : Hub H) (pattern id : String) : Bool × Hub H :=
  match h.index.erase pattern id with
  | (false, _) => (false, h)
  | (true, index) =>
    let h := (h.change index).count fun c => { c with unsubscriptions := c.unsubscriptions + 1 }
    (true, h.announce (.unsubscribed id pattern))

/-- Removes every subscription of a plugin; answers how many there were. -/
def unsubscribePlugin (h : Hub H) (plugin : String) : Nat × Hub H :=
  match h.index.eraseWhere (·.isOwnedBy plugin) with
  | ([], _) => (0, h)
  | (removed, index) =>
    let n := removed.length
    let h := (h.change index).count fun c => { c with unsubscriptions := c.unsubscriptions + n }
    (n, removed.foldl (fun h s => h.announce (.unsubscribed s.id s.pattern.text)) h)

/-! ## Matches -/

/-- How many of `n` remembered matches are forgotten at once: a fifth, rounded
    up. -/
def evictionSize (n : Nat) : Nat := max ((n + 4) / 5) 1

/-- The topics whose matches are forgotten when there are more than the bound
    allows: the oldest ones, those of one age as they are listed. -/
def overflow (bound : Nat) (listed : List (String × CacheEntry H)) : List String :=
  if listed.length ≤ bound then []
  else
    let byAge := listed.mergeSort fun a b => a.2.stamp ≤ b.2.stamp
    (byAge.take (evictionSize listed.length)).map (·.1)

/-- A cache without the matches of some topics. -/
def without (gone : List String) (cache : Table String (CacheEntry H)) :
    Table String (CacheEntry H) :=
  cache.filter fun r => !gone.contains r.1

/-- Forgets the oldest matches of a cache that has outgrown its bound; answers
    how many. -/
def evictOverflow (bound : Nat) (cache : Table String (CacheEntry H)) :
    Nat × Table String (CacheEntry H) :=
  let oldest := overflow bound cache.rows
  (oldest.length, without oldest cache)

/-- The match remembered for a topic, if it is young enough. -/
def cached? (h : Hub H) (now : Nat) (topic : String) : Option (List (Subscription H)) :=
  match h.cache.get? topic with
  | some e => if now - e.stamp < h.config.ttlMs then some e.found else none
  | none => none

/-- Remembers the match of a topic. -/
def remember (h : Hub H) (now : Nat) (topic : String) (found : List (Subscription H)) : Hub H :=
  let cache := (h.cache.erase topic).put topic ⟨found, now⟩
  match evictOverflow h.config.maxEntries cache with
  | (0, cache) => { h with cache }
  | (n, cache) =>
    let h := { h with cache }.count fun c => { c with evictions := c.evictions + n }
    h.announce (.cacheEvicted n)

/-- The subscriptions that match a topic, and whether they were remembered. -/
def find (h : Hub H) (now : Nat) (topic : String) : (List (Subscription H) × Bool) × Hub H :=
  match h.cached? now topic with
  | some found => ((found, true), h.count fun c => { c with hits := c.hits + 1 })
  | none =>
    let found := h.index.matching topic
    let h := h.count fun c => { c with misses := c.misses + 1 }
    ((found, false), h.remember now topic found)

/-- Forgets the matches that have become stale; answers how many. -/
def cleanup (h : Hub H) (now : Nat) : Nat × Hub H :=
  let cache := h.cache.filter fun r => now - r.2.stamp < h.config.staleAfterMs
  (h.cache.size - cache.size, { h with cache })

/-! ## Publishing -/

/-- A payload on its way to the subscriptions that matched its topic. -/
structure FanOut (H : Type) where
  message : Message
  receivers : List (Subscription H)
  deriving Repr

/-- Begins to fan a payload out. -/
def publish (h : Hub H) (now : Nat) (topic : String) (payload : Json) :
    Except BusFault (FanOut H) × Hub H :=
  match Address.topic topic with
  | .error f => (.error f, h)
  | .ok () =>
    let h := h.count fun c => { c with publishes := c.publishes + 1 }
    let ((receivers, _), h) := h.find now topic
    let (id, mint) := h.mint.take
    (.ok ⟨.plain id topic payload 0, receivers⟩, { h with mint })

/-- Takes in that a fan-out has ended, given how many receivers succeeded. -/
def conclude (h : Hub H) (topic : String) (matched delivered : Nat) : Hub H :=
  let failed := matched - delivered
  let h := h.count fun c =>
    { c with deliveries := c.deliveries + delivered, failures := c.failures + failed }
  h.announce (.published topic matched delivered failed)

/-- Drops all subscriptions and all matches. -/
def shutdown (h : Hub H) : Hub H := h.change {}

def statsJson (h : Hub H) : Json :=
  let c := h.counters
  .obj
    [("subscriptions", .nat c.subscriptions), ("unsubscriptions", .nat c.unsubscriptions),
     ("publishes", .nat c.publishes), ("deliveries", .nat c.deliveries),
     ("delivery_failures", .nat c.failures), ("cache_hits", .nat c.hits),
     ("cache_misses", .nat c.misses), ("cache_evictions", .nat c.evictions),
     ("cache_size", .nat h.cache.size), ("trie", h.index.stats.toJson)]

end Hub

end Switchboard
