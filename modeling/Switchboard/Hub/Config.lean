import Switchboard.Json.Record

/-
  Settings of a hub.

  The mode trades memory for speed: it fixes how long a match is remembered and
  how many are, unless the settings say so themselves.
-/

namespace Switchboard

/-- What the cache of a hub is tuned for. -/
inductive CacheMode where
  | memory
  | balanced
  | speed
  deriving DecidableEq, Repr, Inhabited

namespace CacheMode

def label : CacheMode → String
  | .memory => "memory"
  | .balanced => "balanced"
  | .speed => "speed"

def names : List (String × CacheMode) :=
  [("memory", .memory), ("balanced", .balanced), ("speed", .speed)]

/-- How long a match is remembered. -/
def ttlMs : CacheMode → Nat
  | .memory => 1000
  | .balanced => 10000
  | .speed => 60000

/-- How many matches are remembered. -/
def maxEntries : CacheMode → Nat
  | .memory => 500
  | .balanced => 2000
  | .speed => 10000

end CacheMode

structure HubConfig where
  mode : CacheMode := .balanced
  /-- takes the place of the time the mode fixes -/
  cacheTtlMs : Option Nat := none
  /-- takes the place of the number the mode fixes -/
  cacheMaxEntries : Option Nat := none
  /-- a sweep forgets matches of this age -/
  staleAfterMs : Nat := 300000
  cleanupIntervalMs : Nat := 60000
  /-- how many events are kept for a reader -/
  eventCapacity : Nat := 256
  deriving DecidableEq, Repr, Inhabited

namespace HubConfig

def toJson (c : HubConfig) : Json :=
  .record
    [("mode", some (.str c.mode.label)), ("cache_ttl_ms", c.cacheTtlMs.map .nat),
     ("cache_max_entries", c.cacheMaxEntries.map .nat),
     ("stale_after_ms", some (.nat c.staleAfterMs)),
     ("cleanup_interval_ms", some (.nat c.cleanupIntervalMs)),
     ("event_capacity", some (.nat c.eventCapacity))]

def fields : List (Json.Field HubConfig) :=
  [.of "mode" (Json.named CacheMode.names) fun m c => { c with mode := m },
   .of "cache_ttl_ms" (Json.nullable (Json.word 64)) fun n c => { c with cacheTtlMs := n },
   .of "cache_max_entries" (Json.nullable (Json.word 64)) fun n c =>
     { c with cacheMaxEntries := n },
   .of "stale_after_ms" (Json.word 64) fun n c => { c with staleAfterMs := n },
   .of "cleanup_interval_ms" (Json.word 64) fun n c => { c with cleanupIntervalMs := n },
   .of "event_capacity" (Json.word 64) fun n c => { c with eventCapacity := n }]

def ofJson (surplus : Json.Surplus) : Json.Shape HubConfig :=
  Json.fill "hub settings" surplus fields {}

/-- How long a match is remembered. -/
def ttlMs (c : HubConfig) : Nat := c.cacheTtlMs.getD c.mode.ttlMs

/-- How many matches are remembered. -/
def maxEntries (c : HubConfig) : Nat := c.cacheMaxEntries.getD c.mode.maxEntries

/-- The period of the sweep, at least one millisecond. -/
def sweepPeriodMs (c : HubConfig) : Nat := max c.cleanupIntervalMs 1

end HubConfig

end Switchboard
