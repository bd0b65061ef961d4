import Switchboard.Json.Record

/-
  Settings of the bus.
-/

namespace Switchboard

/-- How a bus treats what its callers leave open. -/
structure BusConfig where
  /-- retries after the first failed pass -/
  maxRetries : Nat := 2
  requestTimeoutMs : Nat := 5000
  /-- how many messages may wait; `0` for any number -/
  maxQueueDepth : Nat := 10000
  /-- the beginning of every reply topic -/
  replyPrefix : String := "_reply"
  deriving DecidableEq, Repr, Inhabited

namespace BusConfig

def toJson (c : BusConfig) : Json :=
  .obj
    [("default_max_retries", .nat c.maxRetries),
     ("default_request_timeout_ms", .nat c.requestTimeoutMs),
     ("max_queue_depth", .nat c.maxQueueDepth),
     ("reply_topic_prefix", .str c.replyPrefix)]

def fields : List (Json.Field BusConfig) :=
  [.of "default_max_retries" (Json.word 32) fun n c => { c with maxRetries := n },
   .of "default_request_timeout_ms" (Json.word 64) fun n c => { c with requestTimeoutMs := n },
   .of "max_queue_depth" (Json.word 64) fun n c => { c with maxQueueDepth := n },
   .of "reply_topic_prefix" Json.text fun s c => { c with replyPrefix := s }]

def ofJson (surplus : Json.Surplus) : Json.Shape BusConfig :=
  Json.fill "bus settings" surplus fields {}

end BusConfig

end Switchboard
