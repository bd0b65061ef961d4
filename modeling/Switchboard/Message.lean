import Switchboard.Json.Shape

/-
  Messages — what travels through the bus.

  A message is made when it is published, waits in the queue by priority, and
  is handed to every handler whose pattern matches its topic.  Times are whole
  milliseconds; an expiry may lie before the present.

  * `Priority` and its tiers, the first tier being served first;
  * `Metadata` is what a subscription carries besides its pattern;
  * `PublishOptions.resolveExpiry` turns a relative expiry into an absolute
    one, `Message.isExpiredAt` compares it with a time.
-/

namespace Switchboard

/-! ## Priorities -/

/-- How urgent a message is. -/
inductive Priority where
  | high
  | normal
  | low
  deriving DecidableEq, Repr, Inhabited

namespace Priority

/-- The place of a priority in the order of service. -/
def tier : Priority → Nat
  | .high => 0
  | .normal => 1
  | .low => 2

def label : Priority → String
  | .high => "high"
  | .normal => "normal"
  | .low => "low"

def names : List (String × Priority) := [("high", .high), ("normal", .normal), ("low", .low)]

/-- The priorities in the order of service. -/
def sort (ps : List Priority) : List Priority := ps.mergeSort fun a b => a.tier ≤ b.tier

end Priority

/-! ## Metadata -/

/-- What a subscription carries besides its pattern; `null` in `extra` stands
    for nothing. -/
structure Metadata where
  plugin : Option String := none
  description : Option String := none
  extra : Json := .null
  deriving BEq, Repr, Inhabited

namespace Metadata

/-- The metadata of a subscription that belongs to a plugin. -/
def ofPlugin (plugin : String) : Metadata := { plugin := some plugin }

def describedAs (description : String) (m : Metadata) : Metadata :=
  { m with description := some description }

def toJson (m : Metadata) : Json :=
  .record
    [("plugin", m.plugin.map .str), ("description", m.description.map .str),
     ("extra", if m.extra.isNull then none else some m.extra)]

def ofJson (v : Json) : Except Json.Mismatch Metadata := do
  let ms ← Json.membersOf "metadata" ["plugin", "description", "extra"] v
  let description ← Json.optional ms "description" Json.text
  let extra ← Json.withDefault ms "extra" .null .ok
  let plugin ← Json.optional ms "plugin" Json.text
  return ⟨plugin, description, extra⟩

end Metadata

/-! ## Publishing options -/

/-- How a message is to be published; an unset count of retries is filled in
    by the bus. -/
structure PublishOptions where
  priority : Priority := .normal
  maxRetries : Option UInt32 := none
  /-- the time of expiry; takes precedence over `expiry` -/
  expiresAt : Option Int := none
  /-- the time to expiry from the moment of publishing -/
  expiry : Option Nat := none
  correlation : Option String := none
  replyTo : Option String := none
  deriving Repr, Inhabited

/-- The last time the clock can name. -/
def horizon : Int := (Nat.pow 2 63 - Nat.pow 10 7) * 1000

/-- The time at which a message published now expires; one beyond the horizon
    never comes. -/
def PublishOptions.resolveExpiry (o : PublishOptions) (now : Nat) : Option Int :=
  o.expiresAt.or <| o.expiry.bind fun after =>
    let instant : Int := now + after
    if instant ≤ horizon then some instant else none

/-! ## Messages -/

/-- A message on its way. -/
structure Message where
  id : String
  topic : String
  payload : Json
  priority : Priority
  /-- failed passes of delivery so far -/
  attempts : UInt32
  maxRetries : UInt32
  correlation : Option String
  replyTo : Option String
  expiresAt : Option Int
  deriving Repr, Inhabited

namespace Message

/-- A message without reply address, of normal priority, that never expires. -/
def plain (id topic : String) (payload : Json) (maxRetries : UInt32) : Message :=
  ⟨id, topic, payload, .normal, 0, maxRetries, none, none, none⟩

def isExpiredAt (m : Message) (now : Int) : Bool :=
  match m.expiresAt with
  | some t => t ≤ now
  | none => false

/-- Whether another pass may follow a failed one. -/
def canRetry (m : Message) : Bool := m.attempts ≤ m.maxRetries

/-- The correlation id of a message that somebody awaits a reply to. -/
def awaited? (m : Message) : Option String :=
  match m.replyTo, m.correlation with
  | some _, some c => some c
  | _, _ => none

def isRequest (m : Message) : Bool := m.awaited?.isSome

end Message

end Switchboard
