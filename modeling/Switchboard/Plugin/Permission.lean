import Switchboard.Json.Shape
import Switchboard.Pattern

/-
  Permissions — what a plugin may do, and where.

  A plugin is granted capabilities, and patterns of topics it may use; a plugin
  without patterns may use every topic.

  * `Permissions` is what a manifest declares;
  * `Pattern.covers` says whether one pattern permits everything another one
    can address.
-/

namespace Switchboard

/-- A group of operations a plugin may be granted. -/
inductive Capability where
  | publish
  | subscribe
  | call
  | serve
  deriving DecidableEq, Repr

namespace Capability

def all : List Capability := [.publish, .subscribe, .call, .serve]

def label : Capability → String
  | .publish => "events.publish"
  | .subscribe => "events.subscribe"
  | .call => "rpc.call"
  | .serve => "rpc.serve"

def names : List (String × Capability) := all.map fun c => (c.label, c)

/-- The distinct capabilities of a list, by label. -/
def setOf (cs : List Capability) : List Capability := all.filter cs.contains

end Capability

/-- What a plugin may do. -/
structure Permissions where
  capabilities : List Capability := []
  /-- patterns of the topics it may use; none for every topic -/
  topics : List String := []
  deriving DecidableEq, Repr, Inhabited

namespace Permissions

/-- Everything, everywhere. -/
def everything : Permissions := { capabilities := Capability.all }

def grant (p : Permissions) (c : Capability) : Permissions :=
  { p with capabilities := Capability.setOf (c :: p.capabilities) }

def allowTopic (p : Permissions) (pattern : String) : Permissions :=
  { p with topics := p.topics ++ [pattern] }

def toJson (p : Permissions) : Json :=
  .obj
    [("capabilities", .arr ((Capability.setOf p.capabilities).map fun c => .str c.label)),
     ("topics", .arr (p.topics.map .str))]

def ofJson (v : Json) : Except Json.Mismatch Permissions := do
  let ms ← Json.membersOf "permissions" ["capabilities", "topics"] v
  let capabilities ←
    Json.withDefault ms "capabilities" [] (Json.listOf (Json.named Capability.names))
  let topics ← Json.withDefault ms "topics" [] (Json.listOf Json.text)
  return { capabilities := Capability.setOf capabilities, topics }

end Permissions

/-- Whether a pattern permits every topic that the requested one can match.
    Besides a single topic, only an `under` pattern that lies below another is
    permitted by a pattern not written alike. -/
def Pattern.covers (allowed requested : Pattern) : Bool :=
  match requested with
  | .exact t => allowed.accepts t
  | .under fixed =>
    allowed == requested ||
      match allowed with
      | .under permitted => permitted.isPrefixOf fixed
      | _ => false
  | _ => allowed == requested

end Switchboard
