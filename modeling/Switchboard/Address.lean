import Switchboard.Fault.Bus
import Switchboard.Pattern

/-
  Addresses as callers give them: names that have to be patterns, or topics
  that may be published, and the faults of those that are not.
-/

namespace Switchboard.Address

/-- The fault of a name that is no pattern, or of a form not accepted. -/
def badPattern (name reason : String) : BusFault := .invalidPattern name reason

/-- Reads a pattern. -/
def pattern (name : String) : Except BusFault Pattern :=
  match Pattern.parse name with
  | .ok p => .ok p
  | .error d => .error (badPattern name d.reason)

/-- Checks that a name is a topic that may be published. -/
def topic (name : String) : Except BusFault Unit :=
  match topicDefect? name with
  | none => .ok ()
  | some d => .error (.invalidTopic name d.reason)

end Switchboard.Address
