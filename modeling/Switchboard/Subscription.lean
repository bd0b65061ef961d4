import Switchboard.Pattern
import Switchboard.Message
import Switchboard.Quote

/-
  Subscriptions — a handler listening on a pattern.

  The library never looks into a handler; `H` is whatever the host calls.
-/

namespace Switchboard

variable {H : Type}

/-- A handler and the pattern it listens on. -/
structure Subscription (H : Type) where
  id : String
  pattern : Pattern
  handler : H
  metadata : Metadata
  deriving Repr

namespace Subscription

/-- Whether a subscription belongs to a plugin. -/
def isOwnedBy (s : Subscription H) (plugin : String) : Bool := s.metadata.plugin == some plugin

/-- The opening of the text that describes a subscription in a log. -/
def summary (s : Subscription H) : String :=
  "Subscription \x7b id: " ++ Quote.shown s.id ++ ", pattern: " ++ Quote.shown s.pattern.text

end Subscription

end Switchboard
