import Switchboard.Address
import Switchboard.Bus.State

/-
  Subscribing to the bus.

  The bus accepts exact topics, and patterns whose only wildcard is their last
  segment.  The list of live ids and the index always change together.
-/

namespace Switchboard.Bus

variable {H : Type}

/-- Adds a subscription unless the bus is closed. -/
def add (b : Bus H) (pattern : Pattern) (listener : Listener H) (metadata : Metadata) :
    Except BusFault String × Bus H :=
  if b.closed then (.error .shutdown, b)
  else
    let (id, mint) := b.mint.take
    (.ok id,
      { b with
        mint
        index := b.index.insert ⟨id, pattern, listener, metadata⟩
        patterns := b.patterns ++ [(id, pattern.text)] })

/-- Listens on one topic. -/
def subscribe (b : Bus H) (topic : String) (listener : Listener H) (metadata : Metadata) :
    Except BusFault String × Bus H :=
  match Address.pattern topic with
  | .error f => (.error f, b)
  | .ok p =>
    if p.kind = .exact then b.add p listener metadata
    else (.error (Address.badPattern topic "wildcards are only accepted by subscribe_pattern"), b)

/-- Listens on every topic below a pattern that ends with the wildcard. -/
def subscribePattern (b : Bus H) (pattern : String) (listener : Listener H)
    (metadata : Metadata) : Except BusFault String × Bus H :=
  match Address.pattern pattern with
  | .error f => (.error f, b)
  | .ok p =>
    if p.kind = .under then b.add p listener metadata
    else
      (.error (Address.badPattern pattern (p.kind.label ++
        " pattern given; the bus accepts only one trailing '.*' wildcard (e.g. 'order.*')")), b)

/-- Removes the subscription with an id; answers whether it was live. -/
def unsubscribe (b : Bus H) (id : String) : Bool × Bus H :=
  match b.patterns.lookup id with
  | none => (false, b)
  | some pattern =>
    let (found, index) := b.index.erase pattern id
    (found, { b with index, patterns := b.patterns.filter (·.1 ≠ id) })

/-- Removes every subscription of a plugin; answers how many there were. -/
def unsubscribePlugin (b : Bus H) (plugin : String) : Nat × Bus H :=
  let (removed, index) := b.index.eraseWhere (·.isOwnedBy plugin)
  let ids := removed.map (·.id)
  (removed.length, { b with index, patterns := b.patterns.filter (!ids.contains ·.1) })

end Switchboard.Bus
