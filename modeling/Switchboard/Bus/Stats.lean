import Switchboard.Bus.Delivery
import Switchboard.Index.Stats

/-
  The figures of a bus: what it has counted, and what it holds now.
-/

namespace Switchboard.Bus

variable {H : Type}

def statsJson (b : Bus H) : Json :=
  let c := b.counters
  .obj
    [("published", .nat c.published), ("delivered", .nat c.delivered),
     ("processed", .nat c.processed), ("retried", .nat c.retried), ("expired", .nat c.expired),
     ("failed", .nat c.failed), ("undeliverable", .nat c.undeliverable),
     ("dropped_overflow", .nat c.overflowed), ("rpc_requests", .nat c.requests),
     ("rpc_timeouts", .nat c.timeouts), ("rpc_no_subscriber", .nat c.unanswerable),
     ("queue_depth", .nat b.queue.size), ("queue_high", .nat (b.queue.depth .high)),
     ("queue_normal", .nat (b.queue.depth .normal)), ("queue_low", .nat (b.queue.depth .low)),
     ("subscriptions", .nat b.subscriptionCount), ("pending_requests", .nat b.pendingCount),
     ("trie", b.index.stats.toJson)]

end Switchboard.Bus
