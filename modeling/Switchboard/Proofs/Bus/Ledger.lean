import Switchboard.Proofs.Bus.Outside
import Switchboard.Proofs.Bus.Steps

/-
  The ledger — every message that was accepted has exactly one fate.

  * `Session.traffic` is the traffic of one act, `history` that of a run;
  * `step_accounts`, `run_accounts`: the books of the bus agree with it;
  * `one_fate`: what was published has left with one fate or is in flight, and
    the counters say which.
-/

namespace Switchboard.Bus

variable {H : Type}

namespace Session

/-! ## One act -/

/-- The traffic of an act. -/
def traffic (s : Session H) : Act H → Traffic
  | .publish topic payload o => s.bus.publishTraffic s.now topic payload o
  | .request topic payload o => s.bus.requestTraffic s.now topic payload o
  | .turn => s.bus.turnTraffic s.now
  | .finish ending => s.bus.finishTraffic s.now ending
  | .shutdown => s.bus.shutdownTraffic
  | _ => {}

/-- **One act.**  The books agree with its traffic. -/
theorem step_accounts (s : Session H) (a : Act H) :
    s.bus.Accounts (s.traffic a) (s.step a).bus := by
  have hrefl := (Effect.refl s.bus).toAccounts
  cases a with
  | subscribe topic handler metadata => exact (s.bus.subscribe_subscribes ..).accounts
  | subscribePattern pattern handler metadata =>
    exact (s.bus.subscribePattern_subscribes ..).accounts
  | serve topic handler metadata => exact (s.bus.subscribe_subscribes ..).accounts
  | unsubscribe id => exact (s.bus.unsubscribe_atDesk id).accounts
  | unsubscribePlugin plugin => exact (s.bus.unsubscribePlugin_atDesk plugin).accounts
  | publish topic payload o => exact (s.bus.publish_effect ..).toAccounts
  | request topic payload o =>
    rw [step_request_bus]
    exact (s.bus.openRequest_opens s.now topic payload o).accounts
  | attend n =>
    rcases hn : s.calls.waiting.lookup n with _ | t
    · simpa only [traffic, step, hn] using hrefl
    · have h := s.bus.attend_accounts s.now t
      rcases ht : s.bus.attend s.now t with ⟨_ | r, b⟩ <;> rw [ht] at h <;>
        simpa only [traffic, step, hn, ht] using h
  | drop n =>
    rcases hn : s.calls.waiting.lookup n with _ | t
    · simpa only [traffic, step, hn] using hrefl
    · simpa only [traffic, step, hn] using (s.bus.close_atDesk t.correlation).accounts
  | sweep maxAge => exact (s.bus.sweepStale_effect s.now maxAge).toAccounts
  | shutdown => exact s.bus.shutdown_effect.toAccounts
  | turn =>
    rw [step_turn_bus]
    exact (s.bus.turn_turns s.now).effect.toAccounts
  | finish ending => exact (s.bus.finish_finishes s.now ending).effect.toAccounts
  | wait ms => exact hrefl
  | host present => exact .quiet rfl rfl rfl (fun _ => rfl) rfl (.refl _)

/-! ## Runs -/

/-- The traffic of a run. -/
def history (s : Session H) : List (Act H) → Traffic
  | [] => {}
  | a :: acts => (s.traffic a).append ((s.step a).history acts)

theorem run_accounts (s : Session H) (acts : List (Act H)) :
    s.bus.Accounts (s.history acts) (s.run acts).bus := by
  induction acts generalizing s with
  | nil => exact (Effect.refl s.bus).toAccounts
  | cons a acts ih => exact (s.step_accounts a).trans (ih (s.step a))

/-- What is in flight has an id that was handed out. -/
theorem flight_issued (config : BusConfig) (hosted : Bool) (acts : List (Act H)) :
    ∀ m ∈ ((start config hosted).run acts).bus.flight,
      ((start config hosted).run acts).bus.mint.Issued m.id := by
  have ha := run_accounts (start config hosted : Session H) acts
  intro m hm
  rcases ha.mem_flight hm with hold | hnew
  · cases hold
  · exact (ha.fresh m hnew).2

/-- What is counted, fate by fate, is everything. -/
theorem length_eq_counts (fs : List Fate) :
    fs.length = fs.count .expired + fs.count .undeliverable + fs.count .processed +
      fs.count .failed + fs.count .overflowed + fs.count .discarded := by
  induction fs with
  | nil => rfl
  | cons f fs ih => cases f <;> simp only [List.length_cons, List.count_cons, ih] <;> simp <;> omega

/-- **Every accepted message has exactly one fate.**  After every run, what was
    published is what has left, with one fate each, and what is in flight; and
    the counters say how many have left with each fate. -/
theorem one_fate (config : BusConfig) (hosted : Bool) (acts : List (Act H)) :
    let s := (start config hosted).run acts
    let t := (start config hosted : Session H).history acts
    let c := s.bus.counters
    c.published = c.expired + c.undeliverable + c.processed + c.failed + c.overflowed +
        s.bus.queue.size + (if s.bus.pass?.isSome then 1 else 0) + c.discarded ∧
      (∀ f, c.of f = (t.left.map (·.1)).count f) ∧
      c.published = t.entered.length ∧
      (t.entered.map (·.id)).Perm (s.bus.flight.map (·.id) ++ t.left.map (·.2.id)) ∧
      (s.bus.flight.map (·.id) ++ t.left.map (·.2.id)).Nodup := by
  intro s t c
  have h := run_accounts (start config hosted : Session H) acts
  have hpublished : c.published = t.entered.length := h.published.trans (Nat.zero_add _)
  have hfates : ∀ f, c.of f = (t.left.map (·.1)).count f := fun f =>
    (h.fates f).trans (by cases f <;> exact Nat.zero_add _)
  have hperm : t.entered.Perm (s.bus.flight ++ t.left.map (·.2)) := h.flight
  have hids := hperm.map (·.id)
  rw [List.map_append, List.map_map] at hids
  refine ⟨?_, hfates, hpublished, hids, hids.nodup_iff.1 h.once⟩
  have hlength := hperm.length_eq
  have hflight : s.bus.flight.length =
      (if s.bus.pass?.isSome then 1 else 0) + s.bus.queue.size := by
    rw [flight, List.length_append, List.length_map, Queue.length_toList]
    cases s.bus.pass? <;> rfl
  have hcounts := length_eq_counts (t.left.map (·.1))
  simp only [← hfates] at hcounts
  simp only [List.length_append, List.length_map, hflight] at hlength hcounts
  rw [hpublished, hlength, hcounts]
  simp only [BusCounters.of]
  omega

end Session

end Switchboard.Bus
