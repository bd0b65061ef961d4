import Switchboard.Proofs.Bus.Order

/-
  Who is called on a message, one act at a time.

  * `publish_delivered` and the lemmas beside it: whatever is done beside the
    drainer delivers nothing;
  * `called?` is the subscription that is called in an act, `handled?` what the
    host is asked to run for it, `posted` what the drainer puts back into the queue;
  * `Proceeds` lists how an act carries a pass on, with who is called and what comes
    out; `step_proceeds` says that the list is complete up to the end of the pass.
-/

namespace Switchboard

variable {H : Type}

/-- What the host has to run when a listener has its turn with a message: a
    request takes its reply without the host, and a responder is not bothered
    with what is no request. -/
def Listener.call? (l : Listener H) (m : Message) : Option (Invocation H) :=
  match l with
  | .subscriber h => some ⟨h, m, false⟩
  | .responder h => if m.isRequest then some ⟨h, m, true⟩ else none
  | .reply _ => none

theorem Listener.message_of_call {l : Listener H} {m : Message} {call : Invocation H}
    (h : l.call? m = some call) : call.message = m := by
  unfold call? at h
  split at h
  · rw [← Option.some.inj h]
  · split at h
    · rw [← Option.some.inj h]
    · cases h
  · cases h

/-- A message that is handed to a subscription. -/
def Subscription.key (s : Subscription H) (m : Message) : String × String := (m.id, s.id)

namespace Bus

variable {b b' : Bus H}

/-! ## Operations that deliver nothing -/

theorem AtDesk.delivered {d : Desk} (h : b.AtDesk d b') :
    b'.counters.delivered = b.counters.delivered := by rw [h.counters]

theorem Subscribes.delivered {listener : Listener H} (h : b.Subscribes listener b') :
    b'.counters.delivered = b.counters.delivered := by cases h <;> rfl

theorem enqueue_delivered (b : Bus H) (p : Parcel) :
    (b.enqueue p).counters.delivered = b.counters.delivered := by
  unfold enqueue
  rcases b.queue.join b.config.maxQueueDepth p with ⟨_ | out, q⟩
  · rfl
  · exact (settleMessage_atDesk _ _ _).delivered

theorem wake_delivered (b : Bus H) : b.wake.counters.delivered = b.counters.delivered := by
  unfold wake
  split <;> rfl

theorem publish_delivered (b : Bus H) (now : Nat) (topic : String) (payload : Json)
    (o : PublishOptions) :
    (b.publish now topic payload o).2.counters.delivered = b.counters.delivered := by
  rcases b.publish_cases now topic payload o with ⟨f, -, h⟩ | ⟨-, h⟩ | ⟨-, h⟩ <;> rw [h]
  · rfl
  · exact (wake_delivered _).trans (enqueue_delivered _ _)

theorem respond_delivered (b : Bus H) (now : Nat) (m : Message) (answer : Json) :
    (b.respond now m answer).counters.delivered = b.counters.delivered := by
  rcases b.respond_cases now m answer with ⟨-, h⟩ | ⟨replyTo, c, -, -, -, h⟩ <;> rw [h]
  exact publish_delivered ..

theorem Opens.delivered {now : Nat} {topic : String} {payload : Json} {o : RequestOptions}
    {t : Traffic} {r : Except BusFault Ticket} (h : b.Opens now topic payload o t r b') :
    b'.counters.delivered = b.counters.delivered := by
  cases h with
  | refused => rfl
  | unpublished pattern => exact (close_atDesk _ _).delivered
  | opened pattern => exact publish_delivered ..

theorem attend_delivered (b : Bus H) (now : Nat) (t : Ticket) :
    (b.attend now t).2.counters.delivered = b.counters.delivered := by
  rcases b.attend_cases now t with ⟨r, -, h⟩ | ⟨-, -, h⟩ | ⟨-, -, -, h⟩ | ⟨-, -, h⟩ <;> rw [h]
  · exact (b.close_atDesk _).delivered
  · exact (b.close_atDesk _).delivered
  · exact (close_atDesk _ _).delivered

theorem sweepStale_delivered (b : Bus H) (now maxAge : Nat) :
    (b.sweepStale now maxAge).2.counters.delivered = b.counters.delivered :=
  sweepStale_keeps (P := fun b' => b'.counters.delivered = b.counters.delivered)
    (fun _ _ h => (settle_atDesk _ _ _).delivered.trans h) now rfl

theorem shutdown_delivered (b : Bus H) :
    b.shutdown.counters.delivered = b.counters.delivered := by
  unfold shutdown
  split
  · rfl
  · exact (foldl_settle_atDesk b.pending (.error .shutdown) b.emptied).delivered

/-- Taking a parcel from the queue delivers nothing yet. -/
theorem receive_delivered (b : Bus H) (now : Nat) (p : Parcel) :
    (b.receive now p).counters.delivered = b.counters.delivered := by
  unfold receive
  dsimp only
  split
  · rfl
  · split
    · split
      · exact (settle_atDesk _ _ _).delivered
      · rfl
    · rfl

/-- At the end of a pass the drainer is free, and nothing is delivered. -/
theorem endPass_frees (b : Bus H) (pass : Pass H) :
    (b.endPass pass).drainer = .ready ∧
      (b.endPass pass).counters.delivered = b.counters.delivered := by
  unfold endPass
  dsimp only
  split
  · exact ⟨rfl, rfl⟩
  · split
    · exact ⟨(enqueue_joins _ _).drainer, enqueue_delivered _ _⟩
    · have hs := settleMessage_atDesk
        ({ b with drainer := .ready }.count fun c => { c with failed := c.failed + 1 })
      exact ⟨(hs _ _).drainer, (hs _ _).delivered⟩

namespace Session

/-! ## One act -/

/-- The subscription that is called in an act: whose turn it is, unless it has
    accepted the message before. -/
def called? (s : Session H) : Act H → Option (Subscription (Listener H))
  | .turn =>
    match s.bus.drainer with
    | .delivering pass =>
      match pass.running, pass.rest with
      | none, sub :: _ => if sub.id ∈ pass.parcel.accepted then none else some sub
      | _, _ => none
    | _ => none
  | _ => none

/-- The handler that the host is asked to run. -/
def handled? (s : Session H) : Act H → Option (Invocation H)
  | .turn =>
    match (s.bus.turn s.now).2 with
    | .invoke call => some call
    | _ => none
  | _ => none

/-- The message and the subscription of an invocation that comes out without a
    failure in an act. -/
def success? (s : Session H) (a : Act H) : Option (String × String) :=
  (s.outcome? a).bind fun
    | (key, none) => some key
    | (_, some _) => none

/-- What the drainer puts back into the queue. -/
def posted (s : Session H) : Act H → List Parcel
  | .turn => s.bus.turnFlow.joined
  | _ => []

section Acts

variable {s : Session H} {a : Act H} {pass : Pass H}

/-- Whoever is called is invoked on the message. -/
theorem invocation?_eq (hp : s.bus.pass? = some pass) (a : Act H) :
    s.invocation? a = (s.called? a).map (·.key pass.parcel.message) := by
  have hd := pass?_eq_some.1 hp
  cases a with
  | turn =>
    rcases hrun : pass.running with _ | sub
    · rcases hrest : pass.rest with _ | ⟨sub, rest⟩
      · simp [invocation?, called?, hd, hrun, hrest]
      · by_cases hid : sub.id ∈ pass.parcel.accepted <;>
          simp [invocation?, called?, hd, hrun, hrest, hid, Subscription.key]
    · simp [invocation?, called?, hd, hrun]
  | _ => rfl

/-- **What the host runs** is the handler of the one who is called, on the message
    that is delivered. -/
theorem handled?_eq (hp : s.bus.pass? = some pass) (a : Act H) :
    s.handled? a = (s.called? a).bind (·.handler.call? pass.parcel.message) := by
  have hd := pass?_eq_some.1 hp
  cases a with
  | turn =>
    rcases hrun : pass.running with _ | sub
    · rcases hrest : pass.rest with _ | ⟨sub, rest⟩
      · simp [handled?, called?, turn, hd, hrun, hrest]
      · by_cases hid : sub.id ∈ pass.parcel.accepted
        · simp [handled?, called?, turn, hd, hrun, hrest, hid]
        · rcases hh : sub.handler with h | h | c
          · simp [handled?, called?, turn, deliver, Listener.call?, hd, hrun, hrest, hid, hh]
          · by_cases hm : pass.parcel.message.isRequest = true <;>
              simp [handled?, called?, turn, deliver, Listener.call?, hd, hrun, hrest, hid, hh, hm]
          · simp [handled?, called?, turn, deliver, Listener.call?, hd, hrun, hrest, hid, hh]
    · simp [handled?, called?, turn, hd, hrun]
  | _ => rfl

/-- The host runs nothing where no delivery is under way. -/
theorem handled?_of_not_delivered (hp : s.bus.pass? = none) (a : Act H) : s.handled? a = none := by
  cases a with
  | turn =>
    rcases hd : s.bus.drainer with _ | _ | pass
    · simp [handled?, turn, hd]
    · rcases hpop : s.bus.queue.pop? with _ | x <;> simp [handled?, turn, hd, hpop]
    · rw [pass?_eq_some.2 hd] at hp
      cases hp
  | _ => rfl

/-- How an act carries a pass on, with the one who is called in it, what comes out,
    and the pass afterwards. -/
inductive Proceeds (pass : Pass H) :
    Option (Subscription (Listener H)) → Option ((String × String) × Option HandlerFault) →
      Pass H → Prop
  | still : Proceeds pass none none pass
  /-- the next subscription has accepted the message before -/
  | skipped (sub rest) : pass.running = none → pass.rest = sub :: rest →
      sub.id ∈ pass.parcel.accepted → Proceeds pass none none { pass with rest }
  /-- it accepts the message at once -/
  | passed (sub rest) : pass.running = none → pass.rest = sub :: rest →
      sub.id ∉ pass.parcel.accepted →
      Proceeds pass (some sub) (some (sub.key pass.parcel.message, none))
        { pass with
          rest, running := none
          parcel := { pass.parcel with accepted := pass.parcel.accepted ++ [sub.id] } }
  | invoked (sub rest) : pass.running = none → pass.rest = sub :: rest →
      sub.id ∉ pass.parcel.accepted →
      Proceeds pass (some sub) none { pass with rest, running := some sub }
  /-- the handler that is running succeeds -/
  | accepted (sub) : pass.running = some sub →
      Proceeds pass none (some (sub.key pass.parcel.message, none))
        { pass with
          running := none
          parcel := { pass.parcel with accepted := pass.parcel.accepted ++ [sub.id] } }
  | rejected (sub e) : pass.running = some sub →
      Proceeds pass none (some (sub.key pass.parcel.message, some e))
        { pass with running := none, failure := pass.failure.or (some e) }

/-- Whoever is called has had their turn, and so have those who need none. -/
theorem Proceeds.called {c : Option (Subscription (Listener H))}
    {o : Option ((String × String) × Option HandlerFault)} {pass' : Pass H}
    (h : Proceeds pass c o pass') :
    ∃ turns, pass.rest = turns ++ pass'.rest ∧
      c.toList = turns.filter (·.id ∉ pass.parcel.accepted) := by
  cases h with
  | still => exact ⟨[], rfl, rfl⟩
  | skipped sub rest _ hrest hid => exact ⟨[sub], hrest, by simp [hid]⟩
  | passed sub rest _ hrest hid => exact ⟨[sub], hrest, by simp [hid]⟩
  | invoked sub rest _ hrest hid => exact ⟨[sub], hrest, by simp [hid]⟩
  | accepted => exact ⟨[], rfl, rfl⟩
  | rejected => exact ⟨[], rfl, rfl⟩

/-- Who was running or is called comes out, or is running. -/
theorem Proceeds.told {c : Option (Subscription (Listener H))}
    {o : Option ((String × String) × Option HandlerFault)} {pass' : Pass H}
    (h : Proceeds pass c o pass') :
    (pass.running.toList ++ c.toList).map (·.key pass.parcel.message) =
      (o.map (·.1)).toList ++ pass'.running.toList.map (·.key pass.parcel.message) := by
  cases h with
  | still => simp
  | skipped sub rest hrun => simp
  | passed sub rest hrun => simp [hrun]
  | invoked sub rest hrun => simp [hrun]
  | accepted sub hrun => simp [hrun]
  | rejected sub e hrun => simp [hrun]

/-- The end of a pass: all had their turn. -/
structure Closes (s : Session H) (a : Act H) (pass : Pass H) : Prop where
  act : a = .turn
  running : pass.running = none
  rest : pass.rest = []
  ended : (s.step a).bus.pass? = none
  delivered : (s.step a).bus.counters.delivered = s.bus.counters.delivered

theorem closes (hp : s.bus.pass? = some pass) (hrun : pass.running = none)
    (hrest : pass.rest = []) : Closes s .turn pass := by
  have hd := pass?_eq_some.1 hp
  have hbus : (s.step .turn).bus = s.bus.endPass pass := by simp [step, turn, hd, hrun, hrest]
  obtain ⟨hready, hdelivered⟩ := s.bus.endPass_frees pass
  rw [← hbus] at hready hdelivered
  exact ⟨rfl, hrun, hrest, by rw [pass?, hready], hdelivered⟩

/-- A step of the drainer amid a pass: what succeeds in it is counted. -/
theorem turn_proceeds (hp : s.bus.pass? = some pass)
    (hnext : pass.running ≠ none ∨ pass.rest ≠ []) :
    ∃ pass', (s.step .turn).bus.pass? = some pass' ∧
      Proceeds pass (s.called? .turn) (s.outcome? .turn) pass' ∧
      (s.step .turn).bus.counters.delivered =
        s.bus.counters.delivered + (s.success? .turn).toList.length := by
  have hd := pass?_eq_some.1 hp
  have hturn := s.bus.turn_turns s.now
  rw [← step_turn_bus] at hturn
  generalize s.bus.turnTraffic s.now = t at hturn
  generalize s.bus.handedOver = os at hturn
  have houtcome : s.outcome? .turn = if (s.step .turn).bus.running?.isSome then none else
      (s.called? .turn).map fun sub => (sub.key pass.parcel.message, none) := by
    simp only [outcome?, invocation?_eq hp, Option.map_map]
    rcases (s.step .turn).bus.running? with _ | sub <;> rfl
  have hsame {p : Pass H} (h : s.bus.drainer = .delivering p) : p = pass :=
    Drainer.delivering.inj (h.symm.trans hd)
  rw [success?, houtcome]
  generalize (s.step .turn).bus = b at hturn
  cases hturn with
  | idle h => rw [h] at hd; cases hd
  | rested h => rw [h] at hd; cases hd
  | expired p queue h => rw [h] at hd; cases hd
  | unheard p queue counters h => rw [h] at hd; cases hd
  | begun p queue h => rw [h] at hd; cases hd
  | processed p h hrun hrest => obtain rfl := hsame h; simp [hrun, hrest] at hnext
  | retried p h hrun hrest => obtain rfl := hsame h; simp [hrun, hrest] at hnext
  | failed p e h hrun hrest => obtain rfl := hsame h; simp [hrun, hrest] at hnext
  | busy p sub h hrun =>
    obtain rfl := hsame h
    have hcalled : s.called? .turn = none := by simp [called?, hd, hrun]
    rw [hcalled]
    refine ⟨p, hp, ?_⟩
    split <;> exact ⟨.still, rfl⟩
  | skipped p sub rest h hrun hrest hid =>
    obtain rfl := hsame h
    have hcalled : s.called? .turn = none := by simp [called?, hd, hrun, hrest, hid]
    rw [hcalled]
    refine ⟨_, rfl, ?_⟩
    split <;> exact ⟨.skipped sub rest hrun hrest hid, rfl⟩
  | replied p sub rest c h hrun hrest _ _ hid =>
    obtain rfl := hsame h
    have hcalled : s.called? .turn = some sub := by simp [called?, hd, hrun, hrest, hid]
    rw [hcalled]
    exact ⟨_, rfl, .passed sub rest hrun hrest hid,
      congrArg (· + 1) (s.bus.settle_atDesk c _).delivered⟩
  | passed p sub rest h hrun hrest hid =>
    obtain rfl := hsame h
    have hcalled : s.called? .turn = some sub := by simp [called?, hd, hrun, hrest, hid]
    rw [hcalled]
    exact ⟨_, rfl, .passed sub rest hrun hrest hid, rfl⟩
  | invoked p sub rest h hrun hrest hid =>
    obtain rfl := hsame h
    have hcalled : s.called? .turn = some sub := by simp [called?, hd, hrun, hrest, hid]
    rw [hcalled]
    exact ⟨_, rfl, .invoked sub rest hrun hrest hid, rfl⟩

/-- The end of a handler amid a pass: it is counted where it has not failed. -/
theorem finish_proceeds (hp : s.bus.pass? = some pass) (ending : Ending) :
    ∃ pass', (s.step (.finish ending)).bus.pass? = some pass' ∧
      Proceeds pass none (s.outcome? (.finish ending)) pass' ∧
      (s.step (.finish ending)).bus.counters.delivered =
        s.bus.counters.delivered + (s.success? (.finish ending)).toList.length := by
  have hd := pass?_eq_some.1 hp
  have hfinish := s.bus.finish_finishes s.now ending
  generalize s.bus.finishTraffic s.now ending = t at hfinish
  have hbus : (s.step (.finish ending)).bus = s.bus.finish s.now ending := rfl
  have hsame {p : Pass H} (h : s.bus.drainer = .delivering p) : p = pass :=
    Drainer.delivering.inj (h.symm.trans hd)
  have houtcome {sub : Subscription (Listener H)} (hrun : pass.running = some sub) :
      s.outcome? (.finish ending) = some (sub.key pass.parcel.message, faultOf sub ending) := by
    simp [outcome?, hd, hrun, Subscription.key]
  rw [success?, hbus]
  generalize s.bus.finish s.now ending = b at hfinish
  cases hfinish with
  | idle hidle =>
    have hrun : pass.running = none := by simpa [running?, hd] using hidle
    have hnone : s.outcome? (.finish ending) = none := by simp [outcome?, hd, hrun]
    rw [hnone]
    exact ⟨pass, hp, .still, rfl⟩
  | rejected p sub e h hrun hfault =>
    obtain rfl := hsame h
    rw [houtcome hrun, hfault]
    exact ⟨_, rfl, .rejected sub e hrun, rfl⟩
  | accepted p sub h hrun hfault =>
    obtain rfl := hsame h
    rw [houtcome hrun, hfault]
    exact ⟨_, rfl, .accepted sub hrun, rfl⟩
  | answered p sub answer h hrun hfault =>
    obtain rfl := hsame h
    rw [houtcome hrun, hfault]
    exact ⟨_, rfl, .accepted sub hrun, congrArg (· + 1) (respond_delivered ..)⟩

/-- **One act** carries a pass on, or all had their turn and the pass is over. -/
theorem step_proceeds (hp : s.bus.pass? = some pass) (a : Act H) :
    (∃ pass', (s.step a).bus.pass? = some pass' ∧
      Proceeds pass (s.called? a) (s.outcome? a) pass' ∧ s.posted a = []) ∨ Closes s a pass := by
  by_cases hturn : a = .turn
  · subst hturn
    by_cases hend : pass.running = none ∧ pass.rest = []
    · exact Or.inr (closes hp hend.1 hend.2)
    have hd := pass?_eq_some.1 hp
    have hnext : pass.running ≠ none ∨ pass.rest ≠ [] := by tauto
    obtain ⟨pass', hpass, hproceeds, -⟩ := turn_proceeds hp hnext
    refine Or.inl ⟨pass', hpass, hproceeds, ?_⟩
    unfold posted turnFlow
    simp only [hd]
    split
    · next hrun hrest _ => exact absurd ⟨hrun, hrest⟩ hend
    · rfl
  by_cases hfinish : ∃ ending, a = .finish ending
  · obtain ⟨ending, rfl⟩ := hfinish
    obtain ⟨pass', hpass, hproceeds, -⟩ := finish_proceeds hp ending
    exact Or.inl ⟨pass', hpass, hproceeds, rfl⟩
  have hother : ∀ ending, a ≠ .finish ending := fun ending h => hfinish ⟨ending, h⟩
  have hsilent : s.called? a = none ∧ s.outcome? a = none ∧ s.posted a = [] := by
    cases a with
    | turn => exact absurd rfl hturn
    | finish ending => exact absurd rfl (hother ending)
    | _ => exact ⟨rfl, rfl, rfl⟩
  obtain ⟨hcalled, houtcome, hposted⟩ := hsilent
  refine Or.inl ⟨pass, (step_pass? s hturn hother).trans hp, ?_, hposted⟩
  rw [hcalled, houtcome]
  exact .still

/-- What is put back at the end of a pass is its parcel, tried once more. -/
theorem posted_of_closes (hp : s.bus.pass? = some pass) (h : Closes s a pass) {p : Parcel}
    (hposted : p ∈ s.posted a) : p = { pass.parcel with message := pass.again } := by
  have hd := pass?_eq_some.1 hp
  rw [h.act, posted, turnFlow] at hposted
  simp only [hd, h.running, h.rest] at hposted
  split at hposted
  · split at hposted
    · exact List.mem_singleton.1 hposted
    · cases hposted
  · cases hposted

end Acts

end Session

end Bus

end Switchboard
