import Switchboard.Proofs.Bus.Session
import Switchboard.Proofs.Bus.Traffic

/-
  What the drainer and the handlers it runs can do to a bus.

  * `Turns` lists what a step of the drainer can do, `Finishes` what the end of
    a handler can do; each with its traffic;
  * `turn_turns` and `finish_finishes` say that the lists are complete;
  * `Turns.effect` and `Finishes.effect` are the effects.
-/

namespace Switchboard

variable {H : Type}

/-- The message of a pass, after the pass has failed. -/
def Pass.again (pass : Pass H) : Message :=
  { pass.parcel.message with attempts := pass.parcel.message.attempts + 1 }

namespace Bus

/-! ## The drainer -/

/-- The traffic of a step of the drainer. -/
def turnTraffic (b : Bus H) (now : Nat) : Traffic :=
  match b.drainer with
  | .idle => {}
  | .ready =>
    match b.queue.pop? with
    | none => {}
    | some (p, _) =>
      if p.message.isExpiredAt now then { left := [(.expired, p.stamp)] }
      else if (b.index.matching p.message.topic).isEmpty then
        { left := [(.undeliverable, p.stamp)] }
      else {}
  | .delivering pass =>
    match pass.running, pass.rest with
    | none, [] =>
      match pass.failure with
      | none => { left := [(.processed, pass.parcel.stamp)] }
      | some _ =>
        if pass.again.canRetry then
          { left := b.ousted { pass.parcel with message := pass.again } }
        else { left := [(.failed, pass.parcel.stamp)] }
    | _, _ => {}

/-- The reply that a step of the drainer hands to the request that waits for it. -/
def handedOver (b : Bus H) : List (String × Reply) :=
  match b.drainer with
  | .delivering pass =>
    match pass.running, pass.rest with
    | none, s :: _ =>
      if pass.parcel.accepted.contains s.id then []
      else match s.handler with
        | .reply c =>
          if pass.parcel.message.correlation = some c then
            [(c, replyOf pass.parcel.message.payload)]
          else []
        | _ => []
    | _, _ => []
  | _ => []

/-- What a step of the drainer can do. -/
inductive Turns (b : Bus H) (now : Nat) : Traffic → List (String × Reply) → Bus H → Prop
  | idle : b.drainer = .idle → Turns b now {} [] b
  /-- a handler is running -/
  | busy (pass s) : b.drainer = .delivering pass → pass.running = some s → Turns b now {} [] b
  /-- the queue is empty -/
  | rested : b.drainer = .ready → b.queue.pop? = none → Turns b now {} [] { b with drainer := .idle }
  | expired (p queue) : b.drainer = .ready → b.queue.pop? = some (p, queue) →
      p.message.isExpiredAt now = true →
      Turns b now { left := [(.expired, p.stamp)] } []
        ({ b with queue }.count fun c => { c with expired := c.expired + 1 })
  /-- nobody listens -/
  | unheard (p queue) (counters : BusCounters) : b.drainer = .ready →
      b.queue.pop? = some (p, queue) → p.message.isExpiredAt now = false →
      b.index.matching p.message.topic = [] →
      counters.published = b.counters.published →
      (∀ f, counters.of f = b.counters.of f + [Fate.undeliverable].count f) →
      counters.retried = b.counters.retried →
      Turns b now { left := [(.undeliverable, p.stamp)] } []
        ({ b with queue, counters }.settleMessage p.message (.noSubscriber p.message.topic))
  | begun (p queue) : b.drainer = .ready → b.queue.pop? = some (p, queue) →
      p.message.isExpiredAt now = false → b.index.matching p.message.topic ≠ [] →
      Turns b now {} []
        { b with queue, drainer := .delivering ⟨p, b.index.matching p.message.topic, none, none⟩ }
  | processed (pass) : b.drainer = .delivering pass → pass.running = none → pass.rest = [] →
      pass.failure = none →
      Turns b now { left := [(.processed, pass.parcel.stamp)] } []
        ({ b with drainer := .ready }.count fun c => { c with processed := c.processed + 1 })
  | retried (pass) : b.drainer = .delivering pass → pass.running = none → pass.rest = [] →
      pass.failure ≠ none → pass.again.canRetry = true →
      Turns b now { left := b.ousted { pass.parcel with message := pass.again } } []
        (({ b with drainer := .ready }.count fun c => { c with retried := c.retried + 1 }).enqueue
          { pass.parcel with message := pass.again })
  | failed (pass f) : b.drainer = .delivering pass → pass.running = none → pass.rest = [] →
      pass.failure = some f → pass.again.canRetry = false →
      Turns b now { left := [(.failed, pass.parcel.stamp)] } []
        (({ b with drainer := .ready }.count fun c => { c with failed := c.failed + 1 }).settleMessage
          pass.again (.handler f))
  /-- the subscription has accepted the message in an earlier pass -/
  | skipped (pass s rest) : b.drainer = .delivering pass → pass.running = none →
      pass.rest = s :: rest → s.id ∈ pass.parcel.accepted →
      Turns b now {} [] { b with drainer := .delivering { pass with rest } }
  /-- a request takes its reply -/
  | replied (pass s rest c) : b.drainer = .delivering pass → pass.running = none →
      pass.rest = s :: rest → s.handler = .reply c → pass.parcel.message.correlation = some c →
      s.id ∉ pass.parcel.accepted →
      Turns b now {} [(c, replyOf pass.parcel.message.payload)]
        ((b.settle c (replyOf pass.parcel.message.payload)).accept { pass with rest } s.id)
  /-- the subscription has nothing to do with the message -/
  | passed (pass s rest) : b.drainer = .delivering pass → pass.running = none →
      pass.rest = s :: rest → s.id ∉ pass.parcel.accepted →
      Turns b now {} [] (b.accept { pass with rest } s.id)
  | invoked (pass s rest) : b.drainer = .delivering pass → pass.running = none →
      pass.rest = s :: rest → s.id ∉ pass.parcel.accepted → (∀ c, s.handler ≠ .reply c) →
      Turns b now {} [] { b with drainer := .delivering { pass with rest, running := some s } }

/-- Taking a parcel from the queue. -/
theorem receive_turns {b : Bus H} {p : Parcel} {queue : Queue} (now : Nat)
    (hd : b.drainer = .ready) (hp : b.queue.pop? = some (p, queue)) :
    b.Turns now (b.turnTraffic now) [] ({ b with queue }.receive now p) := by
  have htraffic : b.turnTraffic now =
      if p.message.isExpiredAt now then { left := [(.expired, p.stamp)] }
      else if (b.index.matching p.message.topic).isEmpty then
        { left := [(.undeliverable, p.stamp)] }
      else {} := by
    simp only [turnTraffic, hd, hp]
  rw [htraffic]
  unfold receive
  dsimp only
  split
  · next h => exact .expired p queue hd hp h
  · next h =>
    have hfresh := Bool.eq_false_iff.2 h
    split
    · next hnil =>
      rw [List.isEmpty_iff] at hnil
      split
      · next c hc =>
        have : b.Turns now _ _ _ := .unheard p queue
          { b.counters with
            undeliverable := b.counters.undeliverable + 1
            unanswerable := b.counters.unanswerable + 1 }
          hd hp hfresh hnil rfl (fun f => by cases f <;> rfl) rfl
        simp only [settleMessage, hc] at this
        exact this
      · next hc =>
        have : b.Turns now _ _ _ := .unheard p queue
          { b.counters with undeliverable := b.counters.undeliverable + 1 }
          hd hp hfresh hnil rfl (fun f => by cases f <;> rfl) rfl
        simp only [settleMessage, hc] at this
        exact this
    · next hsome =>
      rw [List.isEmpty_iff] at hsome
      exact .begun p queue hd hp hfresh hsome

/-- Ending a pass. -/
theorem endPass_turns {b : Bus H} {pass : Pass H} (now : Nat) (hd : b.drainer = .delivering pass)
    (hrun : pass.running = none) (hrest : pass.rest = []) :
    b.Turns now (b.turnTraffic now) [] (b.endPass pass) := by
  rcases hf : pass.failure with _ | f
  · simp only [turnTraffic, endPass, hd, hrun, hrest, hf]
    exact .processed pass hd hrun hrest hf
  · simp only [turnTraffic, endPass, hd, hrun, hrest, hf]
    change b.Turns now _ [] (if pass.again.canRetry = true then _ else _)
    split
    · next h => exact .retried pass hd hrun hrest (by simp [hf]) h
    · next h => exact .failed pass f hd hrun hrest hf (Bool.eq_false_iff.2 h)

/-- Giving a subscription its turn. -/
theorem deliver_turns {b : Bus H} {pass : Pass H} {s : Subscription (Listener H)}
    {rest : List (Subscription (Listener H))} (now : Nat) (hd : b.drainer = .delivering pass)
    (hrun : pass.running = none) (hrest : pass.rest = s :: rest)
    (hid : s.id ∉ pass.parcel.accepted) :
    b.Turns now {} b.handedOver (b.deliver { pass with rest } s).1 := by
  have hover : b.handedOver = match s.handler with
      | .reply c =>
        if pass.parcel.message.correlation = some c then
          [(c, replyOf pass.parcel.message.payload)]
        else []
      | _ => [] := by
    simp [handedOver, hd, hrun, hrest, hid]
  rw [hover]
  rcases hs : s.handler with h | h | c
  · simp only [deliver, hs]
    exact .invoked pass s rest hd hrun hrest hid (by simp [hs])
  · simp only [deliver, hs]
    split
    · exact .invoked pass s rest hd hrun hrest hid (by simp [hs])
    · exact .passed pass s rest hd hrun hrest hid
  · simp only [deliver, hs, takeReply]
    split
    · next hc => exact .replied pass s rest c hd hrun hrest hs hc hid
    · exact .passed pass s rest hd hrun hrest hid

theorem turn_turns (b : Bus H) (now : Nat) :
    b.Turns now (b.turnTraffic now) b.handedOver (b.turn now).1 := by
  rcases hd : b.drainer with _ | _ | pass
  · simpa only [turn, turnTraffic, handedOver, hd] using Turns.idle hd
  · have hover : b.handedOver = [] := by simp only [handedOver, hd]
    rw [hover]
    rcases hp : b.queue.pop? with _ | ⟨p, queue⟩
    · simpa only [turn, turnTraffic, hd, hp] using Turns.rested hd hp
    · simpa only [turn, hd, hp] using receive_turns now hd hp
  · rcases hrun : pass.running with _ | s
    · rcases hrest : pass.rest with _ | ⟨s, rest⟩
      · have hover : b.handedOver = [] := by simp only [handedOver, hd, hrun, hrest]
        rw [hover]
        simpa only [turn, hd, hrun, hrest] using endPass_turns now hd hrun hrest
      · have htraffic : b.turnTraffic now = {} := by simp only [turnTraffic, hd, hrun, hrest]
        rw [htraffic]
        by_cases hid : s.id ∈ pass.parcel.accepted
        · have hover : b.handedOver = [] := by simp [handedOver, hd, hrun, hrest, hid]
          have hturn : (b.turn now).1 = { b with drainer := .delivering { pass with rest } } := by
            simp [turn, hd, hrun, hrest, hid]
          rw [hover, hturn]
          exact .skipped pass s rest hd hrun hrest hid
        · have hturn : b.turn now = b.deliver { pass with rest } s := by
            simp [turn, hd, hrun, hrest, hid]
          rw [hturn]
          exact deliver_turns now hd hrun hrest hid
    · simpa only [turn, turnTraffic, handedOver, hd, hrun] using Turns.busy pass s hd hrun

theorem verdicts_ousted (b b' : Bus H) (p : Parcel) :
    b.verdicts { left := b'.ousted p } = b'.verdicts { left := b'.ousted p } := by
  unfold verdicts ousted
  cases (b'.queue.join b'.config.maxQueueDepth p).1 <;> rfl

theorem flight_of_ready {b : Bus H} (h : b.drainer = .ready) :
    b.flight = b.queue.toList.map (·.stamp) := by simp only [flight, pass?, h]; rfl

theorem flight_of_delivering {b : Bus H} {pass : Pass H} (h : b.drainer = .delivering pass) :
    b.flight = pass.parcel.stamp :: b.queue.toList.map (·.stamp) := by
  simp only [flight, pass?, h]; rfl

/-- A message that leaves without its request being concerned. -/
theorem Effect.leaves {b b' : Bus H} {f : Fate} {m : Message}
    (hconfig : b'.config = b.config) (hclosed : b'.closed = b.closed)
    (hpublished : b'.counters.published = b.counters.published)
    (hfates : ∀ g, b'.counters.of g = b.counters.of g + [f].count g)
    (hflight : b.flight.Perm (b'.flight ++ [m])) (hmint : b'.mint = b.mint)
    (hindex : b.index.Thins b'.index)
    (hdesk : b'.desk = b.desk.settleAll (b.verdicts { left := [(f, m)] })) :
    b.Effect { left := [(f, m)] } (b.verdicts { left := [(f, m)] }) b' where
  config := hconfig
  closed := by rw [hclosed, Bool.or_false]
  published := hpublished
  fates := hfates
  flight := by simpa using hflight
  mint := by rw [hmint]; exact .refl _
  fresh := by simp
  once := List.nodup_nil
  desk := hdesk
  index := hindex

/-- What accepting does, where this pass is under way. -/
theorem accept_effect {b : Bus H} {pass : Pass H} (pass' : Pass H) (id : String)
    (hd : b.drainer = .delivering pass) (hp : pass'.parcel = pass.parcel) :
    b.Effect {} [] (b.accept pass' id) := by
  refine .quiet rfl rfl rfl (fun f => by cases f <;> rfl) ?_ rfl rfl rfl
  rw [flight_of_delivering hd, ← hp]
  rfl

/-- **A step of the drainer** lets at most one message go, and settles its
    request if it was not delivered. -/
theorem Turns.effect {b b' : Bus H} {now : Nat} {t : Traffic} {os : List (String × Reply)}
    (h : b.Turns now t os b') : b.Effect t (os ++ b.verdicts t) b' := by
  cases h with
  | idle => exact .refl b
  | busy => exact .refl b
  | rested hd =>
    refine .quiet rfl rfl rfl (fun _ => rfl) ?_ rfl rfl rfl
    rw [flight_of_ready hd]
    rfl
  | expired p queue hd hp =>
    refine .leaves rfl rfl rfl (fun f => by cases f <;> rfl) ?_ rfl (.refl _) rfl
    have hflight := flight_of_ready (b := { b with queue }) hd
    rw [flight_of_ready hd, Queue.toList_pop hp]
    exact hflight ▸ (List.perm_append_singleton _ _).symm
  | unheard p queue counters hd hp _ _ hpublished hfates =>
    have hs := settleMessage_atDesk { b with queue, counters } p.message (.noSubscriber p.message.topic)
    refine .leaves hs.config hs.closed (by rw [hs.counters]; exact hpublished)
      (fun f => by rw [hs.counters]; exact hfates f) ?_ hs.mint hs.index ?_
    · rw [flight_of_ready hd, flight_of_ready (hs.drainer.trans hd), Queue.toList_pop hp, hs.queue]
      exact (List.perm_append_singleton _ _).symm
    · rw [hs.desk]
      simp only [verdicts, verdict?, List.flatMap_cons, List.flatMap_nil, Option.toList_some,
        List.append_nil]
      rfl
  | begun p queue hd hp =>
    refine .quiet rfl rfl rfl (fun _ => rfl) ?_ rfl rfl rfl
    rw [flight_of_ready hd, Queue.toList_pop hp]
    rfl
  | processed pass hd =>
    refine .leaves rfl rfl rfl (fun f => by cases f <;> rfl) ?_ rfl (.refl _) rfl
    rw [flight_of_delivering hd]
    exact (List.perm_append_singleton _ _).symm
  | retried pass hd _ _ _ _ =>
    have hj := enqueue_joins
      ({ b with drainer := .ready }.count fun c => { c with retried := c.retried + 1 })
      { pass.parcel with message := pass.again }
    exact
      { config := hj.config
        closed := by
          rw [hj.closed]
          exact (Bool.or_false _).symm
        published := hj.published
        fates := fun f => by rw [hj.fates]; cases f <;> rfl
        flight := by
          rw [flight_of_delivering hd, flight_of_ready hj.drainer, List.append_nil]
          exact (List.perm_append_singleton _ _).symm.trans hj.queue
        mint := by rw [hj.mint]; exact .refl _
        fresh := by simp
        once := List.nodup_nil
        desk := by
          rw [hj.desk]
          exact congrArg b.desk.settleAll (verdicts_ousted _ b _)
        index := hj.index }
  | failed pass f hd _ _ hf _ =>
    have hs := settleMessage_atDesk
      ({ b with drainer := .ready }.count fun c => { c with failed := c.failed + 1 })
      pass.again (.handler f)
    refine .leaves hs.config hs.closed (by rw [hs.counters]; rfl)
      (fun f => by rw [hs.counters]; cases f <;> rfl) ?_ hs.mint hs.index ?_
    · rw [flight_of_delivering hd, flight_of_ready hs.drainer, hs.queue]
      exact (List.perm_append_singleton _ _).symm
    · rw [hs.desk]
      simp only [verdicts, verdict?, pass?, hd, hf, List.flatMap_cons, List.flatMap_nil,
        Option.bind_some, Option.map_some, Option.toList_some, List.append_nil]
      rfl
  | skipped pass s rest hd =>
    refine .quiet rfl rfl rfl (fun _ => rfl) ?_ rfl rfl rfl
    rw [flight_of_delivering hd]
    rfl
  | replied pass s rest c hd =>
    have hs := settle_atDesk b c (replyOf pass.parcel.message.payload)
    have ha := accept_effect { pass with rest } s.id (hs.drainer.trans hd) rfl
    have hdesk : b.Effect {} [(c, replyOf pass.parcel.message.payload)] _ := AtDesk.effect hs
    exact hdesk.trans ha
  | passed pass s rest hd => exact accept_effect _ s.id hd rfl
  | invoked pass s rest hd =>
    refine .quiet rfl rfl rfl (fun _ => rfl) ?_ rfl rfl rfl
    rw [flight_of_delivering hd]
    rfl

/-! ## The end of a handler -/

/-- The traffic of a responder's answer. -/
def respondTraffic (b : Bus H) (now : Nat) (m : Message) (answer : Json) : Traffic :=
  match m.replyTo, m.correlation with
  | some replyTo, some c => b.publishTraffic now replyTo answer (replyOptions m c)
  | _, _ => {}

/-- The traffic of the end of a handler. -/
def finishTraffic (b : Bus H) (now : Nat) (ending : Ending) : Traffic :=
  match b.drainer with
  | .delivering pass =>
    match pass.running with
    | none => {}
    | some s =>
      match s.handler, ending with
      | .responder _, .returned v => b.respondTraffic now pass.parcel.message v
      | .responder _, .failed f => b.respondTraffic now pass.parcel.message (envelope f)
      | _, _ => {}
  | _ => {}

/-- What the end of a handler can do. -/
inductive Finishes (b : Bus H) (now : Nat) (ending : Ending) : Traffic → Bus H → Prop
  | idle : b.running? = none → Finishes b now ending {} b
  | rejected (pass s f) : b.drainer = .delivering pass → pass.running = some s →
      faultOf s ending = some f → Finishes b now ending {} (b.reject pass f)
  | accepted (pass s) : b.drainer = .delivering pass → pass.running = some s →
      faultOf s ending = none → Finishes b now ending {} (b.accept pass s.id)
  | answered (pass s answer) : b.drainer = .delivering pass → pass.running = some s →
      faultOf s ending = none →
      Finishes b now ending (b.respondTraffic now pass.parcel.message answer)
        ((b.respond now pass.parcel.message answer).accept pass s.id)

theorem finish_finishes (b : Bus H) (now : Nat) (ending : Ending) :
    b.Finishes now ending (b.finishTraffic now ending) (b.finish now ending) := by
  rcases hd : b.drainer with _ | _ | pass
  · simpa only [finish, finishTraffic, hd] using Finishes.idle (by simp only [running?, hd])
  · simpa only [finish, finishTraffic, hd] using Finishes.idle (by simp only [running?, hd])
  · rcases hrun : pass.running with _ | s
    · simpa only [finish, finishTraffic, hd, hrun] using
        Finishes.idle (by simp only [running?, hd, hrun])
    · rcases hs : s.handler with h | h | c
      · cases ending with
        | returned v =>
          simpa only [finish, finishTraffic, hd, hrun, hs] using
            Finishes.accepted pass s hd hrun rfl
        | failed f =>
          simpa only [finish, finishTraffic, hd, hrun, hs] using
            Finishes.rejected pass s f hd hrun (by simp only [faultOf, hs])
        | broke f =>
          simpa only [finish, finishTraffic, hd, hrun, hs] using
            Finishes.rejected pass s f hd hrun rfl
      · cases ending with
        | returned v =>
          simpa only [finish, finishTraffic, hd, hrun, hs] using
            Finishes.answered pass s v hd hrun rfl
        | failed f =>
          simpa only [finish, finishTraffic, hd, hrun, hs] using
            Finishes.answered pass s (envelope f) hd hrun (by simp only [faultOf, hs])
        | broke f =>
          simpa only [finish, finishTraffic, hd, hrun, hs] using
            Finishes.rejected pass s f hd hrun rfl
      · cases ending with
        | returned v =>
          simpa only [finish, finishTraffic, hd, hrun, hs] using
            Finishes.accepted pass s hd hrun rfl
        | failed f =>
          simpa only [finish, finishTraffic, hd, hrun, hs] using
            Finishes.rejected pass s f hd hrun (by simp only [faultOf, hs])
        | broke f =>
          simpa only [finish, finishTraffic, hd, hrun, hs] using
            Finishes.rejected pass s f hd hrun rfl

/-- An answer is published, or there is nowhere to publish it. -/
theorem respond_cases (b : Bus H) (now : Nat) (m : Message) (answer : Json) :
    b.respondTraffic now m answer = {} ∧ b.respond now m answer = b ∨
      ∃ replyTo c, m.replyTo = some replyTo ∧ m.correlation = some c ∧
        b.respondTraffic now m answer =
          b.publishTraffic now replyTo answer (replyOptions m c) ∧
        b.respond now m answer = (b.publish now replyTo answer (replyOptions m c)).2 := by
  rcases hr : m.replyTo with _ | replyTo
  · exact Or.inl ⟨by simp only [respondTraffic, hr], by simp only [respond, hr]⟩
  · rcases hc : m.correlation with _ | c
    · exact Or.inl ⟨by simp only [respondTraffic, hr, hc], by simp only [respond, hr, hc]⟩
    · exact Or.inr ⟨replyTo, c, rfl, rfl, by simp only [respondTraffic, hr, hc],
        by simp only [respond, hr, hc]⟩

theorem respond_effect (b : Bus H) (now : Nat) (m : Message) (answer : Json) :
    b.Effect (b.respondTraffic now m answer) (b.verdicts (b.respondTraffic now m answer))
      (b.respond now m answer) := by
  rcases b.respond_cases now m answer with ⟨ht, hb⟩ | ⟨replyTo, c, -, -, ht, hb⟩
  · rw [ht, hb]
    exact .refl b
  · rw [ht, hb]
    exact b.publish_effect now replyTo answer _

/-- Publishing does not disturb the delivery under way. -/
theorem publish_pass? (b : Bus H) (now : Nat) (topic : String) (payload : Json)
    (o : PublishOptions) : (b.publish now topic payload o).2.pass? = b.pass? := by
  rcases b.publish_cases now topic payload o with ⟨f, -, h⟩ | ⟨-, h⟩ | ⟨-, h⟩ <;> rw [h]
  · rfl
  · have hj := b.entering.enqueue_joins (.fresh (b.draft b.mint.take.1 topic payload o now))
    have hd : (b.entering.enqueue (.fresh (b.draft b.mint.take.1 topic payload o now))).drainer =
        b.drainer := hj.drainer
    unfold wake
    split
    · next h => simp only [pass?, ← hd, h]
    · simp only [pass?, hd]

theorem pass?_eq_some {b : Bus H} {pass : Pass H} :
    b.pass? = some pass ↔ b.drainer = .delivering pass := by
  unfold pass?
  split <;> simp_all

theorem respond_drainer {b : Bus H} {pass : Pass H} (now : Nat) (m : Message) (answer : Json)
    (hd : b.drainer = .delivering pass) :
    (b.respond now m answer).drainer = .delivering pass := by
  rcases b.respond_cases now m answer with ⟨-, hb⟩ | ⟨replyTo, c, -, -, -, hb⟩
  · rw [hb, hd]
  · rw [hb, ← pass?_eq_some, publish_pass?, pass?_eq_some, hd]

/-- **The end of a handler** lets no message go but one that the answer ousts. -/
theorem Finishes.effect {b b' : Bus H} {now : Nat} {ending : Ending} {t : Traffic}
    (h : b.Finishes now ending t b') : b.Effect t (b.verdicts t) b' := by
  cases h with
  | idle => exact .refl b
  | rejected pass s f hd =>
    refine .quiet rfl rfl rfl (fun _ => rfl) ?_ rfl rfl rfl
    rw [flight_of_delivering hd]
    rfl
  | accepted pass s hd => exact accept_effect _ s.id hd rfl
  | answered pass s answer hd =>
    have hr := b.respond_effect now pass.parcel.message answer
    simpa using hr.trans (accept_effect pass s.id (respond_drainer now _ answer hd) rfl)

end Bus

end Switchboard
