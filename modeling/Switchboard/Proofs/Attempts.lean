import Switchboard.Proofs.Bus.Attempts
import Switchboard.Proofs.Caller.Retrying

/-
  Attempts that are counted in a word — what the width of the counter means.

  A bus counts the failed passes of each message, a caller the attempts of each
  call, and both compare the count with a limit after it has gone up.  As long as
  the limit is less than the largest word, the comparison fails in time; the
  largest word itself is never exceeded.

  * `Caller.run_attempts`: the attempts of a call never exceed its retries;
  * `attempts_counted`: counters do not overflow and passes are bounded where the
    limit is not the largest word;
  * `Stuck` is a bus whose only message comes back after every pass, and
    `attempts_overflow` a run in which its counter overflows.
-/

namespace Switchboard

variable {H : Type}

/-! ## Calls -/

namespace Caller

theorem Goes.within {c : Caller} {b b' : Bus H} {now draw : Nat} {call call' : Call}
    {ds : List Deed} {outcome : CallStep} (h : Goes c b now draw call ds outcome b')
    (hwithin : call.attempts ≤ call.maxRetries)
    (hcall : outcome.standing call = .underWay call') :
    call'.attempts ≤ call'.maxRetries ∧ call'.maxRetries = call.maxRetries := by
  have htakes {reply : Reply} {ds : List Deed} (h : Takes c.config now draw call reply ds outcome) :
      call'.attempts ≤ call'.maxRetries ∧ call'.maxRetries = call.maxRetries := by
    cases h with
    | succeeded v => cases hcall
    | failed fault f => cases hcall
    | retried fault ms hretry =>
      cases hcall
      simp only [retries, Bool.and_eq_true, decide_eq_true_eq] at hretry
      exact ⟨hretry.2, rfl⟩
  cases h with
  | waits => cases hcall; exact ⟨hwithin, rfl⟩
  | rests => cases hcall; exact ⟨hwithin, rfl⟩
  | refused => cases hcall
  | asks => cases hcall; exact ⟨hwithin, rfl⟩
  | barred _ _ _ _ _ _ _ h => exact htakes h
  | hears _ _ _ _ _ _ _ h => exact htakes h

/-- **The attempts of a call are within its retries** at any time. -/
theorem run_attempts (config : CallerConfig) (bus : Bus H) (acts : List (Act H)) :
    ∀ f ∈ ((Session.start config bus).run acts).stories, ∀ call, f.standing = .underWay call →
      call.attempts ≤ call.maxRetries ∧ call.maxRetries = f.opened.maxRetries := by
  refine Session.story_induction ?_ ?_ ?_ bus acts
  · rintro call hattempts - call' hcall
    cases hcall
    exact ⟨by rw [hattempts]; exact UInt32.zero_le, rfl⟩
  · intro f call c b b' now draw ds outcome _ hstanding hf hgoes call' hcall
    obtain ⟨hwithin, hretries⟩ := hf call hstanding
    obtain ⟨hwithin', hsame⟩ := hgoes.within hwithin hcall
    exact ⟨hwithin', hsame.trans hretries⟩
  · rintro f call - - call' hcall
    cases hcall

/-- A call makes at most one request more than it has retries. -/
theorem Story.Lawful.sends_le {config : CallerConfig} {f : Story} (h : f.Lawful config) :
    f.deeds.countP Deed.isSend ≤ f.retries + 1 := by
  obtain ⟨w, -, hprefix, -⟩ := h.policy
  obtain ⟨result, hcomplete⟩ := script_complete f.opened.topic w f.retries 0
  exact hprefix.countP_le.trans hcomplete.bounded

end Caller

/-! ## The law -/

open Bus.Session (arrived servings)

/-- **Attempts are counted.**  In every run of a bus, a message is served at most
    once more than it may be retried, and its counter goes up by one with every
    failed pass, if its limit is less than the largest word.  In every run of a
    caller, the same is true of the requests and the counter of a call.  In any
    case the counters are within their limits, so they overflow nowhere but from
    the largest word, where that is the limit. -/
theorem attempts_counted (config : BusConfig) (hosted : Bool) (acts : List (Bus.Act H))
    (calling : CallerConfig) (bus : Bus H) (moves : List (Caller.Act H)) :
    let s := (Bus.Session.start config hosted).run acts
    let log := (Bus.Session.start config hosted).trace acts
    (∀ m ∈ arrived log, m.maxRetries.toNat < UInt32.size - 1 →
      servings log m.id ≤ m.maxRetries.toNat + 1) ∧
    (∀ pass, s.bus.pass? = some pass →
      pass.again.attempts.toNat = pass.parcel.message.attempts.toNat + 1 ∨
        pass.parcel.message.attempts.toNat = UInt32.size - 1 ∧
          pass.parcel.message.maxRetries.toNat = UInt32.size - 1) ∧
    ∀ f ∈ ((Caller.Session.start calling bus).run moves).stories,
      (f.retries < UInt32.size - 1 → f.deeds.countP Caller.Deed.isSend ≤ f.retries + 1) ∧
      ∀ call, f.standing = .underWay call →
        (call.attempts + 1).toNat = call.attempts.toNat + 1 ∨
          call.attempts.toNat = UInt32.size - 1 ∧ f.retries = UInt32.size - 1 := by
  intro s log
  refine ⟨fun m hm hlimited => ?_, fun pass hpass => ?_,
    fun f hf => ⟨fun hretries => ?_, fun call hcall => ?_⟩⟩
  · exact Bus.Session.servings_le config hosted acts hm hlimited
  · have hwithin := (Bus.Session.run_within config hosted acts).underway pass hpass
    exact (count_succ hwithin).imp_right fun h => ⟨h.1, h.2.1⟩
  · exact (Caller.run_lawful calling bus moves f hf hretries).sends_le
  · obtain ⟨hwithin, hretries⟩ := Caller.run_attempts calling bus moves f hf call hcall
    rw [Caller.Story.retries, ← hretries]
    exact (count_succ hwithin).imp_right fun h => ⟨h.1, h.2.1⟩

/-- A pass in which the one handler fails. -/
def Bus.Session.failing : List (Bus.Act Unit) :=
  [.turn, .turn, .finish (.failed (.plain "no")), .turn]

open Bus.Session (start failing)

/-- A message that may be retried once, and fails twice. -/
def failsTwice : List (Bus.Act Unit) :=
  [.subscribe "t" () {}, .publish "t" .null { maxRetries := some 1 }] ++ failing ++ failing

/-- It is served twice, and its counter goes up from one to two in the second pass.
    Likewise for a call that may be retried once. -/
theorem attempts_counted_twice :
    (∃ m ∈ arrived ((start {} true).trace failsTwice),
      servings ((start {} true).trace failsTwice) m.id = 2 ∧
      servings ((start {} true).trace failsTwice) m.id ≤ m.maxRetries.toNat + 1) ∧
    (∃ pass, ((start {} true).run (failsTwice.take 7)).bus.pass? = some pass ∧
      pass.parcel.message.attempts = 1 ∧ pass.again.attempts.toNat = 1 + 1) ∧
    (∃ f ∈ (Caller.waryRun Caller.refused).stories,
      f.deeds.countP Caller.Deed.isSend = 2 ∧
      f.deeds.countP Caller.Deed.isSend ≤ f.retries + 1) ∧
    ∃ f ∈ (Caller.waryRun Caller.unserved).stories, ∃ call, f.standing = .underWay call ∧
      call.attempts = 1 ∧ (call.attempts + 1).toNat = 1 + 1 := by
  obtain ⟨hserved, -, hsends⟩ :=
    attempts_counted {} true failsTwice Caller.wary (.create {} true) Caller.refused
  obtain ⟨-, hpasses, hcalls⟩ :=
    attempts_counted {} true (failsTwice.take 7) Caller.wary (.create {} true) Caller.unserved
  obtain ⟨m, hm, hretries, hservings⟩ : ∃ m ∈ arrived ((start {} true).trace failsTwice),
      m.maxRetries = 1 ∧ servings ((start {} true).trace failsTwice) m.id = 2 :=
    ⟨_, List.mem_of_getElem? (i := 0) rfl, rfl, rfl⟩
  obtain ⟨pass, hpass, hfirst, hlimit⟩ : ∃ pass,
      ((start {} true).run (failsTwice.take 7)).bus.pass? = some pass ∧
      pass.parcel.message.attempts = 1 ∧ pass.parcel.message.maxRetries = 1 :=
    ⟨_, rfl, rfl, rfl⟩
  obtain ⟨f, hf, hsent, hf₁⟩ : ∃ f ∈ (Caller.waryRun Caller.refused).stories,
      f.deeds.countP Caller.Deed.isSend = 2 ∧ f.retries = 1 :=
    ⟨_, List.mem_of_getElem? (i := 0) rfl, rfl, rfl⟩
  obtain ⟨f', hf', call, hcall, hattempts, hf'₁⟩ : ∃ f ∈ (Caller.waryRun Caller.unserved).stories,
      ∃ call, f.standing = .underWay call ∧ call.attempts = 1 ∧ f.retries = 1 :=
    ⟨_, List.mem_of_getElem? (i := 0) rfl, _, rfl, rfl, rfl⟩
  refine ⟨⟨m, hm, hservings, ?_⟩, ⟨pass, hpass, hfirst, ?_⟩, ⟨f, hf, hsent, ?_⟩,
    f', hf', call, hcall, hattempts, ?_⟩
  · exact hserved m hm (by rw [hretries]; decide)
  · rcases hpasses pass hpass with h | ⟨-, h⟩
    · rw [h, hfirst]
      rfl
    · rw [hlimit] at h
      cases h
  · exact (hsends f hf).1 (by rw [hf₁]; decide)
  · rcases (hcalls f' hf').2 call hcall with h | ⟨-, h⟩
    · rw [h, hattempts]
      rfl
    · rw [hf'₁] at h
      cases h

/-! ## A limit that is never exceeded -/

namespace Bus

theorem enqueue_of_join {b : Bus H} {p : Parcel} {queue : Queue}
    (h : b.queue.join b.config.maxQueueDepth p = (none, queue)) :
    b.enqueue p = { b with queue } := by
  unfold enqueue
  rw [h]

theorem turn_of_spent {b : Bus H} {pass : Pass H} {now : Nat} (hd : b.drainer = .delivering pass)
    (hrunning : pass.running = none) (hrest : pass.rest = []) :
    (b.turn now).1 = b.endPass pass := by
  simp only [turn, hd, hrunning, hrest]

theorem endPass_of_canRetry {b : Bus H} {pass : Pass H} {f : HandlerFault}
    (hf : pass.failure = some f) (hcan : pass.again.canRetry = true) :
    b.endPass pass =
      ({ b with drainer := .ready }.count fun c => { c with retried := c.retried + 1 }).enqueue
        { pass.parcel with message := pass.again } := by
  unfold endPass
  rw [hf]
  exact if_pos hcan

namespace Session

/-- Somebody listens, and a message is published that may be retried as often as
    can be said. -/
def stubborn : List (Act Unit) :=
  [.subscribe "t" () {}, .publish "t" .null { maxRetries := some 4294967295 }]

/-- The drainer is about to take the only message `m`, after `k` failed passes, to
    the only subscription. -/
structure Stuck (m : Message) (sub : Subscription (Listener Unit)) (k : Nat) (s : Session Unit) :
    Prop where
  ready : s.bus.drainer = .ready
  queue : s.bus.queue = { normal := [⟨{ m with attempts := UInt32.ofNat k }, []⟩] }
  found : s.bus.index.matching m.topic = [sub]
  subscriber : sub.handler = .subscriber ()
  unbounded : s.bus.config.maxQueueDepth = 10000
  priority : m.priority = .normal
  unexpired : m.expiresAt = none
  limit : m.maxRetries = 4294967295

variable {m : Message} {sub : Subscription (Listener Unit)} {k : Nat} {s : Session Unit}

/-- The pass over the only message. -/
def stuckPass (m : Message) (k : Nat) (rest : List (Subscription (Listener Unit)))
    (running : Option (Subscription (Listener Unit))) (failure : Option HandlerFault) : Pass Unit :=
  ⟨⟨{ m with attempts := UInt32.ofNat k }, []⟩, rest, running, failure⟩

theorem stuckPass_canRetry {rest : List (Subscription (Listener Unit))}
    {running : Option (Subscription (Listener Unit))} {failure : Option HandlerFault}
    (h : m.maxRetries = 4294967295) : (stuckPass m k rest running failure).again.canRetry = true := by
  have hle : (UInt32.ofNat k + 1).toNat ≤ 4294967295 :=
    Nat.le_of_lt_succ (UInt32.ofNat k + 1).toNat_lt_size
  simpa [Message.canRetry, Pass.again, stuckPass, h, UInt32.le_iff_toNat_le] using hle

namespace Stuck

theorem begun (h : Stuck m sub k s) : (s.step .turn).bus =
    { s.bus with queue := {}, drainer := .delivering (stuckPass m k [sub] none none) } := by
  rw [step_turn_bus]
  simp [turn, h.ready, h.queue, Queue.pop?, receive, Message.isExpiredAt, h.unexpired, h.found,
    stuckPass]

theorem invoked (h : Stuck m sub k s) : (s.run [.turn, .turn]).bus =
    { s.bus with queue := {}, drainer := .delivering (stuckPass m k [] (some sub) none) } := by
  simp only [run_cons, run_nil]
  rw [step_turn_bus, h.begun]
  simp [turn, stuckPass, deliver, h.subscriber]

/-- The acts of a failing pass before its end. -/
theorem rejected (h : Stuck m sub k s) :
    (s.run [.turn, .turn, .finish (.failed (.plain "no"))]).bus = { s.bus with
      queue := {}, drainer := .delivering (stuckPass m k [] none (some (.plain "no"))) } := by
  have hlast : (s.run [.turn, .turn, .finish (.failed (.plain "no"))]).bus =
      (s.run [.turn, .turn]).bus.finish (s.run [.turn, .turn]).now (.failed (.plain "no")) := rfl
  rw [hlast, h.invoked]
  simp [finish, stuckPass, h.subscriber, reject]

/-- The message goes back to its line, which is empty. -/
theorem put_back (h : Stuck m sub k s) : (s.run failing).bus = { s.bus with
    queue := { normal := [⟨(stuckPass m k [] none (some (.plain "no"))).again, []⟩] }
    counters := { s.bus.counters with retried := s.bus.counters.retried + 1 } } := by
  let spent := stuckPass m k [] none (some (.plain "no"))
  let b := ({ s.bus with queue := {}, drainer := .ready } : Bus Unit).count fun c =>
    { c with retried := c.retried + 1 }
  have hjoin : b.queue.join b.config.maxQueueDepth ⟨spent.again, []⟩ =
      (none, { normal := [⟨spent.again, []⟩] }) := by
    simp [b, count, Queue.join, Queue.push, Queue.size, Pass.again, spent, stuckPass, h.priority,
      h.unbounded]
  have hdrainer : (s.run [.turn, .turn, .finish (.failed (.plain "no"))]).bus.drainer =
      .delivering spent := by rw [h.rejected]
  have hready : b.drainer = s.bus.drainer := h.ready.symm
  have hlast : (s.run failing).bus =
      ((s.run [.turn, .turn, .finish (.failed (.plain "no"))]).step .turn).bus := rfl
  rw [hlast, step_turn_bus, turn_of_spent hdrainer rfl rfl, h.rejected,
    endPass_of_canRetry rfl (stuckPass_canRetry h.limit)]
  change b.enqueue ⟨spent.again, []⟩ = _
  rw [enqueue_of_join hjoin, hready]
  rfl

/-- **The only message comes back after every pass.** -/
theorem again (h : Stuck m sub k s) : Stuck m sub (k + 1) (s.run failing) := by
  have hbus := h.put_back
  have hattempts : UInt32.ofNat (k + 1) = UInt32.ofNat k + 1 := by
    rw [UInt32.ofNat_add]
    rfl
  constructor
  case queue =>
    rw [hbus, hattempts]
    rfl
  case ready =>
    rw [hbus]
    exact h.ready
  case found =>
    rw [hbus]
    exact h.found
  case unbounded =>
    rw [hbus]
    exact h.unbounded
  case subscriber => exact h.subscriber
  case priority => exact h.priority
  case unexpired => exact h.unexpired
  case limit => exact h.limit

/-- Every pass serves the message. -/
theorem served (h : Stuck m sub k s) : 1 ≤ servings (s.trace failing) m.id := by
  have hp : s.bus.queue.pop? = some (⟨{ m with attempts := UInt32.ofNat k }, []⟩, {}) := by
    rw [h.queue]
    rfl
  have hflow : (s.flow .turn).served = [⟨{ m with attempts := UInt32.ofNat k }, []⟩] :=
    congrArg Flow.served (turnFlow_served h.ready hp)
  have hlog : s.trace failing =
      (s, .turn) :: (s.step .turn).trace [.turn, .finish (.failed (.plain "no")), .turn] := rfl
  rw [servings, hlog, flowed, List.flatMap_cons, List.countP_append, hflow, List.countP_singleton]
  simp

/-- Of passes that fail one after the other. -/
theorem rounds (h : Stuck m sub k s) (n : Nat) :
    Stuck m sub (k + n) (s.run (List.replicate n failing).flatten) ∧
      n ≤ servings (s.trace (List.replicate n failing).flatten) m.id := by
  induction n with
  | zero => exact ⟨h, Nat.zero_le _⟩
  | succ n ih =>
    obtain ⟨hstuck, hservings⟩ := ih
    rw [List.replicate_succ', List.flatten_append, List.flatten_singleton, run_append, trace_append]
    refine ⟨hstuck.again, ?_⟩
    have hone := hstuck.served
    unfold servings at hservings hone ⊢
    rw [flowed_append, List.countP_append]
    exact Nat.add_le_add hservings hone

/-- Every pass sends the message back. -/
theorem sent_back (h : Stuck m sub k s) : ∃ x ∈ s.trace failing, ∃ pass,
    SendsBack x.1 x.2 pass ∧ pass.parcel.message = { m with attempts := UInt32.ofNat k } := by
  have hbus := h.rejected
  refine ⟨(s.run [.turn, .turn, .finish (.failed (.plain "no"))], .turn), ?_, ?_⟩
  · exact List.mem_of_getElem? (i := 3) rfl
  rcases turn_posts (s.run [.turn, .turn, .finish (.failed (.plain "no"))]) with ⟨hnone, -⟩ |
    ⟨pass, hback⟩
  · rw [Session.sentBack?, hbus] at hnone
    cases (if_pos (stuckPass_canRetry h.limit)).symm.trans hnone
  · refine ⟨pass, hback, ?_⟩
    have hdrainer := hback.drainer
    rw [hbus] at hdrainer
    cases hdrainer
    rfl

/-- **The largest limit is never exceeded.** -/
theorem overflows (h : Stuck m sub 0 s) {n : Nat} (hn : n + 1 = UInt32.size) :
    let log := s.trace (List.replicate (n + 2) failing).flatten
    n + 2 ≤ servings log m.id ∧ ∃ x ∈ log, ∃ pass, SendsBack x.1 x.2 pass ∧
      pass.parcel.message.attempts.toNat = UInt32.size - 1 ∧ pass.again.attempts = 0 := by
  refine ⟨(h.rounds (n + 2)).2, ?_⟩
  obtain ⟨x, hx, pass, hback, hmessage⟩ := (h.rounds n).1.sent_back
  have hcount : (UInt32.ofNat n).toNat = UInt32.size - 1 := by
    rw [UInt32.toNat_ofNat_of_lt' (hn ▸ Nat.lt_succ_self n), ← hn, Nat.add_sub_cancel]
  have hsplit : (List.replicate (n + 2) failing).flatten =
      (List.replicate n failing).flatten ++ (failing ++ failing) := by
    rw [List.replicate_add, List.flatten_append]
    rfl
  refine ⟨x, ?_, pass, hback, ?_, ?_⟩
  · rw [hsplit, trace_append, trace_append]
    exact List.mem_append_right _ (List.mem_append_left _ (by simpa using hx))
  · rw [hmessage]
    simpa using hcount
  · have hattempts : pass.again.attempts = UInt32.ofNat n + 1 := by
      rw [Pass.again, hmessage, Nat.zero_add]
    rw [hattempts, ← UInt32.toNat_inj, UInt32.toNat_add, hcount]
    rfl

end Stuck

theorem stuck_stubborn : ∃ m ∈ arrived ((start {} true).trace stubborn), ∃ sub,
    Stuck m sub 0 ((start {} true).run stubborn) :=
  ⟨_, List.mem_of_getElem? (i := 0) rfl, _, rfl, rfl, rfl, rfl, rfl, rfl, rfl, rfl⟩

/-- The counter of that message goes back to zero, and it is served once more than
    it may be retried, and once more again. -/
theorem attempts_overflow :
    let log := (start {} true).trace (stubborn ++ (List.replicate 4294967297 failing).flatten)
    (∃ m ∈ arrived log, m.maxRetries.toNat + 1 < servings log m.id) ∧
    ∃ x ∈ log, ∃ pass, SendsBack x.1 x.2 pass ∧
      pass.parcel.message.attempts.toNat = UInt32.size - 1 ∧ pass.again.attempts = 0 := by
  intro log
  obtain ⟨m, hm, sub, hstuck⟩ := stuck_stubborn
  obtain ⟨hservings, x, hx, hoverflow⟩ := hstuck.overflows (n := 4294967295) rfl
  have hlog : log = (start {} true).trace stubborn ++
      ((start {} true).run stubborn).trace (List.replicate 4294967297 failing).flatten :=
    trace_append ..
  refine ⟨⟨m, ?_, ?_⟩, x, ?_, hoverflow⟩
  · rw [hlog, arrived, List.flatMap_append]
    exact List.mem_append_left _ hm
  · rw [hlog, servings, flowed_append, List.countP_append, hstuck.limit]
    exact Nat.lt_of_lt_of_le (Nat.lt_succ_self _) (hservings.trans (Nat.le_add_left ..))
  · rw [hlog]
    exact List.mem_append_right _ hx

end Session

end Bus

end Switchboard
