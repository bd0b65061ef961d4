import Switchboard.Proofs.Bus.Passage

/-
  Effort — the work on a message comes to an end.

  * `effort` is the number of acts of the drainer, and of the handlers it runs,
    that were spent on a message;
  * `Pass.work` is what is left to do in a pass, and `Goes.work` says that the
    pass comes nearer to its end with every act that is spent on it;
  * `taken`: what becomes of a message that is taken from the queue;
  * `run_paced` bounds the effort by the number of passes;
  * `run_awake`: the drainer does not sleep while messages wait.
-/

namespace Switchboard

variable {H : Type}

/-- How many acts are left in a pass: two for each subscription whose turn is
    still to come, one for the handler that is running, and the end. -/
def Pass.work (pass : Pass H) : Nat :=
  2 * pass.rest.length + pass.running.toList.length + 1

namespace Bus

/-! ## The drainer is at work -/

/-- The drainer sleeps only where nothing waits. -/
def Awake (b : Bus H) : Prop := b.drainer = .idle → b.queue.toList = []

section Sleep

variable {b b' : Bus H}

theorem Posts.awake (h : b.Posts [] b') (hd : b'.drainer = b.drainer) (ha : b.Awake) :
    b'.Awake := by
  intro hidle
  rw [List.eq_nil_iff_forall_not_mem]
  intro p hp
  rcases h.queue p hp with hp | ⟨m, hm, -⟩
  · rw [ha (hd ▸ hidle)] at hp
    cases hp
  · cases hm

theorem awake_of_delivering {pass : Pass H} (hd : b.drainer = .delivering pass) : b.Awake := by
  intro hidle
  rw [hd] at hidle
  cases hidle

theorem awake_of_ready (hd : b.drainer = .ready) : b.Awake := by
  intro hidle
  rw [hd] at hidle
  cases hidle

theorem wake_awake (b : Bus H) : b.wake.Awake := by
  unfold wake
  split
  · exact awake_of_ready rfl
  · next hidle => exact fun h => absurd h hidle

theorem publish_awake (ha : b.Awake) (now : Nat) (topic : String) (payload : Json)
    (o : PublishOptions) : (b.publish now topic payload o).2.Awake := by
  rcases b.publish_cases now topic payload o with ⟨f, -, h⟩ | ⟨-, h⟩ | ⟨-, h⟩ <;> rw [h]
  · exact ha
  · exact ha
  · exact wake_awake _

theorem Opens.awake {now : Nat} {topic : String} {payload : Json} {o : RequestOptions} {t : Traffic}
    {r : Except BusFault Ticket} (h : b.Opens now topic payload o t r b') (ha : b.Awake) :
    b'.Awake := by
  cases h with
  | refused => exact ha
  | unpublished pattern =>
    have hclose := close_atDesk (b.asking now topic pattern) b.mint.take.1
    exact hclose.posts.awake hclose.drainer ha
  | opened pattern => exact publish_awake (b := b.asking now topic pattern) ha _ _ _ _

theorem Turns.awake {now : Nat} {t : Traffic} {os : List (String × Reply)}
    (h : b.Turns now t os b') (ha : b.Awake) : b'.Awake := by
  cases h with
  | idle => exact ha
  | busy _ _ hd => exact awake_of_delivering hd
  | rested hd hnone => exact fun _ => Queue.toList_eq_nil hnone
  | expired _ _ hd => exact awake_of_ready hd
  | unheard _ _ _ hd => exact awake_of_ready ((settleMessage_atDesk _ _ _).drainer.trans hd)
  | begun => exact awake_of_delivering rfl
  | processed => exact awake_of_ready rfl
  | retried => exact awake_of_ready (enqueue_joins _ _).drainer
  | failed => exact awake_of_ready (settleMessage_atDesk _ _ _).drainer
  | skipped => exact awake_of_delivering rfl
  | replied => exact awake_of_delivering rfl
  | passed => exact awake_of_delivering rfl
  | invoked => exact awake_of_delivering rfl

theorem Finishes.awake {now : Nat} {ending : Ending} {t : Traffic}
    (h : b.Finishes now ending t b') (ha : b.Awake) : b'.Awake := by
  cases h with
  | idle => exact ha
  | rejected => exact awake_of_delivering rfl
  | accepted => exact awake_of_delivering rfl
  | answered => exact awake_of_delivering rfl

end Sleep

namespace Session

theorem step_awake {s : Session H} (ha : s.bus.Awake) (a : Act H) : (s.step a).bus.Awake := by
  have hdesk {b : Bus H} {d : Desk} (h : s.bus.AtDesk d b) : b.Awake := h.posts.awake h.drainer ha
  have hsubscribes {b : Bus H} {listener : Listener H} (h : s.bus.Subscribes listener b) :
      b.Awake := h.posts.awake h.drainer ha
  cases a with
  | subscribe topic handler metadata => exact hsubscribes (s.bus.subscribe_subscribes ..)
  | subscribePattern pattern handler metadata =>
    exact hsubscribes (s.bus.subscribePattern_subscribes ..)
  | serve topic handler metadata => exact hsubscribes (s.bus.subscribe_subscribes ..)
  | unsubscribe id => exact hdesk (s.bus.unsubscribe_atDesk id)
  | unsubscribePlugin plugin => exact hdesk (s.bus.unsubscribePlugin_atDesk plugin)
  | publish topic payload o => exact publish_awake ha _ _ _ _
  | request topic payload o =>
    rw [step_request_bus]
    exact (s.bus.openRequest_opens ..).awake ha
  | attend n =>
    rcases hn : s.calls.waiting.lookup n with _ | t
    · simpa only [step, hn] using ha
    · have h := (s.bus.attend_posts s.now t).awake (s.bus.attend_drainer s.now t) ha
      rcases ht : s.bus.attend s.now t with ⟨_ | r, b⟩ <;> rw [ht] at h <;>
        simpa only [step, hn, ht] using h
  | drop n =>
    rcases hn : s.calls.waiting.lookup n with _ | t
    · simpa only [step, hn] using ha
    · simpa only [step, hn] using hdesk (s.bus.close_atDesk t.correlation)
  | sweep maxAge =>
    exact (s.bus.sweepStale_posts s.now maxAge).awake (s.bus.sweepStale_drainer s.now maxAge) ha
  | shutdown =>
    have hentered : s.bus.shutdownTraffic.entered = [] := by
      unfold shutdownTraffic
      split <;> rfl
    exact (hentered ▸ s.bus.shutdown_posts).awake s.bus.shutdown_drainer ha
  | turn =>
    rw [step_turn_bus]
    exact (s.bus.turn_turns s.now).awake ha
  | finish ending => exact (s.bus.finish_finishes s.now ending).awake ha
  | wait ms => exact ha
  | host present => exact ha

/-- **The drainer does not sleep** while a message is in flight. -/
theorem run_awake (config : BusConfig) (hosted : Bool) (acts : List (Act H))
    (h : ((start config hosted).run acts).bus.flight ≠ []) :
    ((start config hosted).run acts).bus.drainer ≠ .idle := by
  have hawake : ((start config hosted).run acts).bus.Awake :=
    run_induction (P := fun _ s => s.bus.Awake) (fun _ => rfl) (fun _ a ha => step_awake ha a) acts
  intro hidle
  rw [flight, pass?, hidle, hawake hidle] at h
  exact h rfl

/-! ## The effort spent on a message -/

/-- The number of acts that were spent on the message with an id. -/
def effort (log : List (Session H × Act H)) (i : String) : Nat :=
  (log.filterMap fun x => x.1.spentOn? x.2).count i

section Efforts

variable {i : String} {log : List (Session H × Act H)} {s : Session H} {a : Act H}

theorem effort_concat (log : List (Session H × Act H)) (s : Session H) (a : Act H) (i : String) :
    effort (log ++ [(s, a)]) i = effort log i + if s.spentOn? a = some i then 1 else 0 := by
  simp only [effort, List.filterMap_append, List.count_append]
  exact congrArg _ (List.count_filterMap_singleton _ (s, a) i)

theorem effort_le (log : List (Session H × Act H)) (s : Session H) (a : Act H) (i : String) :
    effort (log ++ [(s, a)]) i ≤ effort log i + 1 := by
  rw [effort_concat]
  split <;> omega

theorem effort_of_not_spent (h : s.spentOn? a ≠ some i) :
    effort (log ++ [(s, a)]) i = effort log i := by
  rw [effort_concat, if_neg h, Nat.add_zero]

/-- An act is spent on the message that is being delivered, or on the one that is
    served. -/
theorem spentOn_cases (h : s.spentOn? a = some i) :
    (∃ pass, s.bus.pass? = some pass ∧ pass.parcel.message.id = i) ∨
      a = .turn ∧ s.bus.drainer = .ready ∧
        ∃ p queue, s.bus.queue.pop? = some (p, queue) ∧ p.message.id = i := by
  cases a with
  | turn =>
    simp only [spentOn?] at h
    split at h
    · cases h
    · next hd =>
      obtain ⟨⟨p, queue⟩, hpop, hid⟩ := Option.map_eq_some_iff.1 h
      exact Or.inr ⟨rfl, hd, p, queue, hpop, hid⟩
    · next pass hd =>
      split at h
      · exact Or.inl ⟨pass, pass?_eq_some.2 hd, Option.some.inj h⟩
      · cases h
  | finish ending =>
    simp only [spentOn?] at h
    split at h
    · next pass hd =>
      obtain ⟨sub, -, hid⟩ := Option.map_eq_some_iff.1 h
      exact Or.inl ⟨pass, pass?_eq_some.2 hd, hid⟩
    · cases h
  | _ => cases h

/-- Acts are spent on what is in flight. -/
theorem flight_of_spentOn (h : s.spentOn? a = some i) : ∃ m ∈ s.bus.flight, m.id = i := by
  rcases spentOn_cases h with ⟨pass, hpass, hid⟩ | ⟨-, -, p, queue, hpop, hid⟩
  · exact ⟨pass.parcel.stamp, mem_flight_of_pass hpass, hid⟩
  · exact ⟨p.stamp, mem_flight_of_queue (Queue.toList_pop hpop ▸ List.mem_cons_self), hid⟩

/-- A pass comes nearer to its end. -/
theorem Goes.work {t t' : Tally} {pass pass' : Pass H} (h : Goes t pass t' pass') :
    pass'.work < pass.work := by
  cases h with
  | skipped sub rest hrun hrest => simp [Pass.work, hrun, hrest]
  | passed sub rest hrun hrest => simp [Pass.work, hrun, hrest]
  | invoked sub rest hrun hrest => simp [Pass.work, hrun, hrest]; omega
  | accepted sub hrun => simp [Pass.work, hrun]
  | rejected sub e hrun => simp [Pass.work, hrun]

/-- What is taken from the queue departs if it has expired or if nobody listens to
    it, and is delivered to those who are found on its topic otherwise. -/
theorem taken {p : Parcel} {queue : Queue} (hd : s.bus.drainer = .ready)
    (hpop : s.bus.queue.pop? = some (p, queue)) :
    p.message.isExpiredAt s.now = true ∧ (s.step .turn).bus.pass? = none ∧
        (.expired, p.stamp) ∈ (s.traffic .turn).left ∨
      p.message.isExpiredAt s.now = false ∧
        ((s.bus.index.matching p.message.topic = [] ∧ (s.step .turn).bus.pass? = none ∧
            (.undeliverable, p.stamp) ∈ (s.traffic .turn).left) ∨
          (s.step .turn).bus.pass? =
            some ⟨p, s.bus.index.matching p.message.topic, none, none⟩) := by
  have hturn := s.bus.turn_turns s.now
  rw [← step_turn_bus] at hturn
  have htraffic : s.traffic .turn = s.bus.turnTraffic s.now := rfl
  generalize s.bus.turnTraffic s.now = t at hturn htraffic
  generalize s.bus.handedOver = os at hturn
  generalize (s.step .turn).bus = b at hturn
  rw [htraffic]
  cases hturn with
  | expired p' queue' _ hpop' hexpired =>
    cases hpop.symm.trans hpop'
    refine Or.inl ⟨hexpired, ?_, List.mem_singleton_self _⟩
    simp [pass?, count, hd]
  | unheard p' queue' counters _ hpop' hfresh hnil =>
    cases hpop.symm.trans hpop'
    refine Or.inr ⟨hfresh, Or.inl ⟨hnil, ?_, List.mem_singleton_self _⟩⟩
    rw [pass?, (settleMessage_atDesk _ _ _).drainer]
    simp [hd]
  | begun p' queue' _ hpop' hfresh =>
    cases hpop.symm.trans hpop'
    exact Or.inr ⟨hfresh, Or.inr rfl⟩
  | rested _ hnone => rw [hnone] at hpop; cases hpop
  | idle hd' => rw [hd'] at hd; cases hd
  | _ =>
    have hd' := ‹s.bus.drainer = .delivering _›
    rw [hd'] at hd
    cases hd

/-- What is served leaves the queue. -/
theorem served {p : Parcel} {queue : Queue} (hd : s.bus.drainer = .ready)
    (hpop : s.bus.queue.pop? = some (p, queue)) :
    (∃ pass, (s.step .turn).bus.pass? = some pass ∧ pass.parcel = p) ∨
      ∃ fate, (fate, p.stamp) ∈ (s.traffic .turn).left := by
  rcases taken hd hpop with ⟨-, -, hleft⟩ | ⟨-, ⟨-, -, hleft⟩ | hbegun⟩
  · exact Or.inr ⟨_, hleft⟩
  · exact Or.inr ⟨_, hleft⟩
  · exact Or.inl ⟨_, hbegun, rfl⟩

/-- No act is spent on what goes on waiting. -/
theorem not_spent_of_waits (hbooks : Books log s) (hbooks' : Books (log ++ [(s, a)]) (s.step a))
    {p : Parcel} (hp : p ∈ s.bus.queue.toList) (hp' : p ∈ (s.step a).bus.queue.toList) :
    s.spentOn? a ≠ some p.message.id := by
  intro h
  rcases spentOn_cases h with ⟨pass, hpass, hid⟩ | ⟨rfl, hd, p₀, queue, hpop, hid⟩
  · exact hbooks.ne_of_queue hpass hp hid
  rcases served hd hpop with ⟨pass, hpass, rfl⟩ | ⟨fate, hleft⟩
  · exact hbooks'.ne_of_queue hpass hp' hid
  · have hfate : fate ∈ fates (log ++ [(s, .turn)]) p.message.id :=
      mem_fates.2 ⟨p₀.stamp, by rw [departed_concat]; exact List.mem_append_right _ hleft, hid⟩
    exact hbooks'.not_flight hfate p.stamp (mem_flight_of_queue hp') rfl

end Efforts

/-! ## The effort that passes take -/

/-- Each pass over a message that is found by `size` subscriptions takes at most
    two acts for each, one to begin and one to end. -/
structure Paced (i : String) (size : Nat) (log : List (Session H × Act H)) (s : Session H) :
    Prop where
  ahead : (∀ m ∈ arrived log, m.id ≠ i) → effort log i = 0
  queued : ∀ p ∈ s.bus.queue.toList, p.message.id = i →
    effort log i ≤ (tally log i).sentBack * (2 * size + 2)
  underway : ∀ pass, s.bus.pass? = some pass → pass.parcel.message.id = i →
    effort log i + pass.work ≤ ((tally log i).sentBack + 1) * (2 * size + 2)
  bounded : effort log i ≤ ((tally log i).sentBack + 1) * (2 * size + 2)

section Paces

variable {i : String} {S : List (Subscription (Listener H))} {f : String → Nat}
  {log : List (Session H × Act H)} {s : Session H} {a : Act H}

theorem Books.not_spent (hbooks : Books log s) (hnew : ∀ m ∈ arrived log, m.id ≠ i) :
    s.spentOn? a ≠ some i := by
  intro h
  obtain ⟨m, hm, hid⟩ := flight_of_spentOn h
  exact hnew m (hbooks.arrived_of_flight hm) hid

theorem Paced.step_queued (h : Paced i S.length log s) (hbooks : Books log s)
    (hbooks' : Books (log ++ [(s, a)]) (s.step a)) {p : Parcel}
    (hp : p ∈ (s.step a).bus.queue.toList) (hid : p.message.id = i) :
    effort (log ++ [(s, a)]) i ≤ (tally (log ++ [(s, a)]) i).sentBack * (2 * S.length + 2) := by
  rcases queued_origin hp with hold | ⟨m, hm, rfl⟩ | ⟨pass, hback, rfl⟩
  · rw [effort_of_not_spent (hid ▸ not_spent_of_waits hbooks hbooks' hold hp),
      hbooks.tally_of_queue hold hid a]
    exact h.queued p hold hid
  · have hnew : ∀ m' ∈ arrived log, m'.id ≠ i := hid ▸ hbooks'.fresh hm
    rw [effort_of_not_spent (hbooks.not_spent hnew), h.ahead hnew]
    exact Nat.zero_le _
  · have hid' : pass.parcel.message.id = i := hid
    have hunderway := h.underway pass (pass?_eq_some.2 hback.drainer) hid'
    have hmore := effort_le log s a i
    have hback' : tally (log ++ [(s, a)]) i = (tally log i).back := hid' ▸ hback.tally log
    rw [hback', Tally.back]
    unfold Pass.work at hunderway
    dsimp only
    omega

theorem Paced.step_underway (h : Paced i S.length log s)
    (hsteady : Steady i S f (log ++ [(s, a)])) {pass' : Pass H}
    (hpass : (s.step a).bus.pass? = some pass') (hid : pass'.parcel.message.id = i) :
    effort (log ++ [(s, a)]) i + pass'.work ≤
      ((tally (log ++ [(s, a)]) i).sentBack + 1) * (2 * S.length + 2) := by
  have hmore := effort_le log s a i
  rcases pass_origin hpass with ⟨pass, hp, hsame⟩ | ⟨rfl, hd, p, queue, hpop, rfl⟩
  · have hid' : pass.parcel.message.id = i := hsame.symm.trans hid
    have hunderway := h.underway pass hp hid'
    have hgoes := (course log hp a).goes_on hpass
    rw [hid'] at hgoes
    rcases hgoes with ⟨rfl, hquiet, hspent⟩ | hg
    · rw [effort_of_not_spent (by simp [hspent]), hquiet]
      exact hunderway
    · have hless := hg.work
      rw [hg.frame.2]
      omega
  · have hqueued := h.queued p (Queue.toList_pop hpop ▸ List.mem_cons_self) hid
    have hquiet : tally (log ++ [(s, .turn)]) i = tally log i :=
      tally_of_not_delivered fun pass hp => by rw [pass?, hd] at hp; cases hp
    have hfound := hsteady.served hd hpop hid
    rw [hquiet, Pass.work, hfound, Nat.add_one_mul (tally log i).sentBack]
    simp only [Option.toList_none, List.length_nil]
    omega

theorem sentBack_le (log : List (Session H × Act H)) (s : Session H) (a : Act H) (i : String) :
    (tally log i).sentBack ≤ (tally (log ++ [(s, a)]) i).sentBack := by
  rw [tally_append]
  exact Nat.le_add_right _ _

theorem Paced.step_bounded (h : Paced i S.length log s) :
    effort (log ++ [(s, a)]) i ≤
      ((tally (log ++ [(s, a)]) i).sentBack + 1) * (2 * S.length + 2) := by
  have hback := Nat.mul_le_mul_right (2 * S.length + 2)
    (Nat.add_le_add_right (sentBack_le log s a i) 1)
  refine Nat.le_trans ?_ hback
  by_cases hspent : s.spentOn? a = some i
  · have hmore := effort_le log s a i
    obtain ⟨m, hm, hid⟩ := flight_of_spentOn hspent
    rcases flight_cases hm with ⟨pass, hpass, rfl⟩ | ⟨p, hp, rfl⟩
    · have hunderway := h.underway pass hpass hid
      unfold Pass.work at hunderway
      omega
    · have hqueued := h.queued p hp hid
      rw [Nat.add_one_mul]
      omega
  · rw [effort_of_not_spent hspent]
    exact h.bounded

theorem run_paced (config : BusConfig) (hosted : Bool) (acts : List (Act H))
    (hsteady : Steady i S f ((start config hosted).trace acts)) :
    Paced i S.length ((start config hosted).trace acts) ((start config hosted).run acts) := by
  induction acts using List.reverseRecOn with
  | nil =>
    exact
      { ahead := fun _ => rfl
        queued := fun p hp => by cases hp
        underway := fun pass hp => by cases hp
        bounded := Nat.zero_le _ }
  | append_singleton acts a ih =>
    have hbooks := run_books config hosted acts
    have hbooks' := run_books config hosted (acts ++ [a])
    rw [run_concat, trace_concat] at hbooks' ⊢
    rw [trace_concat] at hsteady
    have h := ih hsteady.before
    exact
      { ahead := fun hnone => by
          have hnew : ∀ m ∈ arrived _, m.id ≠ i := fun m hm => hnone m (arrived_subset _ _ hm)
          rw [effort_of_not_spent (hbooks.not_spent hnew)]
          exact h.ahead hnew
        queued := fun p hp hid => h.step_queued hbooks hbooks' hp hid
        underway := fun pass hpass hid => h.step_underway hsteady hpass hid
        bounded := h.step_bounded }

end Paces

end Session

end Bus

end Switchboard
