import Switchboard.Proofs.Bus.Calling

/-
  What a bus counts as delivered, and who has accepted what.

  * `succeeded`: the invocations of a run that came out without a failure;
  * `run_delivered`: the bus counts them and nothing else;
  * `accepters` are those that have accepted a message so far, `run_receipted`: its
    parcel knows them, wherever it is.
-/

namespace Switchboard.Bus.Session

variable {H : Type}

/-! ## What is counted -/

/-- The invocations of a run that came out without a failure. -/
def succeeded (log : List (Session H × Act H)) : List (String × String) :=
  log.filterMap fun x => x.1.success? x.2

theorem succeeded_concat (log : List (Session H × Act H)) (s : Session H) (a : Act H) :
    succeeded (log ++ [(s, a)]) = succeeded log ++ (s.success? a).toList := List.filterMap_concat ..

theorem outcome_of_success {s : Session H} {a : Act H} {key : String × String}
    (h : s.success? a = some key) : s.outcome? a = some (key, none) := by
  obtain ⟨⟨key', _ | e⟩, houtcome, heq⟩ := Option.bind_eq_some_iff.1 h
  · rw [houtcome, Option.some.inj heq]
  · cases heq

/-- Whoever accepts a message accepts the one that is delivered. -/
theorem delivered_of_success {s : Session H} {a : Act H} {key : String × String}
    (h : s.success? a = some key) :
    ∃ pass, s.bus.pass? = some pass ∧ pass.parcel.message.id = key.1 :=
  delivered_of_outcome (outcome_of_success h)

/-- Where no delivery is under way, nobody accepts anything. -/
theorem success_of_not_delivered {s : Session H} (hp : s.bus.pass? = none) (a : Act H) :
    s.success? a = none := by
  refine Option.eq_none_iff_forall_ne_some.2 fun key hkey => ?_
  obtain ⟨pass, hpass, -⟩ := delivered_of_success hkey
  rw [hp] at hpass
  cases hpass

/-- A step of the drainer counts an invocation that succeeds at once. -/
theorem turn_delivered (s : Session H) :
    (s.step .turn).bus.counters.delivered =
      s.bus.counters.delivered + (s.success? .turn).toList.length := by
  rcases hp : s.bus.pass? with _ | pass
  · rw [success_of_not_delivered hp, step_turn_bus]
    rcases hd : s.bus.drainer with _ | _ | pass
    · simp only [turn, hd]
      rfl
    · simp only [turn, hd]
      split
      · rfl
      · exact receive_delivered _ _ _
    · rw [pass?_eq_some.2 hd] at hp
      cases hp
  · by_cases hend : pass.running = none ∧ pass.rest = []
    · have hsilent := (silent_of_ended (pass?_eq_some.1 hp) hend.1 hend.2).2
      rw [(closes hp hend.1 hend.2).delivered, success?, hsilent]
      rfl
    · obtain ⟨-, -, -, hdelivered⟩ := turn_proceeds hp (by tauto)
      exact hdelivered

/-- The end of a handler is counted where it has not failed. -/
theorem finish_delivered (s : Session H) (ending : Ending) :
    (s.step (.finish ending)).bus.counters.delivered =
      s.bus.counters.delivered + (s.success? (.finish ending)).toList.length := by
  rcases hp : s.bus.pass? with _ | pass
  · have hsame : (s.step (.finish ending)).bus = s.bus := by
      rcases hd : s.bus.drainer with _ | _ | pass
      · simp [step, finish, hd]
      · simp [step, finish, hd]
      · rw [pass?_eq_some.2 hd] at hp
        cases hp
    rw [success_of_not_delivered hp, hsame]
    rfl
  · obtain ⟨-, -, -, hdelivered⟩ := finish_proceeds hp ending
    exact hdelivered

/-- **One act** is counted as delivered where an invocation comes out in it
    without a failure. -/
theorem step_delivered (s : Session H) (a : Act H) :
    (s.step a).bus.counters.delivered =
      s.bus.counters.delivered + (s.success? a).toList.length := by
  cases a with
  | subscribe topic handler metadata => exact (s.bus.subscribe_subscribes ..).delivered
  | subscribePattern pattern handler metadata =>
    exact (s.bus.subscribePattern_subscribes ..).delivered
  | serve topic handler metadata => exact (s.bus.subscribe_subscribes ..).delivered
  | unsubscribe id => exact (s.bus.unsubscribe_atDesk id).delivered
  | unsubscribePlugin plugin => exact (s.bus.unsubscribePlugin_atDesk plugin).delivered
  | publish topic payload o => exact publish_delivered ..
  | request topic payload o =>
    rw [step_request_bus]
    exact (s.bus.openRequest_opens ..).delivered
  | attend n =>
    rcases hn : s.calls.waiting.lookup n with _ | t
    · simp only [step, hn]
      rfl
    · have h := s.bus.attend_delivered s.now t
      rcases ht : s.bus.attend s.now t with ⟨_ | r, b⟩ <;> rw [ht] at h <;>
        simp only [step, hn, ht] <;> exact h
  | drop n =>
    rcases hn : s.calls.waiting.lookup n with _ | t
    · simp only [step, hn]
      rfl
    · simp only [step, hn]
      exact (s.bus.close_atDesk t.correlation).delivered
  | sweep maxAge => exact s.bus.sweepStale_delivered s.now maxAge
  | shutdown => exact s.bus.shutdown_delivered
  | turn => exact s.turn_delivered
  | finish ending => exact s.finish_delivered ending
  | wait ms => rfl
  | host present => rfl

/-- **What the bus counts as delivered** are the invocations that have come out
    without a failure. -/
theorem run_delivered (s : Session H) (acts : List (Act H)) :
    (s.run acts).bus.counters.delivered =
      s.bus.counters.delivered + (succeeded (s.trace acts)).length := by
  induction acts using List.reverseRecOn with
  | nil => rfl
  | append_singleton acts a ih =>
    rw [run_concat, trace_concat, step_delivered, ih, succeeded_concat, List.length_append]
    omega

/-! ## Who has accepted a message -/

/-- The ids of the subscriptions that have accepted the message with an id. -/
def accepters (log : List (Session H × Act H)) (i : String) : List String :=
  ((succeeded log).filter (·.1 = i)).map (·.2)

section Accepters

variable {log : List (Session H × Act H)} {s : Session H} {a : Act H} {pass pass' : Pass H}
  {i : String}

theorem accepters_concat (log : List (Session H × Act H)) (s : Session H) (a : Act H) (i : String) :
    accepters (log ++ [(s, a)]) i =
      accepters log i ++ ((s.success? a).toList.filter (·.1 = i)).map (·.2) := by
  simp only [accepters, succeeded_concat, List.filter_append, List.map_append]

theorem accepters_of_not_delivered
    (h : ∀ pass, s.bus.pass? = some pass → pass.parcel.message.id ≠ i) :
    accepters (log ++ [(s, a)]) i = accepters log i := by
  rw [accepters_concat]
  rcases hsuccess : s.success? a with _ | key
  · simp
  · obtain ⟨pass, hp, hid⟩ := delivered_of_success hsuccess
    simp [hid ▸ h pass hp]

theorem accepters_of_delivered (hp : s.bus.pass? = some pass) :
    accepters (log ++ [(s, a)]) pass.parcel.message.id =
      accepters log pass.parcel.message.id ++ (s.success? a).toList.map (·.2) := by
  rw [accepters_concat]
  rcases hsuccess : s.success? a with _ | key
  · simp
  · obtain ⟨pass', hp', hid⟩ := delivered_of_success hsuccess
    obtain rfl := Option.some.inj (hp.symm.trans hp')
    simp [hid]

/-- A parcel is told of those who accept it. -/
theorem Proceeds.parcel {c : Option (Subscription (Listener H))}
    (h : Proceeds pass c (s.outcome? a) pass') :
    pass'.parcel = { pass.parcel with
      accepted := pass.parcel.accepted ++ (s.success? a).toList.map (·.2) } := by
  unfold success?
  generalize s.outcome? a = o at h ⊢
  cases h <;> simp [Subscription.key]

/-- Parcels know who has accepted their messages. -/
structure Receipted (log : List (Session H × Act H)) (s : Session H) : Prop where
  queued : ∀ p ∈ s.bus.queue.toList, p.accepted = accepters log p.message.id
  underway : ∀ pass, s.bus.pass? = some pass →
    pass.parcel.accepted = accepters log pass.parcel.message.id
  /-- whatever was accepted had arrived -/
  known : ∀ key ∈ succeeded log, ∃ m ∈ arrived log, m.id = key.1

theorem Receipted.ahead (h : Receipted log s) (hnew : ∀ m ∈ arrived log, m.id ≠ i) :
    accepters log i = [] := by
  rw [accepters, List.map_eq_nil_iff, List.filter_eq_nil_iff]
  intro key hkey
  obtain ⟨m, hm, hid⟩ := h.known key hkey
  simpa [← hid] using hnew m hm

theorem Receipted.step_queued (h : Receipted log s) (hbooks : Books log s)
    (hbooks' : Books (log ++ [(s, a)]) (s.step a)) {p : Parcel}
    (hp : p ∈ (s.step a).bus.queue.toList) :
    p.accepted = accepters (log ++ [(s, a)]) p.message.id := by
  rcases queued_origin hp with hold | ⟨m, hm, rfl⟩ | ⟨pass, hback, rfl⟩
  · rw [accepters_of_not_delivered fun pass hpass => hbooks.ne_of_queue hpass hold]
    exact h.queued p hold
  · have hnew : ∀ m' ∈ arrived log, m'.id ≠ m.id := hbooks'.fresh hm
    have hother : ∀ pass, s.bus.pass? = some pass → pass.parcel.message.id ≠ m.id :=
      fun pass hpass => hnew pass.parcel.stamp (hbooks.arrived_of_flight (mem_flight_of_pass hpass))
    exact ((accepters_of_not_delivered hother).trans (h.ahead hnew)).symm
  · have hpass := pass?_eq_some.2 hback.drainer
    have hsuccess : s.success? a = none := by
      rw [hback.act, success?, (silent_of_ended hback.drainer hback.running hback.rest).2]
      rfl
    have hsame : accepters (log ++ [(s, a)]) pass.parcel.message.id =
        accepters log pass.parcel.message.id := by
      rw [accepters_of_delivered hpass, hsuccess]
      exact List.append_nil _
    exact (h.underway pass hpass).trans hsame.symm

theorem Receipted.step_underway (h : Receipted log s)
    (hpass' : (s.step a).bus.pass? = some pass') :
    pass'.parcel.accepted = accepters (log ++ [(s, a)]) pass'.parcel.message.id := by
  rcases hp : s.bus.pass? with _ | pass
  · obtain ⟨rfl, hd, p, queue, hpop, rfl⟩ := begun_origin hp hpass'
    rw [accepters_of_not_delivered fun pass hpass => by rw [hp] at hpass; cases hpass]
    exact h.queued p (Queue.toList_pop hpop ▸ List.mem_cons_self)
  · rcases step_proceeds hp a with ⟨pass'', hgoes, hproceeds, -⟩ | hcloses
    · obtain rfl := Option.some.inj (hpass'.symm.trans hgoes)
      have hparcel := hproceeds.parcel
      rw [hparcel, accepters_of_delivered hp, h.underway pass hp]
    · rw [hcloses.ended] at hpass'
      cases hpass'

/-- **A parcel knows who has accepted its message**, wherever it is. -/
theorem run_receipted (config : BusConfig) (hosted : Bool) (acts : List (Act H)) :
    Receipted ((start config hosted).trace acts) ((start config hosted).run acts) := by
  induction acts using List.reverseRecOn with
  | nil =>
    exact
      { queued := fun p hp => by cases hp
        underway := fun pass hp => by cases hp
        known := fun key hkey => by cases hkey }
  | append_singleton acts a ih =>
    have hbooks := run_books config hosted acts
    have hbooks' := run_books config hosted (acts ++ [a])
    rw [run_concat, trace_concat] at hbooks' ⊢
    refine ⟨fun p hp => ih.step_queued hbooks hbooks' hp, fun pass hp => ih.step_underway hp, ?_⟩
    intro key hkey
    rw [succeeded_concat] at hkey
    rcases List.mem_append.1 hkey with hkey | hkey
    · obtain ⟨m, hm, hid⟩ := ih.known key hkey
      exact ⟨m, arrived_subset _ _ hm, hid⟩
    · obtain ⟨pass, hp, hid⟩ := delivered_of_success (Option.mem_toList.1 hkey)
      have hm := hbooks.arrived_of_flight (mem_flight_of_pass hp)
      exact ⟨_, arrived_subset _ _ hm, hid⟩

end Accepters

end Switchboard.Bus.Session
