import Switchboard.Proofs.Bus.Order
import Switchboard.Proofs.Index.Figures

/-
  The count of attempts, and the passes that it allows.

  A message carries the number of its failed passes, in a word of 32 bits, and is
  sent back while that number is within its limit.  So the passes that are left to
  the messages on a bus are used up one by one, whoever is evicted meanwhile.

  * `Message.passesLeft` is the number of passes that are left to a message,
    `budget` adds it up over those that are asked about;
  * `Shifts` lists what an act can do to the messages that a bus carries,
    `step_shifts` says that the list is complete;
  * `run_within`: the count of attempts never exceeds the limit;
  * `run_budget`: every message that is served uses up one of the passes left.
-/

namespace Switchboard

variable {H : Type}

/-! ## Counting -/

/-- A count that is within a limit goes up by one, unless both are the largest
    word: then it goes back to zero. -/
theorem count_succ {n r : UInt32} (h : n ≤ r) :
    (n + 1).toNat = n.toNat + 1 ∨
      n.toNat = UInt32.size - 1 ∧ r.toNat = UInt32.size - 1 ∧ n + 1 = 0 := by
  have hle := UInt32.le_iff_toNat_le.1 h
  have hr := r.toNat_lt_size
  have hsize : UInt32.size = 2 ^ 32 := rfl
  by_cases hn : n.toNat = UInt32.size - 1
  · refine Or.inr ⟨hn, by omega, ?_⟩
    rw [← UInt32.toNat_inj, UInt32.toNat_add, hn]
    rfl
  · refine Or.inl ?_
    rw [UInt32.toNat_add]
    exact Nat.mod_eq_of_lt (by simp only [UInt32.toNat_one]; omega)

namespace Message

/-- The count of failed passes is within the limit. -/
def Within (m : Message) : Prop := m.attempts ≤ m.maxRetries

theorem within_of_canRetry {m : Message} (h : m.canRetry = true) : m.Within := by
  simpa [canRetry, Within] using h

/-- The limit is one that the count can exceed. -/
def Limited (m : Message) : Prop := m.maxRetries.toNat < UInt32.size - 1

/-- How many passes are left to a message. -/
def passesLeft (m : Message) : Nat := m.maxRetries.toNat + 1 - m.attempts.toNat

/-- A message after one more failed pass. -/
def retried (m : Message) : Message := { m with attempts := m.attempts + 1 }

theorem passesLeft_retried {m : Message} (hwithin : m.Within) (hlimited : m.Limited) :
    m.retried.passesLeft + 1 = m.passesLeft := by
  have hle := UInt32.le_iff_toNat_le.1 hwithin
  have hsucc : (m.attempts + 1).toNat = m.attempts.toNat + 1 :=
    (count_succ hwithin).resolve_right fun h => Nat.ne_of_lt hlimited h.2.1
  simp only [passesLeft, retried, hsucc]
  omega

end Message

namespace Bus

open Index (addUp addUp_nil addUp_cons addUp_append addUp_perm)

/-! ## What a bus carries -/

/-- The messages that a bus carries: the one being delivered, as it will be sent
    back, and those that wait. -/
def carried (b : Bus H) : List Message :=
  (b.pass?.map (·.again)).toList ++ b.queue.toList.map (·.message)

theorem carried_of_ready {b : Bus H} (h : b.drainer = .ready) :
    b.carried = b.queue.toList.map (·.message) := by simp only [carried, pass?, h]; rfl

theorem carried_of_idle {b : Bus H} (h : b.drainer = .idle) :
    b.carried = b.queue.toList.map (·.message) := by simp only [carried, pass?, h]; rfl

theorem carried_of_delivering {b : Bus H} {pass : Pass H} (h : b.drainer = .delivering pass) :
    b.carried = pass.again :: b.queue.toList.map (·.message) := by
  simp only [carried, pass?, h]; rfl

/-- What joins a queue and what leaves it, the order apart. -/
theorem Flows.perm {bound : Nat} {t : Traffic} {q q' : Queue} {f : Flow}
    (h : Flows bound t q f q') : (q.toList ++ f.joined).Perm (q'.toList ++ f.left) := by
  cases h with
  | quiet => exact List.Perm.refl _
  | joined p => simpa [Flow.left] using q.join_perm bound p
  | served p q' hp =>
    simpa [Flow.left, Queue.toList_pop hp] using (List.perm_append_singleton p q'.toList).symm
  | emptied => simp [Flow.left, Queue.toList]

/-- Only messages that enter join the queue in an act that enters messages. -/
theorem entryFlow_joined (b : Bus H) (now : Nat) (t : Traffic) :
    (b.entryFlow now t).served = [] ∧
      ∃ expired, t.entered.Perm ((b.entryFlow now t).joined.map (·.message) ++ expired) := by
  unfold entryFlow
  split
  · next m hm =>
    split
    · exact ⟨rfl, [m], by rw [hm]; exact List.Perm.refl _⟩
    · exact ⟨rfl, [], by rw [hm]; exact List.Perm.refl _⟩
  · exact ⟨rfl, t.entered, List.Perm.refl _⟩

/-- What an act can do to the messages that a bus carries. -/
inductive Shifts (b : Bus H) (entered : List Message) (served : List Parcel) (b' : Bus H) : Prop
  /-- some enter and some are lost -/
  | kept (lost) : served = [] → (b.carried ++ entered).Perm (b'.carried ++ lost) →
      Shifts b entered served b'
  /-- the one that is served is delivered, or lost -/
  | served (p queue) : b.queue.pop? = some (p, queue) → served = [p] → entered = [] →
      b.carried = p.message :: queue.toList.map (·.message) →
      b'.carried = queue.toList.map (·.message) ∨
        b'.carried = p.message.retried :: queue.toList.map (·.message) →
      Shifts b entered served b'

theorem Shifts.same {b b' : Bus H} (h : b'.carried = b.carried) : Shifts b [] [] b' :=
  .kept [] rfl (by rw [h])

/-- The message of a pass is lost when the pass is over. -/
theorem Shifts.ended {b b' : Bus H} {pass : Pass H} (hd : b.drainer = .delivering pass)
    (hd' : b'.drainer = .ready) (hqueue : b'.queue = b.queue) : Shifts b [] [] b' := by
  refine .kept [pass.again] rfl ?_
  rw [carried_of_delivering hd, carried_of_ready hd', hqueue, List.append_nil]
  exact (List.perm_append_singleton _ _).symm

theorem Shifts.goes {b b' : Bus H} {pass pass' : Pass H} (hd : b.drainer = .delivering pass)
    (hd' : b'.drainer = .delivering pass') (hmessage : pass'.parcel.message = pass.parcel.message)
    (hqueue : b'.queue = b.queue) : Shifts b [] [] b' := by
  refine .same ?_
  rw [carried_of_delivering hd, carried_of_delivering hd', hqueue, Pass.again, Pass.again, hmessage]

theorem Shifts.gone {b b' : Bus H} {p : Parcel} {queue : Queue} (hd : b.drainer = .ready)
    (hp : b.queue.pop? = some (p, queue)) (hd' : b'.drainer = .ready) (hqueue : b'.queue = queue) :
    Shifts b [] [p] b' := by
  refine .served p queue hp rfl rfl ?_ (Or.inl ?_)
  · rw [carried_of_ready hd, Queue.toList_pop hp, List.map_cons]
  · rw [carried_of_ready hd', hqueue]

theorem Turns.shifts {b b' : Bus H} {now : Nat} {t : Traffic} {os : List (String × Reply)}
    (h : b.Turns now t os b') : Shifts b [] b.turnFlow.served b' := by
  have hnone {pass : Pass H} (hd : b.drainer = .delivering pass) : b.turnFlow.served = [] := by
    simp only [turnFlow, hd]
    split
    · split <;> rfl
    · rfl
  cases h with
  | idle hd =>
    have hserved : b.turnFlow.served = [] := by simp [turnFlow, hd]
    rw [hserved]
    exact .same rfl
  | rested hd hp =>
    have hserved : b.turnFlow.served = [] := by simp [turnFlow, hd, hp]
    rw [hserved]
    exact .same ((carried_of_idle rfl).trans (carried_of_ready hd).symm)
  | expired p queue hd hp =>
    rw [turnFlow_served hd hp]
    exact .gone hd hp hd rfl
  | unheard p queue counters hd hp =>
    rw [turnFlow_served hd hp]
    have hs := settleMessage_atDesk { b with queue, counters } p.message
      (.noSubscriber p.message.topic)
    exact .gone hd hp (hs.drainer.trans hd) hs.queue
  | begun p queue hd hp =>
    rw [turnFlow_served hd hp]
    refine .served p queue hp rfl rfl ?_ (Or.inr ?_)
    · rw [carried_of_ready hd, Queue.toList_pop hp, List.map_cons]
    · rw [carried_of_delivering rfl]
      rfl
  | busy pass s hd =>
    rw [hnone hd]
    exact .same rfl
  | processed pass hd =>
    rw [hnone hd]
    exact .ended hd rfl rfl
  | failed pass f hd =>
    rw [hnone hd]
    have hs := settleMessage_atDesk
      ({ b with drainer := .ready }.count fun c => { c with failed := c.failed + 1 })
      pass.again (.handler f)
    exact .ended hd hs.drainer hs.queue
  | retried pass hd =>
    rw [hnone hd]
    have hj := enqueue_joins
      ({ b with drainer := .ready }.count fun c => { c with retried := c.retried + 1 })
      { pass.parcel with message := pass.again }
    have hperm := b.queue.join_perm b.config.maxQueueDepth
      { pass.parcel with message := pass.again }
    have hmap := hperm.map (·.message)
    rw [List.map_append, List.map_append] at hmap
    refine .kept ((b.queue.join b.config.maxQueueDepth
      { pass.parcel with message := pass.again }).1.toList.map (·.message)) rfl ?_
    rw [carried_of_delivering hd, carried_of_ready hj.drainer, enqueue_queue, List.append_nil]
    exact (List.perm_append_singleton _ _).symm.trans hmap
  | skipped pass s rest hd =>
    rw [hnone hd]
    exact .goes hd rfl rfl rfl
  | replied pass s rest c hd =>
    rw [hnone hd]
    exact .goes hd rfl rfl (b.settle_atDesk c _).queue
  | passed pass s rest hd =>
    rw [hnone hd]
    exact .goes hd rfl rfl rfl
  | invoked pass s rest hd =>
    rw [hnone hd]
    exact .goes hd rfl rfl rfl

/-- The end of a handler leaves the message that is being delivered as it is. -/
theorem Finishes.again {b b' : Bus H} {now : Nat} {ending : Ending} {t : Traffic}
    (h : b.Finishes now ending t b') : b'.pass?.map (·.again) = b.pass?.map (·.again) := by
  cases h with
  | idle => rfl
  | rejected pass s f hd => rw [pass?_eq_some.2 hd]; rfl
  | accepted pass s hd => rw [pass?_eq_some.2 hd]; rfl
  | answered pass s answer hd => rw [pass?_eq_some.2 hd]; rfl

namespace Session

/-- Of the acts other than steps of the drainer. -/
theorem beside_shifts {s : Session H} {a : Act H} (hturn : a ≠ .turn) :
    Shifts s.bus (s.traffic a).entered (s.flow a).served (s.step a).bus := by
  have hpass : (s.step a).bus.pass?.map (·.again) = s.bus.pass?.map (·.again) := by
    by_cases hfinish : ∃ ending, a = .finish ending
    · obtain ⟨ending, rfl⟩ := hfinish
      exact (s.bus.finish_finishes s.now ending).again
    · rw [step_pass? s hturn fun ending h => hfinish ⟨ending, h⟩]
  obtain ⟨hserved, expired, hentered⟩ : (s.flow a).served = [] ∧
      ∃ expired, (s.traffic a).entered.Perm ((s.flow a).joined.map (·.message) ++ expired) := by
    cases a with
    | turn => exact absurd rfl hturn
    | shutdown =>
      have hnone : (s.traffic .shutdown).entered = [] := by
        simp only [traffic, shutdownTraffic]
        split <;> rfl
      have hflow : (s.flow .shutdown).served = [] ∧ (s.flow .shutdown).joined = [] := by
        simp only [flow]
        split <;> exact ⟨rfl, rfl⟩
      rw [hnone, hflow.2]
      exact ⟨hflow.1, [], List.Perm.refl _⟩
    | _ => exact entryFlow_joined ..
  have hperm := (s.step_flows a).perm.map (·.message)
  rw [List.map_append, List.map_append] at hperm
  refine .kept ((s.flow a).left.map (·.message) ++ expired) hserved ?_
  rw [carried, carried, hpass, List.append_assoc, List.append_assoc]
  refine List.Perm.append_left _ ?_
  calc List.Perm _ (s.bus.queue.toList.map (·.message) ++
        ((s.flow a).joined.map (·.message) ++ expired)) := hentered.append_left _
    List.Perm _ _ := by
      rw [← List.append_assoc, ← List.append_assoc]
      exact hperm.append_right _

/-- **One act.** -/
theorem step_shifts (s : Session H) (a : Act H) :
    Shifts s.bus (s.traffic a).entered (s.flow a).served (s.step a).bus := by
  by_cases hturn : a = .turn
  · subst hturn
    have hentered : (s.traffic .turn).entered = [] := by
      have hcases := s.bus.turn_turns s.now
      change (s.bus.turnTraffic s.now).entered = []
      generalize s.bus.turnTraffic s.now = t at hcases
      generalize s.bus.handedOver = os at hcases
      generalize (s.bus.turn s.now).1 = b at hcases
      cases hcases <;> rfl
    rw [hentered, step_turn_bus]
    exact (s.bus.turn_turns s.now).shifts
  · exact beside_shifts hturn

/-! ## The count is within the limit -/

theorem within_of_entered {s : Session H} {a : Act H} {m : Message}
    (h : m ∈ (s.traffic a).entered) : m.Within := by
  rw [Message.Within, entered_attempts h]
  exact UInt32.zero_le

/-- The counts of the messages on a bus are within their limits. -/
structure Within (b : Bus H) : Prop where
  queued : ∀ p ∈ b.queue.toList, p.message.Within
  underway : ∀ pass, b.pass? = some pass → pass.parcel.message.Within

theorem Within.step {s : Session H} (h : Within s.bus) (a : Act H) : Within (s.step a).bus where
  queued p hp := by
    rcases queued_origin hp with hp | ⟨m, hm, rfl⟩ | ⟨pass, hback, rfl⟩
    · exact h.queued p hp
    · exact within_of_entered hm
    · exact Message.within_of_canRetry hback.canRetry
  underway pass' hpass' := by
    rcases hp : s.bus.pass? with _ | pass
    · obtain ⟨-, -, p, queue, hpop, rfl⟩ := begun_origin hp hpass'
      exact h.queued p (Queue.toList_pop hpop ▸ List.mem_cons_self)
    · rcases (course [] hp a).goes_on hpass' with ⟨rfl, -⟩ | hg
      · exact h.underway _ hp
      · rw [hg.frame.1]
        exact h.underway pass hp

/-- **The count is within the limit** in every run. -/
theorem run_within (config : BusConfig) (hosted : Bool) (acts : List (Act H)) :
    Within ((start config hosted).run acts).bus :=
  run_induction (P := fun _ s => Within s.bus)
    { queued := fun p hp => by cases hp
      underway := fun pass hpass => by cases hpass }
    (fun _ a h => h.step a) acts

/-! ## The passes that are left -/

/-- The passes that are left to those of some messages that are asked about. -/
def budget (who : String → Bool) (ms : List Message) : Nat :=
  addUp ((ms.filter fun m => who m.id).map (·.passesLeft))

/-- Those of some messages that are asked about have limits that can be exceeded. -/
def Limited (who : String → Bool) (ms : List Message) : Prop := ∀ m ∈ ms, who m.id → m.Limited

section Budgets

variable {who : String → Bool} {ms ms' : List Message} {m : Message} {s : Session H} {a : Act H}

@[simp] theorem budget_nil : budget who [] = 0 := rfl

theorem budget_cons :
    budget who (m :: ms) = (if who m.id then m.passesLeft else 0) + budget who ms := by
  cases h : who m.id <;> simp [budget, h]

theorem budget_append : budget who (ms ++ ms') = budget who ms + budget who ms' := by
  simp only [budget, List.filter_append, List.map_append, addUp_append]

theorem budget_perm (h : ms.Perm ms') : budget who ms = budget who ms' :=
  addUp_perm ((h.filter _).map _)

/-- What is carried was carried, has entered, or is what was served. -/
theorem Limited.step (h : Limited who s.bus.carried) (hentered : Limited who (s.traffic a).entered) :
    Limited who (s.step a).bus.carried := by
  intro m hm
  cases s.step_shifts a with
  | kept lost _ hperm =>
    rcases List.mem_append.1 (hperm.mem_iff.2 (List.mem_append_left _ hm)) with hm | hm
    · exact h m hm
    · exact hentered m hm
  | served p queue _ _ _ hbefore hafter =>
    rw [hbefore] at h
    rcases hafter with hafter | hafter <;> rw [hafter] at hm
    · exact h m (List.mem_cons_of_mem _ hm)
    · rcases List.mem_cons.1 hm with rfl | hm
      · exact h p.message List.mem_cons_self
      · exact h m (List.mem_cons_of_mem _ hm)

/-- **One act** uses up a pass of what it serves. -/
theorem step_budget (hwithin : Within s.bus) (hlimited : Limited who s.bus.carried) (a : Act H) :
    budget who (s.step a).bus.carried + (s.flow a).served.countP (who ·.message.id) ≤
      budget who s.bus.carried + budget who (s.traffic a).entered := by
  cases s.step_shifts a with
  | kept lost hserved hperm =>
    have hbudget : budget who _ = budget who _ := budget_perm hperm
    rw [budget_append, budget_append] at hbudget
    rw [hserved, List.countP_nil]
    omega
  | served p queue hpop hserved hentered hbefore hafter =>
    have hp : p ∈ s.bus.queue.toList := Queue.toList_pop hpop ▸ List.mem_cons_self
    have hleft : who p.message.id = true →
        p.message.retried.passesLeft + 1 = p.message.passesLeft := fun hwho =>
      Message.passesLeft_retried (hwithin.queued p hp)
        (hlimited p.message (hbefore ▸ List.mem_cons_self) hwho)
    have hid : p.message.retried.id = p.message.id := rfl
    rw [hserved, hentered, hbefore, budget_nil, budget_cons, List.countP_singleton]
    rcases hafter with hafter | hafter <;> rw [hafter]
    · split
      · next hwho =>
        have := hleft hwho
        omega
      · omega
    · rw [budget_cons, hid]
      split
      · next hwho =>
        have := hleft hwho
        omega
      · omega

end Budgets

/-- **The passes left are used up one by one** in every run in which the limits of
    the messages that are asked about can be exceeded. -/
theorem run_budget (who : String → Bool) {s : Session H} (hwithin : Within s.bus)
    (hlimited : Limited who s.bus.carried) (acts : List (Act H))
    (hentered : Limited who (arrived (s.trace acts))) :
    budget who (s.run acts).bus.carried +
        (flowed (·.served) (s.trace acts)).countP (who ·.message.id) ≤
      budget who s.bus.carried + budget who (arrived (s.trace acts)) := by
  induction acts generalizing s with
  | nil => simp [trace, flowed, arrived]
  | cons a acts ih =>
    have harrived : arrived (s.trace (a :: acts)) =
        (s.traffic a).entered ++ arrived ((s.step a).trace acts) := rfl
    have hserved : flowed (·.served) (s.trace (a :: acts)) =
        (s.flow a).served ++ flowed (·.served) ((s.step a).trace acts) := rfl
    rw [harrived] at hentered
    have hlimited' : Limited who (s.step a).bus.carried :=
      hlimited.step fun m hm => hentered m (List.mem_append_left _ hm)
    have hfirst := step_budget hwithin hlimited a
    have hrest := ih (hwithin.step a) hlimited' fun m hm => hentered m (List.mem_append_right _ hm)
    rw [run_cons, harrived, hserved, budget_append, List.countP_append]
    omega

/-! ## The passes of one message -/

/-- How often the message with an id was served. -/
def servings (log : List (Session H × Act H)) (i : String) : Nat :=
  (flowed (·.served) log).countP (·.message.id = i)

theorem budget_none {who : String → Bool} {ms : List Message} (h : ∀ m ∈ ms, who m.id = false) :
    budget who ms = 0 := by
  have hnone : ms.filter (fun m => who m.id) = [] :=
    List.filter_eq_nil_iff.2 fun m hm => by simp [h m hm]
  rw [budget, hnone]
  rfl

/-- Of messages with different ids, one is asked about. -/
theorem budget_one {ms : List Message} (hids : (ms.map (·.id)).Nodup) {m : Message} (hm : m ∈ ms) :
    budget (fun i => i = m.id) ms = m.passesLeft := by
  induction ms with
  | nil => cases hm
  | cons m' ms ih =>
    obtain ⟨hnew, hids⟩ := List.nodup_cons.1 hids
    rw [budget_cons]
    rcases List.mem_cons.1 hm with rfl | hm
    · have hothers : budget (fun i => i = m.id) ms = 0 :=
        budget_none fun m' hm' => by
          simpa using fun heq => hnew (List.mem_map.2 ⟨m', hm', heq⟩)
      simp [hothers]
    · have hne : m'.id ≠ m.id := fun heq => hnew (List.mem_map.2 ⟨m, hm, heq.symm⟩)
      simp [hne, ih hids hm]

/-- **A message is served at most once more than it may be retried.** -/
theorem servings_le (config : BusConfig) (hosted : Bool) (acts : List (Act H)) {m : Message}
    (hm : m ∈ arrived ((start config hosted).trace acts)) (hlimited : m.Limited) :
    servings ((start config hosted).trace acts) m.id ≤ m.maxRetries.toNat + 1 := by
  have hdistinct := (run_books config hosted acts).distinct
  have hbudget := run_budget (fun i => i = m.id) (s := start config hosted)
    (run_within config hosted []) (fun m' hm' => by cases hm') acts fun m' hm' hid => by
      rwa [List.inj_on_of_nodup_map hdistinct hm' hm (of_decide_eq_true hid)]
  rw [budget_one hdistinct hm] at hbudget
  have hnothing : budget (fun i => i = m.id) (start config hosted : Session H).bus.carried = 0 := rfl
  have hleft : m.passesLeft ≤ m.maxRetries.toNat + 1 := Nat.sub_le _ _
  rw [hnothing] at hbudget
  unfold servings
  omega

end Session

end Bus

end Switchboard
