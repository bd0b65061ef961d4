import Switchboard.Bus.Drain
import Switchboard.Proofs.Bus.Attempts
import Switchboard.Proofs.Bus.Calling
import Switchboard.Proofs.Bus.Catalogue
import Switchboard.Proofs.Bus.Effort

/-
  Draining — the drainer comes to the end of its queue.

  The drainer puts messages that have failed back into the queue that it empties,
  so the queue need not get shorter.  What gets less is the sum of the passes that
  are left to its messages; and a pass takes at most two acts for each
  subscription, one to begin and one to end, besides the act that serves the
  message and the one that ends the pass.

  * `Bus.toil` and `Bus.ahead` are what is left to do in the pass under way, in
    acts and in invocations; `run_spends` adds up what is done;
  * `Moderate` bounds what is done by the passes that are left;
  * `drainActs` are the acts of the drainer beside a host whose handlers end at
    once, `drainActs_ends` says that it is at work until it rests;
  * `drained` puts these together.
-/

namespace Switchboard.Bus

variable {H S : Type}

open Index (addUp)

/-! ## The pass under way -/

/-- How many acts are left in the pass under way. -/
def toil (b : Bus H) : Nat := b.pass?.elim 0 Pass.work

/-- How many subscriptions are still to have their turn in it. -/
def ahead (b : Bus H) : Nat := b.pass?.elim 0 (·.rest.length)

section Left

variable {b : Bus H} {pass : Pass H}

theorem toil_of_none (h : b.pass? = none) : b.toil = 0 := by rw [toil, h]; rfl

theorem toil_of_pass (h : b.pass? = some pass) : b.toil = pass.work := by rw [toil, h]; rfl

theorem ahead_of_none (h : b.pass? = none) : b.ahead = 0 := by rw [ahead, h]; rfl

theorem ahead_of_pass (h : b.pass? = some pass) : b.ahead = pass.rest.length := by
  rw [ahead, h]; rfl

theorem pass?_of_ready (h : b.drainer = .ready) : b.pass? = none := by simp only [pass?, h]

end Left

/-! ## Steps of the drainer -/

theorem free_of_ready {b : Bus H} (h : b.drainer = .ready) : b.running? = none := by
  simp only [running?, h]

/-- Where a message is taken, no handler is running yet. -/
theorem turn_free_of_ready {b : Bus H} (now : Nat) (hready : b.drainer = .ready) :
    (b.turn now).1.running? = none := by
  have hturn := b.turn_turns now
  generalize b.turnTraffic now = t at hturn
  generalize b.handedOver = os at hturn
  generalize (b.turn now).1 = b' at hturn ⊢
  cases hturn with
  | rested => rfl
  | expired => exact free_of_ready hready
  | unheard p queue counters =>
    exact free_of_ready ((settleMessage_atDesk { b with queue, counters } _ _).drainer.trans hready)
  | begun => rfl
  | idle => exact free_of_ready hready
  | _ =>
    have hd := ‹b.drainer = .delivering _›
    rw [hready] at hd
    cases hd

/-- **What a step comes to** where no handler is running. -/
theorem turn_free {b : Bus H} (now : Nat) (hfree : b.running? = none) :
    ((b.turn now).2 = .rest ∧ b.drainer = .idle) ∨
      ((b.turn now).2 = .again ∧ (b.turn now).1.running? = none) ∨
        ∃ call pass, (b.turn now).2 = .invoke call ∧ b.drainer = .delivering pass := by
  rcases hd : b.drainer with _ | _ | pass
  · exact Or.inl ⟨by simp only [turn, hd], rfl⟩
  · refine Or.inr (Or.inl ⟨?_, turn_free_of_ready now hd⟩)
    simp only [turn, hd]
    split <;> rfl
  · have hrun : pass.running = none := by simpa only [running?, hd] using hfree
    rcases hrest : pass.rest with _ | ⟨sub, rest⟩
    · have hturn : b.turn now = (b.endPass pass, .again) := by simp only [turn, hd, hrun, hrest]
      rw [hturn]
      exact Or.inr (Or.inl ⟨rfl, free_of_ready (b.endPass_frees pass).1⟩)
    by_cases hid : sub.id ∈ pass.parcel.accepted
    · have hturn : b.turn now = ({ b with drainer := .delivering { pass with rest } }, .again) := by
        simp [turn, hd, hrun, hrest, hid]
      rw [hturn]
      exact Or.inr (Or.inl ⟨rfl, hrun⟩)
    have hturn : b.turn now = b.deliver { pass with rest } sub := by
      simp [turn, hd, hrun, hrest, hid]
    rw [hturn, deliver]
    rcases sub.handler with h | h | c
    · exact Or.inr (Or.inr ⟨_, pass, rfl, rfl⟩)
    · dsimp only
      split
      · exact Or.inr (Or.inr ⟨_, pass, rfl, rfl⟩)
      · exact Or.inr (Or.inl ⟨rfl, rfl⟩)
    · exact Or.inr (Or.inl ⟨rfl, rfl⟩)

theorem finish_free (b : Bus H) (now : Nat) (ending : Ending) :
    (b.finish now ending).running? = none := by
  have hfinish := b.finish_finishes now ending
  generalize b.finishTraffic now ending = t at hfinish
  generalize b.finish now ending = b' at hfinish ⊢
  cases hfinish with
  | idle hfree => exact hfree
  | rejected => rfl
  | accepted => rfl
  | answered => rfl

namespace Session

section Steps

variable {s : Session H} {a : Act H} {size : Nat}

/-- Who is invoked is the next in the pass under way. -/
theorem next_of_invocation (h : s.invocation? a ≠ none) : ∃ pass, s.bus.pass? = some pass ∧
    pass.running = none ∧ pass.rest ≠ [] ∧ s.spentOn? a ≠ none := by
  cases a with
  | turn =>
    simp only [invocation?] at h
    split at h
    · next pass hd =>
      split at h
      · next sub rest hrun hrest =>
        exact ⟨pass, pass?_eq_some.2 hd, hrun, by simp [hrest], by simp [spentOn?, hd, hrun]⟩
      · exact absurd rfl h
    · exact absurd rfl h
  | _ => exact absurd rfl h

/-- A pass begins with serving its message. -/
theorem begun_served {pass : Pass H} (hnone : s.bus.pass? = none)
    (hpass : (s.step a).bus.pass? = some pass) : (s.flow a).served.length = 1 ∧
      ∃ topic, pass.rest = s.bus.index.matching topic ∧ pass.running = none := by
  obtain ⟨rfl, hd, p, queue, hpop, rfl⟩ := begun_origin hnone hpass
  have hserved : (s.flow .turn).served = [p] := congrArg Flow.served (turnFlow_served hd hpop)
  exact ⟨by rw [hserved]; rfl, p.message.topic, rfl, rfl⟩

/-- An act that is not spent in a pass serves a message. -/
theorem served_of_spent {i : String} (hnone : s.bus.pass? = none) (h : s.spentOn? a = some i) :
    (s.flow a).served.length = 1 := by
  rcases spentOn_cases h with ⟨pass, hpass, -⟩ | ⟨rfl, hd, p, queue, hpop, -⟩
  · rw [hnone] at hpass
    cases hpass
  · have hserved : (s.flow .turn).served = [p] := congrArg Flow.served (turnFlow_served hd hpop)
    rw [hserved]
    rfl

theorem spent_le_one (s : Session H) (a : Act H) : (s.spentOn? a).toList.length ≤ 1 := by
  cases s.spentOn? a <;> simp

/-- A pass that goes on has no more ahead of it. -/
theorem Goes.rest_le {t t' : Tally} {pass pass' : Pass H} (h : Goes t pass t' pass') :
    pass'.rest.length ≤ pass.rest.length := by
  cases h with
  | skipped sub rest _ hrest => simp [hrest]
  | passed sub rest _ hrest => simp [hrest]
  | invoked sub rest _ hrest => simp [hrest]
  | accepted sub => exact Nat.le_refl _
  | rejected sub e => exact Nat.le_refl _

/-- It has less where no handler was running. -/
theorem Goes.rest_lt {t t' : Tally} {pass pass' : Pass H} (h : Goes t pass t' pass')
    (hfree : pass.running = none) : pass'.rest.length < pass.rest.length := by
  cases h with
  | skipped sub rest _ hrest => simp [hrest]
  | passed sub rest _ hrest => simp [hrest]
  | invoked sub rest _ hrest => simp [hrest]
  | accepted sub hrun => rw [hfree] at hrun; cases hrun
  | rejected sub e hrun => rw [hfree] at hrun; cases hrun

/-- **An act that is spent** brings the pass nearer to its end, or serves a message. -/
theorem step_toil (hsize : ∀ topic, (s.bus.index.matching topic).length ≤ size) :
    (s.step a).bus.toil + (s.spentOn? a).toList.length ≤
      s.bus.toil + (s.flow a).served.length * (2 * size + 2) := by
  have hone := spent_le_one s a
  rcases hp : s.bus.pass? with _ | pass
  · rcases hp' : (s.step a).bus.pass? with _ | pass'
    · rw [toil_of_none hp']
      rcases hspent : s.spentOn? a with _ | i
      · exact Nat.zero_le _
      · rw [served_of_spent hp hspent, Option.toList_some, List.length_singleton]
        omega
    · obtain ⟨hserved, topic, hrest, hrun⟩ := begun_served hp hp'
      have hlength := hsize topic
      have hwork : pass'.work = 2 * (s.bus.index.matching topic).length + 1 := by
        simp [Pass.work, hrest, hrun]
      rw [toil_of_pass hp', hserved, hwork]
      omega
  · rw [toil_of_pass hp]
    refine Nat.le_add_right_of_le ?_
    rcases hp' : (s.step a).bus.pass? with _ | pass'
    · have hwork : 1 ≤ pass.work := Nat.succ_pos _
      rw [toil_of_none hp']
      omega
    · rw [toil_of_pass hp']
      rcases (course [] hp a).goes_on hp' with ⟨rfl, -, hspent⟩ | hgoes
      · rw [hspent]
        exact Nat.le_refl _
      · have hless := hgoes.work
        omega

/-- In a pass nobody is added to those that are ahead, and one of them is no longer
    when somebody is invoked. -/
theorem ahead_le {pass : Pass H} (hp : s.bus.pass? = some pass) :
    (s.step a).bus.ahead ≤ pass.rest.length ∧
      (s.invocation? a ≠ none → (s.step a).bus.ahead < pass.rest.length) := by
  have hnext (h : s.invocation? a ≠ none) :
      pass.running = none ∧ pass.rest ≠ [] ∧ s.spentOn? a ≠ none := by
    obtain ⟨pass', hp', hnext⟩ := next_of_invocation h
    obtain rfl := Option.some.inj (hp.symm.trans hp')
    exact hnext
  rcases hp' : (s.step a).bus.pass? with _ | pass'
  · rw [ahead_of_none hp']
    exact ⟨Nat.zero_le _, fun h => List.length_pos_iff.2 (hnext h).2.1⟩
  · rw [ahead_of_pass hp']
    rcases (course [] hp a).goes_on hp' with ⟨rfl, -, hspent⟩ | hgoes
    · exact ⟨Nat.le_refl _, fun h => absurd hspent (hnext h).2.2⟩
    · exact ⟨hgoes.rest_le, fun h => hgoes.rest_lt (hnext h).1⟩

/-- **An invocation** is one less ahead. -/
theorem step_ahead (hsize : ∀ topic, (s.bus.index.matching topic).length ≤ size) :
    (s.step a).bus.ahead + (s.invocation? a).toList.length ≤
      s.bus.ahead + (s.flow a).served.length * size := by
  rcases hp : s.bus.pass? with _ | pass
  · have hnobody : s.invocation? a = none := by
      by_contra hsome
      obtain ⟨pass, hpass, -⟩ := next_of_invocation hsome
      cases hp.symm.trans hpass
    rw [hnobody]
    rcases hp' : (s.step a).bus.pass? with _ | pass'
    · rw [ahead_of_none hp']
      exact Nat.zero_le _
    · obtain ⟨hserved, topic, hrest, -⟩ := begun_served hp hp'
      rw [ahead_of_pass hp', hrest, hserved, Nat.one_mul]
      exact (hsize topic).trans (Nat.le_add_left _ _)
  · obtain ⟨hle, hlt⟩ := ahead_le (a := a) hp
    rw [ahead_of_pass hp]
    refine Nat.le_add_right_of_le ?_
    rcases hinvocation : s.invocation? a with _ | key
    · exact hle
    · exact hlt (by simp [hinvocation])

end Steps

/-- **What is done in a run** is done in the pass that was under way, or in one of
    those that were begun. -/
theorem run_spends {β : Type} {f : Bus H → Nat} {g : Session H → Act H → Option β} {c size : Nat}
    (hstep : ∀ (s : Session H) a, (∀ topic, (s.bus.index.matching topic).length ≤ size) →
      f (s.step a).bus + (g s a).toList.length ≤ f s.bus + (s.flow a).served.length * c)
    {s : Session H} {acts : List (Act H)}
    (hsize : ∀ x ∈ s.trace acts, ∀ topic, (x.1.bus.index.matching topic).length ≤ size) :
    f (s.run acts).bus + ((s.trace acts).filterMap fun x => g x.1 x.2).length ≤
      f s.bus + (flowed (·.served) (s.trace acts)).length * c := by
  induction acts generalizing s with
  | nil => simp [trace, flowed]
  | cons a acts ih =>
    have hfirst := hstep s a (hsize (s, a) List.mem_cons_self)
    have hrest := ih (s := s.step a) fun x hx => hsize x (List.mem_cons_of_mem _ hx)
    have hdone : ((s.trace (a :: acts)).filterMap fun x => g x.1 x.2).length =
        (g s a).toList.length + (((s.step a).trace acts).filterMap fun x => g x.1 x.2).length := by
      rw [trace, List.filterMap_cons]
      cases g s a <;> simp [Nat.add_comm]
    have hserved : (flowed (·.served) (s.trace (a :: acts))).length =
        (s.flow a).served.length + (flowed (·.served) ((s.step a).trace acts)).length := by
      simp [trace, flowed]
    rw [run_cons, hdone, hserved, Nat.add_mul]
    omega

/-! ## The subscriptions that are found -/

/-- No more subscriptions are found than there are. -/
theorem run_matching_le (config : BusConfig) (hosted : Bool) (acts : List (Act H)) (topic : String) :
    let b := ((start config hosted).run acts).bus
    (b.index.matching topic).length ≤ b.subscriptionCount := by
  intro b
  obtain ⟨-, live, hshelved, -⟩ := run_stems (start_shelved config hosted).stems acts
  rw [hshelved.index.matching_eq, List.length_mergeSort, subscriptionCount, hshelved.patterns,
    List.length_map]
  exact List.length_filter_le _ _

theorem unsubscribe_few (b : Bus H) (id : String) :
    (b.unsubscribe id).2.subscriptionCount ≤ b.subscriptionCount := by
  unfold Bus.unsubscribe
  split
  · exact Nat.le_refl _
  · exact List.length_filter_le _ _

/-- Requests that are settled take subscriptions away. -/
theorem few_lasting (size : Nat) : Lasting fun b : Bus H => b.subscriptionCount ≤ size where
  congr h _ hpatterns _ _ := by rwa [subscriptionCount, hpatterns]
  settle {b} h c r := by
    unfold Bus.settle
    split
    · exact h
    · next e _ =>
      exact (unsubscribe_few { b with pending := b.pending.filter (·.correlation ≠ c) } _).trans h
  close {b} h c := by
    unfold Bus.close
    split
    · exact h
    · next e _ =>
      exact (unsubscribe_few { b with pending := b.pending.filter (·.correlation ≠ c) } _).trans h

theorem run_few {size : Nat} {s : Session H} {acts : List (Act H)}
    (hroutine : ∀ a ∈ acts, a.isRoutine = true) (h : s.bus.subscriptionCount ≤ size) :
    ∀ x ∈ s.trace acts, x.1.bus.subscriptionCount ≤ size := by
  induction acts generalizing s with
  | nil => exact fun x hx => by cases hx
  | cons a acts ih =>
    obtain ⟨ha, hroutine⟩ := List.forall_mem_cons.1 hroutine
    exact List.forall_mem_cons.2 ⟨h, ih hroutine ((few_lasting size).step h ha)⟩

/-! ## What the passes left allow -/

/-- The passes that are left to these parcels. -/
def passes (queue : List Parcel) : Nat := addUp (queue.map (·.message.passesLeft))

/-- What is done while these parcels are delivered, with so many subscriptions: each
    is taken at most as often as passes are left to it. -/
structure Moderate (queue : List Parcel) (size : Nat) (log : List (Session H × Act H)) : Prop where
  taken : (flowed (·.served) log).length ≤ passes queue
  each : ∀ p ∈ queue, servings log p.message.id ≤ p.message.passesLeft
  invocations : (log.filterMap fun x => x.1.invocation? x.2).length ≤ passes queue * size
  spent : (log.filterMap fun x => x.1.spentOn? x.2).length ≤ passes queue * (2 * size + 2)

section Runs

variable {config : BusConfig} {hosted : Bool} {before after : List (Act H)}

theorem budget_queue (queue : List Parcel) :
    budget (fun _ => true) (queue.map (·.message)) = passes queue := by
  simp [budget, passes, Function.comp_def]

/-- **What is taken** in a run in which nothing enters. -/
theorem run_taken {s : Session H} (hs : s = (start config hosted).run before)
    (hready : s.bus.drainer = .ready) (hlimited : ∀ p ∈ s.bus.queue.toList, p.message.Limited)
    (hquiet : arrived (s.trace after) = []) :
    (flowed (·.served) (s.trace after)).length ≤ passes s.bus.queue.toList ∧
      ∀ p ∈ s.bus.queue.toList, servings (s.trace after) p.message.id ≤ p.message.passesLeft := by
  have hcarried := carried_of_ready hready
  have htaken (who : String → Bool) :
      (flowed (·.served) (s.trace after)).countP (who ·.message.id) ≤
        budget who (s.bus.queue.toList.map (·.message)) := by
    have hbudget := run_budget who (hs ▸ run_within config hosted before) (s := s)
      (fun m hm _ => by
        rw [hcarried] at hm
        obtain ⟨p, hp, rfl⟩ := List.mem_map.1 hm
        exact hlimited p hp)
      after (by rw [hquiet]; exact fun m hm => by cases hm)
    rw [hcarried, hquiet, budget_nil] at hbudget
    omega
  constructor
  · have hall := htaken fun _ => true
    rwa [List.countP_true, budget_queue] at hall
  · intro p hp
    have hids : ((s.bus.queue.toList.map (·.message)).map (·.id)).Nodup := by
      have hflight := (run_books config hosted before).apart.of_append_left
      rw [Bus.flight, List.map_append, List.map_map, ← hs] at hflight
      rw [List.map_map]
      exact hflight.of_append_right
    have hone := htaken fun i => i = p.message.id
    rwa [budget_one hids (List.mem_map_of_mem hp)] at hone

/-- **Nothing is done but what the passes left allow**, in a run in which nothing
    enters. -/
theorem run_moderate {s : Session H} {size : Nat} (hs : s = (start config hosted).run before)
    (hready : s.bus.drainer = .ready) (hlimited : ∀ p ∈ s.bus.queue.toList, p.message.Limited)
    (hquiet : arrived (s.trace after) = [])
    (hfew : ∀ x ∈ s.trace after, x.1.bus.subscriptionCount ≤ size) :
    Moderate s.bus.queue.toList size (s.trace after) := by
  obtain ⟨htaken, heach⟩ := run_taken hs hready hlimited hquiet
  have hsize : ∀ x ∈ s.trace after, ∀ topic, (x.1.bus.index.matching topic).length ≤ size := by
    intro x hx topic
    obtain ⟨acts, -, -, hx'⟩ := mem_trace hx
    have hle := run_matching_le config hosted (before ++ acts) topic
    rw [run_append, ← hs, ← hx'] at hle
    exact hle.trans (hfew x hx)
  have hnone := pass?_of_ready hready
  have hspent := run_spends (f := toil) (g := spentOn?) (fun s a => step_toil (a := a)) hsize
  have hinvoked := run_spends (f := ahead) (g := invocation?) (fun s a => step_ahead (a := a)) hsize
  rw [toil_of_none hnone] at hspent
  rw [ahead_of_none hnone] at hinvoked
  refine ⟨htaken, heach, ?_, ?_⟩
  · have := Nat.mul_le_mul_right size htaken
    omega
  · have := Nat.mul_le_mul_right (2 * size + 2) htaken
    omega

end Runs

/-! ## The end -/

/-- Nothing waits, and the drainer rests. -/
def Rests (s : Session H) : Prop := s.bus.queue.toList = [] ∧ s.bus.isDraining = false

theorem rests_of_idle {s : Session H} (hawake : s.bus.Awake) (hidle : s.bus.drainer = .idle) :
    s.Rests := ⟨hawake hidle, by rw [isDraining, hidle]⟩

/-- Where no handler is running, a step that is not spent on a message leads to
    rest. -/
theorem idle_of_unspent {s : Session H} (hfree : s.bus.running? = none)
    (hunspent : s.spentOn? .turn = none) :
    s.bus.drainer = .idle ∨ (s.step .turn).bus.drainer = .idle := by
  rcases hd : s.bus.drainer with _ | _ | pass
  · exact Or.inl rfl
  · have hempty : s.bus.queue.pop? = none := by simpa [spentOn?, hd] using hunspent
    refine Or.inr ?_
    rw [step_turn_bus]
    simp only [turn, hd, hempty]
  · have hrun : pass.running = none := by simpa only [running?, hd] using hfree
    simp [spentOn?, hd, hrun] at hunspent

/-- **There is always something to do**, unless the drainer rests: it goes to rest
    in the next step, or the step is spent on a message, or any end of the handler
    that is running is. -/
theorem goes_on {s : Session H} (hawake : s.bus.Awake) :
    s.Rests ∨ (s.step .turn).Rests ∨ s.spentOn? .turn ≠ none ∨
      ∀ ending, s.spentOn? (.finish ending) ≠ none := by
  rcases hrun : s.bus.running? with _ | sub
  · by_cases hunspent : s.spentOn? .turn = none
    · rcases idle_of_unspent hrun hunspent with hidle | hidle
      · exact Or.inl (rests_of_idle hawake hidle)
      · exact Or.inr (Or.inl (rests_of_idle (step_awake hawake .turn) hidle))
    · exact Or.inr (Or.inr (Or.inl hunspent))
  · refine Or.inr (Or.inr (Or.inr fun ending => ?_))
    rcases hd : s.bus.drainer with _ | _ | pass <;> simp only [running?, hd, reduceCtorEq] at hrun
    simp [spentOn?, hd, hrun]

/-! ## Beside a host -/

/-- What the drainer does beside a host whose handlers end at once: its own steps,
    and the ends of the handlers that it asks for. -/
def drainActs (run : S → Invocation H → Ending × S) : Nat → S → Session H → List (Act H)
  | 0, _, _ => []
  | fuel + 1, x, s =>
    match (s.bus.turn s.now).2 with
    | .rest => []
    | .again => .turn :: drainActs run fuel x (s.step .turn)
    | .invoke call =>
      .turn :: .finish (run x call).1 ::
        drainActs run fuel (run x call).2 ((s.step .turn).step (.finish (run x call).1))

theorem step_turn_now (s : Session H) : (s.step .turn).now = s.now := by
  cases h : s.bus.drainer <;> simp only [step, h]

/-- The acts are what the loop does. -/
theorem drain_eq (run : S → Invocation H → Ending × S) (fuel : Nat) (moved : Bool) (x : S)
    (s : Session H) :
    (s.bus.drain run s.now fuel moved x).2.2 = (s.run (drainActs run fuel x s)).bus := by
  induction fuel generalizing moved x s with
  | zero => rfl
  | succ fuel ih =>
    have hbus : (s.step .turn).bus = (s.bus.turn s.now).1 := step_turn_bus s
    have hnow := step_turn_now s
    unfold Bus.drain carry drainActs
    rcases hturn : s.bus.turn s.now with ⟨b, _ | _ | call⟩
    · rfl
    · obtain rfl : (s.step .turn).bus = b := hbus.trans (congrArg (·.1) hturn)
      change (Bus.drain run s.now fuel true x (s.step .turn).bus).2.2 = _
      rw [← hnow]
      exact ih true x (s.step .turn)
    · obtain rfl : (s.step .turn).bus = b := hbus.trans (congrArg (·.1) hturn)
      change (Bus.drain run s.now fuel true (run x call).2
        ((s.step .turn).bus.finish s.now (run x call).1)).2.2 = _
      rw [← hnow]
      exact ih true (run x call).2 ((s.step .turn).step (.finish (run x call).1))

theorem routine_drainActs (run : S → Invocation H → Ending × S) (fuel : Nat) (x : S)
    (s : Session H) : ∀ a ∈ drainActs run fuel x s, a.isRoutine = true := by
  induction fuel generalizing x s with
  | zero => exact fun a ha => by cases ha
  | succ fuel ih =>
    unfold drainActs
    split
    · exact fun a ha => by cases ha
    · exact List.forall_mem_cons.2 ⟨rfl, ih _ _⟩
    · exact List.forall_mem_cons.2 ⟨rfl, List.forall_mem_cons.2 ⟨rfl, ih _ _⟩⟩

theorem drainActs_idle (run : S → Invocation H → Ending × S) (fuel : Nat) (x : S) {s : Session H}
    (hidle : s.bus.drainer = .idle) : drainActs run fuel x s = [] := by
  cases fuel with
  | zero => rfl
  | succ fuel => simp only [drainActs, turn, hidle]

/-- **The drainer is at work until it rests**: it rests in the end, or each of its
    steps was spent on a message. -/
theorem drainActs_ends (run : S → Invocation H → Ending × S) (fuel : Nat) (x : S) {s : Session H}
    (hfree : s.bus.running? = none) :
    (s.run (drainActs run fuel x s)).bus.drainer = .idle ∨
      fuel ≤ ((s.trace (drainActs run fuel x s)).filterMap fun x => x.1.spentOn? x.2).length := by
  induction fuel generalizing x s with
  | zero => exact Or.inr (Nat.zero_le _)
  | succ fuel ih =>
    have hspent {acts : List (Act H)} (h : s.spentOn? .turn ≠ none) :
        ((s.trace (.turn :: acts)).filterMap fun x => x.1.spentOn? x.2).length =
          (((s.step .turn).trace acts).filterMap fun x => x.1.spentOn? x.2).length + 1 := by
      obtain ⟨i, hi⟩ := Option.ne_none_iff_exists'.1 h
      simp [trace, hi]
    rcases turn_free s.now hfree with ⟨hrest, hidle⟩ | ⟨hagain, hfree'⟩ | ⟨call, pass, hinvoke, hd⟩
    · left
      rw [drainActs_idle run _ x hidle]
      exact hidle
    · simp only [drainActs, hagain]
      rw [← step_turn_bus] at hfree'
      by_cases h : s.spentOn? .turn = none
      · left
        rcases idle_of_unspent hfree h with hidle | hidle
        · simp [turn, hidle] at hagain
        · rw [drainActs_idle run fuel x hidle]
          exact hidle
      · rcases ih x hfree' with hidle | hle
        · exact Or.inl hidle
        · right
          rw [hspent h]
          exact Nat.succ_le_succ hle
    · simp only [drainActs, hinvoke]
      have hrun : pass.running = none := by simpa only [running?, hd] using hfree
      have hfree' : ((s.step .turn).step (.finish (run x call).1)).bus.running? = none :=
        (s.step .turn).bus.finish_free (s.step .turn).now (run x call).1
      rcases ih (run x call).2 hfree' with hidle | hle
      · exact Or.inl hidle
      · right
        rw [hspent (by simp [spentOn?, hd, hrun])]
        refine Nat.succ_le_succ (hle.trans ?_)
        exact (List.Sublist.filterMap _ (List.sublist_cons_self _ _)).length_le

/-- **The queue is drained.**  Take the drainer where it is about to take the next
    message, whatever waits then, with limits that can be exceeded.

    As long as nothing enters, no message is taken more often than passes are left
    to it, and invocations are bounded by these passes and the subscriptions that
    there are, whoever subscribes, unsubscribes or shuts down meanwhile; so are the
    acts that are spent on messages, and there is always one to come, unless the
    drainer rests.

    Beside a host whose handlers end at once, however they end, the loop comes to
    rest with nothing in the queue, if it is given one step more than there can be
    acts to spend. -/
theorem drained (config : BusConfig) (hosted : Bool) (before : List (Act H)) :
    let s := (start config hosted).run before
    let queue := s.bus.queue.toList
    s.bus.drainer = .ready → (∀ p ∈ queue, p.message.maxRetries.toNat < UInt32.size - 1) →
    (∀ after, arrived (s.trace after) = [] →
      (∀ size, (∀ x ∈ s.trace after, x.1.bus.subscriptionCount ≤ size) →
        Moderate queue size (s.trace after)) ∧
      let s' := s.run after
      (s'.Rests ∨ (s'.step .turn).Rests ∨ s'.spentOn? .turn ≠ none ∨
        ∀ ending, s'.spentOn? (.finish ending) ≠ none)) ∧
    ∀ (run : S → Invocation H → Ending × S) (fuel : Nat) (moved : Bool) (x : S),
      let size := s.bus.subscriptionCount
      let acts := drainActs run fuel x s
      arrived (s.trace acts) = [] → passes queue * (2 * size + 2) < fuel →
      (s.bus.drain run s.now fuel moved x).2.2 = (s.run acts).bus ∧
        (s.run acts).Rests ∧ Moderate queue size (s.trace acts) := by
  intro s queue hready hlimited
  have hawake (after : List (Act H)) : (s.run after).bus.Awake := by
    rw [← run_append]
    exact run_induction (P := fun _ s => s.bus.Awake) (fun _ => rfl)
      (fun _ a ha => step_awake ha a) (before ++ after)
  refine ⟨fun after hquiet => ⟨fun size hfew => ?_, goes_on (hawake after)⟩, ?_⟩
  · exact run_moderate rfl hready hlimited hquiet hfew
  · intro run fuel moved x size acts hquiet hfuel
    have hmoderate : Moderate queue size (s.trace acts) :=
      run_moderate rfl hready hlimited hquiet
        (run_few (routine_drainActs run fuel x s) (Nat.le_refl _))
    refine ⟨drain_eq run fuel moved x s, ?_, hmoderate⟩
    rcases drainActs_ends run fuel x (free_of_ready hready) with hidle | hle
    · exact rests_of_idle (hawake acts) hidle
    · exact absurd (hle.trans hmoderate.spent) (Nat.not_le.2 hfuel)

/-- Two messages with different limits wait for two subscriptions. -/
def twoWaiting : List (Act Bool) :=
  [.subscribe "t" true {}, .subscribe "t" false {},
    .publish "t" .null { maxRetries := some 2 }, .publish "t" .null { maxRetries := some 0 }]

/-- One handler fails whenever it is run, the other one succeeds; the host counts. -/
def halfFails (n : Nat) (call : Invocation Bool) : Ending × Nat :=
  (if call.handler then .failed (.plain "no") else .returned .null, n + 1)

/-- The first message is taken three times, the other once in between, and handlers
    are run six times. -/
theorem drained_half :
    let s := (start {} true).run twoWaiting
    let acts := drainActs halfFails 25 0 s
    passes s.bus.queue.toList = 4 ∧ (s.run acts).Rests ∧
      Moderate s.bus.queue.toList 2 (s.trace acts) ∧
      (flowed (·.served) (s.trace acts)).length = 4 ∧
      (s.bus.drain halfFails s.now 25 false 0).2.1 = 6 := by
  intro s acts
  have hlimited : ∀ p ∈ s.bus.queue.toList, p.message.maxRetries.toNat < UInt32.size - 1 := by
    decide +kernel +zetaReduce
  have hquiet : (arrived (s.trace acts)).length = 0 := by decide +kernel +zetaReduce
  have htaken : (flowed (·.served) (s.trace acts)).length = 4 := by decide +kernel +zetaReduce
  have hrun : (s.bus.drain halfFails s.now 25 false 0).2.1 = 6 := by decide +kernel +zetaReduce
  have hpasses : passes s.bus.queue.toList = 4 := by decide +kernel +zetaReduce
  obtain ⟨-, hdrains⟩ := drained (S := Nat) {} true twoWaiting rfl hlimited
  obtain ⟨-, hrests, hmoderate⟩ := hdrains halfFails 25 false 0
    (List.eq_nil_of_length_eq_zero hquiet) (by decide +kernel)
  exact ⟨hpasses, hrests, hmoderate, htaken, hrun⟩

end Session

end Switchboard.Bus
