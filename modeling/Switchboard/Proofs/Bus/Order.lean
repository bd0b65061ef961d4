import Switchboard.Proofs.Bus.Passage

/-
  The order of service — what the drainer takes from the queue, and what has to
  make room.

  * `Flow` lists the parcels that join the queue in an act and those that leave
    it, `Session.flow` is the flow of an act, `flowed` that of a run;
  * `Flows` lists what can happen to a queue, `step_flows` says that the list is
    complete;
  * `Orderly`: each line holds what has joined it and not left, in that order;
    `run_orderly`;
  * `served_in_order`: what is served, and what is evicted, is the oldest of the
    highest priority, and of the lowest.
-/

namespace Switchboard

variable {H : Type}

open Queue (ofPriority)

/-- The parcels that join a queue, and those that leave it. -/
structure Flow where
  joined : List Parcel := []
  /-- they are taken by the drainer -/
  served : List Parcel := []
  /-- they make room -/
  evicted : List Parcel := []
  /-- they are dropped at shutdown -/
  discarded : List Parcel := []

/-- All that leave. -/
def Flow.left (f : Flow) : List Parcel := f.served ++ f.evicted ++ f.discarded

/-! ## One act -/

namespace Bus

/-- The flow when a parcel is queued. -/
def inflow (b : Bus H) (p : Parcel) : Flow where
  joined := [p]
  evicted := (b.queue.join b.config.maxQueueDepth p).1.toList

/-- The flow when messages enter the bus: they join the queue unless they have
    expired. -/
def entryFlow (b : Bus H) (now : Nat) (t : Traffic) : Flow :=
  match t.entered with
  | [m] => if m.isExpiredAt now then {} else b.inflow (.fresh m)
  | _ => {}

/-- The flow of a step of the drainer. -/
def turnFlow (b : Bus H) : Flow :=
  match b.drainer with
  | .idle => {}
  | .ready => { served := (b.queue.pop?.map (·.1)).toList }
  | .delivering pass =>
    match pass.running, pass.rest, pass.failure with
    | none, [], some _ =>
      if pass.again.canRetry then b.inflow { pass.parcel with message := pass.again } else {}
    | _, _, _ => {}

/-- What can happen to a queue with a bound, in an act with this traffic. -/
inductive Flows (bound : Nat) (t : Traffic) (q : Queue) : Flow → Queue → Prop
  | quiet : Flows bound t q {} q
  | joined (p) : Flows bound t q
      { joined := [p], evicted := (q.join bound p).1.toList } (q.join bound p).2
  | served (p q') : q.pop? = some (p, q') → Flows bound t q { served := [p] } q'
  | emptied : t.shut = true → (∀ p ∈ q.toList, (.discarded, p.stamp) ∈ t.left) →
      Flows bound t q { discarded := q.toList } {}

theorem Flows.still {bound : Nat} {t : Traffic} {q q' : Queue} {f : Flow} (hf : f = {})
    (hq : q' = q) : Flows bound t q f q' := by
  rw [hf, hq]
  exact .quiet

theorem wake_queue (b : Bus H) : b.wake.queue = b.queue := by
  unfold wake
  split <;> rfl

theorem enqueue_flows (b : Bus H) (t : Traffic) (p : Parcel) :
    Flows b.config.maxQueueDepth t b.queue (b.inflow p) (b.enqueue p).queue := by
  rw [enqueue_queue]
  exact .joined p

theorem publish_flows (b : Bus H) (t : Traffic) (now : Nat) (topic : String) (payload : Json)
    (o : PublishOptions) :
    Flows b.config.maxQueueDepth t b.queue
      (b.entryFlow now (b.publishTraffic now topic payload o))
      (b.publish now topic payload o).2.queue := by
  rcases b.publish_cases now topic payload o with ⟨f, -, h⟩ | ⟨hm, h⟩ | ⟨hm, h⟩ <;>
    simp only [entryFlow, publishTraffic, h]
  · exact .quiet
  · have hexpired : (b.draft (b.draft b.mint.take.1 topic payload o now).id topic payload o
        now).isExpiredAt now = true := hm
    rw [if_pos hexpired]
    exact .quiet
  · have hfresh : ¬(b.draft (b.draft b.mint.take.1 topic payload o now).id topic payload o
        now).isExpiredAt now = true := by rw [Bool.not_eq_true]; exact hm
    rw [if_neg hfresh, wake_queue]
    exact b.entering.enqueue_flows t _

theorem Subscribes.queue {b b' : Bus H} {listener : Listener H} (h : b.Subscribes listener b') :
    b'.queue = b.queue := by cases h <;> rfl

theorem attend_queue (b : Bus H) (now : Nat) (t : Ticket) : (b.attend now t).2.queue = b.queue := by
  rcases b.attend_cases now t with ⟨r, -, h⟩ | ⟨-, -, h⟩ | ⟨-, -, -, h⟩ | ⟨-, -, h⟩ <;> rw [h]
  · exact (b.close_atDesk _).queue
  · exact (b.close_atDesk _).queue
  · exact (close_atDesk _ _).queue

theorem sweepStale_queue (b : Bus H) (now maxAge : Nat) :
    (b.sweepStale now maxAge).2.queue = b.queue :=
  sweepStale_keeps (P := fun b' => b'.queue = b.queue)
    (fun _ _ h => (settle_atDesk _ _ _).queue.trans h) now rfl

theorem respond_flows (b : Bus H) (t : Traffic) (now : Nat) (m : Message) (answer : Json) :
    Flows b.config.maxQueueDepth t b.queue (b.entryFlow now (b.respondTraffic now m answer))
      (b.respond now m answer).queue := by
  rcases b.respond_cases now m answer with ⟨ht, hb⟩ | ⟨replyTo, c, -, -, ht, hb⟩ <;> rw [ht, hb]
  · exact .quiet
  · exact publish_flows ..

theorem Opens.flows {b b' : Bus H} {now : Nat} {topic : String} {payload : Json}
    {o : RequestOptions} {t : Traffic} {r : Except BusFault Ticket}
    (h : b.Opens now topic payload o t r b') :
    Flows b.config.maxQueueDepth t b.queue (b.entryFlow now t) b'.queue := by
  cases h with
  | refused => exact .quiet
  | unpublished pattern => exact .still rfl (close_atDesk _ _).queue
  | opened pattern => exact (b.asking now topic pattern).publish_flows _ ..

theorem Finishes.flows {b b' : Bus H} {now : Nat} {ending : Ending} {t : Traffic}
    (h : b.Finishes now ending t b') :
    Flows b.config.maxQueueDepth t b.queue (b.entryFlow now t) b'.queue := by
  cases h with
  | idle => exact .quiet
  | rejected => exact .quiet
  | accepted => exact .quiet
  | answered pass s answer => exact respond_flows ..

theorem turnFlow_served {b : Bus H} {p : Parcel} {queue : Queue} (hd : b.drainer = .ready)
    (hp : b.queue.pop? = some (p, queue)) : b.turnFlow = { served := [p] } := by
  simp [turnFlow, hd, hp]

theorem Turns.flows {b b' : Bus H} {now : Nat} {t : Traffic} {os : List (String × Reply)}
    (h : b.Turns now t os b') :
    Flows b.config.maxQueueDepth t b.queue b.turnFlow b'.queue := by
  cases h with
  | idle hd => exact .still (by simp [turnFlow, hd]) rfl
  | busy pass s hd hrun => exact .still (by simp [turnFlow, hd, hrun]) rfl
  | rested hd hp => exact .still (by simp [turnFlow, hd, hp]) rfl
  | expired p queue hd hp =>
    rw [turnFlow_served hd hp]
    exact .served p queue hp
  | unheard p queue counters hd hp =>
    rw [turnFlow_served hd hp, (settleMessage_atDesk _ _ _).queue]
    exact .served p queue hp
  | begun p queue hd hp =>
    rw [turnFlow_served hd hp]
    exact .served p queue hp
  | processed pass hd hrun hrest hf => exact .still (by simp [turnFlow, hd, hrun, hrest, hf]) rfl
  | retried pass hd hrun hrest hf hretry =>
    obtain ⟨f, hf⟩ := Option.ne_none_iff_exists'.1 hf
    have hflow : b.turnFlow = b.inflow { pass.parcel with message := pass.again } := by
      simp [turnFlow, hd, hrun, hrest, hf, hretry]
    rw [hflow]
    exact enqueue_flows ({ b with drainer := .ready }.count _) _ _
  | failed pass f hd hrun hrest hf hretry =>
    exact .still (by simp [turnFlow, hd, hrun, hrest, hf, hretry])
      (settleMessage_atDesk _ _ _).queue
  | skipped pass s rest hd hrun hrest => exact .still (by simp [turnFlow, hd, hrun, hrest]) rfl
  | replied pass s rest c hd hrun hrest =>
    exact .still (by simp [turnFlow, hd, hrun, hrest]) (b.settle_atDesk c _).queue
  | passed pass s rest hd hrun hrest => exact .still (by simp [turnFlow, hd, hrun, hrest]) rfl
  | invoked pass s rest hd hrun hrest => exact .still (by simp [turnFlow, hd, hrun, hrest]) rfl

theorem shutdown_flows (b : Bus H) :
    Flows b.config.maxQueueDepth b.shutdownTraffic b.queue
      (if b.closed then {} else { discarded := b.queue.toList }) b.shutdown.queue := by
  by_cases hclosed : b.closed = true
  · simp only [shutdown, hclosed, if_true]
    exact .quiet
  · have hqueue := (foldl_settle_atDesk b.pending (.error .shutdown) b.emptied).queue
    have hempty : b.shutdown.queue = {} := by
      simp only [shutdown, if_neg hclosed]
      exact hqueue
    simp only [shutdownTraffic, if_neg hclosed, hempty]
    exact .emptied rfl fun p hp => List.mem_map.2 ⟨p, hp, rfl⟩

/-! ### What a flow keeps -/

section Kept

variable {bound : Nat} {t : Traffic} {q q' : Queue} {f : Flow}

theorem Flows.filed (h : Flows bound t q f q') (hfiled : q.Filed) : q'.Filed := by
  cases h with
  | quiet => exact hfiled
  | joined p => exact hfiled.join bound p
  | served p q' hp => exact (hfiled.pop hp).1.filed hfiled
  | emptied => exact fun r p hp => by cases r <;> cases hp

/-- Parcels join a line at its end, and leave it at its front. -/
theorem Flows.line (h : Flows bound t q f q') (hfiled : q.Filed) (r : Priority) :
    q.line r ++ ofPriority r f.joined = ofPriority r f.left ++ q'.line r := by
  cases h with
  | quiet => exact List.append_nil _
  | joined p =>
    dsimp only [Flow.left]
    rw [← Queue.line_push]
    rcases q.join_cases bound p with ⟨hjoin, -⟩ | ⟨out, q', he, hjoin⟩
    · rw [hjoin]
      rfl
    · rw [hjoin]
      exact ((hfiled.push p).evict he).1.line r
  | served p q' hp =>
    have hline := (hfiled.pop hp).1.line r
    simpa [Flow.left, ofPriority] using hline
  | emptied =>
    have hline := hfiled.ofPriority_toList r
    dsimp only [Flow.left]
    rw [List.nil_append, List.nil_append, hline]
    cases r <;> rfl

theorem Flows.size (h : Flows bound t q f q') (hbound : 0 < bound) (hsize : q.size ≤ bound) :
    q'.size ≤ bound := by
  cases h with
  | quiet => exact hsize
  | joined p => exact Queue.size_join hbound hsize p
  | served p q' hp =>
    have hlength := congrArg List.length (Queue.toList_pop hp)
    rw [List.length_cons, Queue.length_toList, Queue.length_toList] at hlength
    omega
  | emptied => exact Nat.zero_le bound

/-- **What is served** is the first of the highest line that is not empty. -/
theorem Flows.front {p : Parcel} (h : Flows bound t q f q') (hfiled : q.Filed) (hp : p ∈ f.served) :
    (∃ later, q.line p.message.priority = p :: later) ∧
      ∀ r, r.tier < p.message.priority.tier → q.line r = [] := by
  cases h with
  | served p' q' hpop =>
    obtain rfl := List.mem_singleton.1 hp
    obtain ⟨htakes, hhigher⟩ := hfiled.pop hpop
    exact ⟨⟨_, htakes.front⟩, hhigher⟩
  | _ => cases hp

/-- **What makes room** is the first of the lowest line that is not empty, when
    the parcel that joins has been queued. -/
theorem Flows.back {out : Parcel} (h : Flows bound t q f q') (hfiled : q.Filed)
    (hout : out ∈ f.evicted) :
    ∃ p, f.joined = [p] ∧ (∃ later, (q.push p).line out.message.priority = out :: later) ∧
      ∀ r, out.message.priority.tier < r.tier → (q.push p).line r = [] := by
  cases h with
  | joined p =>
    rcases q.join_cases bound p with ⟨hjoin, -⟩ | ⟨out', q', he, hjoin⟩
    · rw [hjoin] at hout
      cases hout
    · rw [hjoin] at hout
      obtain rfl := List.mem_singleton.1 hout
      obtain ⟨htakes, hlower⟩ := (hfiled.push p).evict he
      exact ⟨p, rfl, ⟨_, htakes.front⟩, hlower⟩
  | _ => cases hout

/-- Whoever waits or joins is still there afterwards, or leaves. -/
theorem Flows.stays {p : Parcel} (h : Flows bound t q f q') (hfiled : q.Filed)
    (hp : p ∈ q.toList ∨ p ∈ f.joined) : p ∈ q'.toList ∨ p ∈ f.left := by
  have hline : ∃ r, p ∈ q.line r ++ ofPriority r f.joined := by
    rcases hp with hp | hp
    · obtain ⟨r, hr⟩ := Queue.mem_toList.1 hp
      exact ⟨r, List.mem_append_left _ hr⟩
    · exact ⟨p.message.priority, List.mem_append_right _ (List.mem_filter.2 ⟨hp, by simp⟩)⟩
  obtain ⟨r, hr⟩ := hline
  rw [h.line hfiled r] at hr
  rcases List.mem_append.1 hr with hr | hr
  · exact Or.inr (List.mem_filter.1 hr).1
  · exact Or.inl (Queue.mem_toList.2 ⟨r, hr⟩)

/-- Nothing is discarded but at shutdown, when everything is. -/
theorem Flows.discarded (h : Flows bound t q f q') :
    f.discarded = [] ∨
      t.shut = true ∧ q' = {} ∧ ∀ p ∈ f.discarded, (.discarded, p.stamp) ∈ t.left := by
  cases h with
  | emptied hshut hleft => exact Or.inr ⟨hshut, rfl, hleft⟩
  | _ => exact Or.inl rfl

end Kept

namespace Session

/-- What an act does to the queue. -/
def flow (s : Session H) : Act H → Flow
  | .turn => s.bus.turnFlow
  | .shutdown => if s.bus.closed then {} else { discarded := s.bus.queue.toList }
  | a => s.bus.entryFlow s.now (s.traffic a)

/-- **One act.** -/
theorem step_flows (s : Session H) (a : Act H) :
    Flows s.bus.config.maxQueueDepth (s.traffic a) s.bus.queue (s.flow a)
      (s.step a).bus.queue := by
  cases a with
  | subscribe topic handler metadata =>
    exact .still rfl (s.bus.subscribe_subscribes topic (.subscriber handler) metadata).queue
  | subscribePattern pattern handler metadata =>
    exact .still rfl
      (s.bus.subscribePattern_subscribes pattern (.subscriber handler) metadata).queue
  | serve topic handler metadata =>
    exact .still rfl (s.bus.subscribe_subscribes topic (.responder handler) metadata).queue
  | unsubscribe id => exact .still rfl (s.bus.unsubscribe_atDesk id).queue
  | unsubscribePlugin plugin => exact .still rfl (s.bus.unsubscribePlugin_atDesk plugin).queue
  | publish topic payload o => exact publish_flows ..
  | request topic payload o =>
    rw [step_request_bus]
    exact (s.bus.openRequest_opens ..).flows
  | attend n =>
    refine .still rfl ?_
    rcases hn : s.calls.waiting.lookup n with _ | t
    · simp only [step, hn]
    · have h := s.bus.attend_queue s.now t
      rcases ht : s.bus.attend s.now t with ⟨_ | r, b⟩ <;> rw [ht] at h <;>
        simpa only [step, hn, ht] using h
  | drop n =>
    refine .still rfl ?_
    rcases hn : s.calls.waiting.lookup n with _ | t
    · simp only [step, hn]
    · simpa only [step, hn] using (s.bus.close_atDesk t.correlation).queue
  | sweep maxAge => exact .still rfl (s.bus.sweepStale_queue s.now maxAge)
  | shutdown => exact s.bus.shutdown_flows
  | turn =>
    rw [step_turn_bus]
    exact (s.bus.turn_turns s.now).flows
  | finish ending => exact (s.bus.finish_finishes s.now ending).flows
  | wait ms => exact .quiet
  | host present => exact .quiet

/-! ## Runs -/

/-- What joined the queue in a run, or what left it. -/
def flowed (part : Flow → List Parcel) (log : List (Session H × Act H)) : List Parcel :=
  log.flatMap fun x => part (x.1.flow x.2)

theorem flowed_concat (part : Flow → List Parcel) (log : List (Session H × Act H)) (s : Session H)
    (a : Act H) : flowed part (log ++ [(s, a)]) = flowed part log ++ part (s.flow a) := by
  simp [flowed]

theorem flowed_append (part : Flow → List Parcel) (log log' : List (Session H × Act H)) :
    flowed part (log ++ log') = flowed part log ++ flowed part log' := List.flatMap_append

/-- Each line holds what has joined it and not left it, in that order. -/
structure Orderly (bound : Nat) (log : List (Session H × Act H)) (s : Session H) : Prop where
  filed : s.bus.queue.Filed
  lines : ∀ r, ofPriority r (flowed (·.joined) log) =
    ofPriority r (flowed (·.left) log) ++ s.bus.queue.line r
  bounded : 0 < bound → s.bus.queue.size ≤ bound

theorem Orderly.step {bound : Nat} {log : List (Session H × Act H)} {s : Session H}
    (h : Orderly bound log s) (hbound : s.bus.config.maxQueueDepth = bound) (a : Act H) :
    Orderly bound (log ++ [(s, a)]) (s.step a) := by
  have hflows := s.step_flows a
  rw [hbound] at hflows
  refine ⟨hflows.filed h.filed, fun r => ?_, fun hpos => hflows.size hpos (h.bounded hpos)⟩
  have hline := hflows.line h.filed r
  rw [flowed_concat, flowed_concat, Queue.ofPriority_append, Queue.ofPriority_append, h.lines r,
    List.append_assoc, List.append_assoc, hline]

/-- **Order is kept** in every run. -/
theorem run_orderly (config : BusConfig) (hosted : Bool) (acts : List (Act H)) :
    Orderly config.maxQueueDepth ((start config hosted).trace acts)
      ((start config hosted).run acts) := by
  induction acts using List.reverseRecOn with
  | nil =>
    exact
      { filed := fun r p hp => by cases r <;> cases hp
        lines := fun r => by cases r <;> rfl
        bounded := fun _ => Nat.zero_le _ }
  | append_singleton acts a ih =>
    have hconfig := (run_accounts (start config hosted : Session H) acts).config
    rw [run_concat, trace_concat]
    exact ih.step (congrArg BusConfig.maxQueueDepth hconfig) a

/-- Nothing is discarded while the bus is open. -/
theorem discarded_of_open (config : BusConfig) (hosted : Bool) (acts : List (Act H))
    (hopen : ((start config hosted : Session H).run acts).bus.closed = false) :
    flowed (·.discarded) ((start config hosted).trace acts) = [] := by
  induction acts using List.reverseRecOn with
  | nil => rfl
  | append_singleton acts a ih =>
    rw [run_concat, (step_accounts _ a).closed, Bool.or_eq_false_iff] at hopen
    rw [trace_concat, flowed_concat, ih hopen.1, List.nil_append]
    rcases (step_flows ((start config hosted).run acts) a).discarded with hnone | ⟨hshut, -⟩
    · exact hnone
    · rw [hopen.2] at hshut
      cases hshut

/-! ### Those of higher priority come first -/

section Precedence

variable {bound : Nat} {log₀ log : List (Session H × Act H)} {s : Session H} {a : Act H}
  {low : Parcel}

theorem flowed_left (hevicted : flowed (·.evicted) log = [])
    (hdiscarded : flowed (·.discarded) log = []) :
    flowed (·.left) log = flowed (·.served) log := by
  refine List.flatMap_congr fun x hx => ?_
  have he := List.flatMap_eq_nil_iff.1 hevicted x hx
  have hd := List.flatMap_eq_nil_iff.1 hdiscarded x hx
  simp only [Flow.left, he, hd, List.append_nil]

/-- When a parcel is served, all of a higher priority that have joined the queue
    have been served, if none was evicted or discarded. -/
theorem Orderly.precede (h : Orderly bound log s) (hserved : low ∈ (s.flow a).served)
    (hevicted : flowed (·.evicted) log = []) (hdiscarded : flowed (·.discarded) log = [])
    {r : Priority} (hr : r.tier < low.message.priority.tier) :
    ofPriority r (flowed (·.joined) log) = ofPriority r (flowed (·.served) log) := by
  have hempty := ((s.step_flows a).front h.filed hserved).2 r hr
  rw [h.lines r, hempty, List.append_nil, flowed_left hevicted hdiscarded]

/-- Where a parcel is that joined the queue after `log₀`, nothing being evicted. -/
inductive Behind (log₀ : List (Session H × Act H)) (low : Parcel)
    (log : List (Session H × Act H)) (s : Session H) : Prop
  | waits : low ∈ s.bus.queue.toList → flowed (·.discarded) log = [] → Behind log₀ low log s
  /-- it has been served, after those of a higher priority that had joined -/
  | served : (∀ r, r.tier < low.message.priority.tier →
      ofPriority r (flowed (·.joined) log₀) <+: ofPriority r (flowed (·.served) log)) →
      Behind log₀ low log s
  | discarded : .discarded ∈ fates log low.message.id → Behind log₀ low log s

theorem ofPriority_flowed_mono (part : Flow → List Parcel) (r : Priority)
    (log log' : List (Session H × Act H)) :
    ofPriority r (flowed part log) <+: ofPriority r (flowed part (log ++ log')) := by
  rw [flowed_append, Queue.ofPriority_append]
  exact List.prefix_append _ _

theorem Behind.next (h : Orderly bound (log₀ ++ log) s)
    (hlow : low ∈ s.bus.queue.toList ∨ low ∈ (s.flow a).joined)
    (hevicted : flowed (·.evicted) (log₀ ++ log ++ [(s, a)]) = [])
    (hdiscarded : flowed (·.discarded) (log₀ ++ log) = []) :
    Behind log₀ low (log₀ ++ log ++ [(s, a)]) (s.step a) := by
  have hflows := s.step_flows a
  rw [flowed_concat, List.append_eq_nil_iff] at hevicted
  rcases hflows.stays h.filed hlow with hlow | hlow
  · refine .waits hlow ?_
    rw [flowed_concat, hdiscarded, List.nil_append]
    rcases hflows.discarded with hnone | ⟨-, hempty, -⟩
    · exact hnone
    · rw [hempty] at hlow
      cases hlow
  · rw [Flow.left, hevicted.2, List.append_nil] at hlow
    rcases List.mem_append.1 hlow with hlow | hlow
    · refine .served fun r hr => ?_
      have hall := h.precede hlow hevicted.1 hdiscarded hr
      have hjoined := ofPriority_flowed_mono (·.joined) r log₀ log
      rw [hall] at hjoined
      exact hjoined.trans (ofPriority_flowed_mono (·.served) r _ _)
    · rcases hflows.discarded with hnone | ⟨-, -, hleft⟩
      · rw [hnone] at hlow
        cases hlow
      · refine .discarded (mem_fates.2 ⟨low.stamp, ?_, rfl⟩)
        rw [departed_concat]
        exact List.mem_append_right _ (hleft low hlow)

theorem Behind.step (h : Behind log₀ low (log₀ ++ log) s) (horder : Orderly bound (log₀ ++ log) s)
    (hevicted : flowed (·.evicted) (log₀ ++ log ++ [(s, a)]) = []) :
    Behind log₀ low (log₀ ++ log ++ [(s, a)]) (s.step a) := by
  cases h with
  | waits hlow hdiscarded => exact .next horder (Or.inl hlow) hevicted hdiscarded
  | served hserved =>
    exact .served fun r hr => (hserved r hr).trans (ofPriority_flowed_mono (·.served) r _ _)
  | discarded hfate => exact .discarded (fates_subset _ _ _ hfate)

end Precedence

/-- **Precedence is kept** in every run. -/
theorem run_behind (config : BusConfig) (hosted : Bool) (before : List (Act H)) (a : Act H)
    (after : List (Act H)) {low : Parcel}
    (hopen : ((start config hosted : Session H).run before).bus.closed = false)
    (hlow : low ∈ (((start config hosted).run before).flow a).joined)
    (hevicted : flowed (·.evicted) ((start config hosted).trace (before ++ a :: after)) = []) :
    Behind ((start config hosted).trace before) low
      ((start config hosted).trace (before ++ a :: after))
      ((start config hosted).run (before ++ a :: after)) := by
  induction after using List.reverseRecOn with
  | nil =>
    have hdiscarded := discarded_of_open config hosted before hopen
    have horder := run_orderly config hosted before
    rw [trace_concat] at hevicted ⊢
    rw [run_concat]
    rw [← List.append_nil ((start config hosted).trace before)] at horder hevicted hdiscarded
    have hnext := Behind.next horder (Or.inr hlow) hevicted hdiscarded
    rwa [List.append_nil] at hnext
  | append_singleton after a' ih =>
    have horder := run_orderly config hosted (before ++ a :: after)
    rw [← List.cons_append, ← List.append_assoc] at hevicted ⊢
    rw [trace_concat] at hevicted ⊢
    rw [run_concat]
    have hbehind := ih (List.append_eq_nil_iff.1 ((flowed_append _ _ _).symm.trans hevicted)).1
    rw [trace_append] at hevicted horder hbehind ⊢
    exact hbehind.step horder hevicted

/-- **The order of service.**  In every run, each line holds what has joined it
    and not left, oldest first.  What is served is the oldest of the highest
    priority that waits; what is evicted is the oldest of the lowest, the parcel
    that joins included; and a queue with a bound keeps it.  Hence, if nothing is
    evicted, a message that joins an open bus is served after all those of a
    higher priority that have joined before. -/
theorem served_in_order (config : BusConfig) (hosted : Bool) (acts : List (Act H)) :
    let s := (start config hosted).run acts
    let log := (start config hosted).trace acts
    (∀ r, ofPriority r (flowed (·.joined) log) =
      ofPriority r (flowed (·.left) log) ++ s.bus.queue.line r) ∧
    (∀ a, ∀ p ∈ (s.flow a).served,
      (∀ r, r.tier < p.message.priority.tier → s.bus.queue.line r = []) ∧
      ∃ later, ofPriority p.message.priority (flowed (·.joined) log) =
        ofPriority p.message.priority (flowed (·.left) log) ++ p :: later) ∧
    (∀ a, ∀ out ∈ (s.flow a).evicted, ∃ p, (s.flow a).joined = [p] ∧
      (∀ r, out.message.priority.tier < r.tier → (s.bus.queue.push p).line r = []) ∧
      ∃ later, ofPriority out.message.priority (flowed (·.joined) (log ++ [(s, a)])) =
        ofPriority out.message.priority (flowed (·.left) log) ++ out :: later) ∧
    (0 < config.maxQueueDepth → s.bus.queue.size ≤ config.maxQueueDepth) ∧
    (∀ before a₀ after, acts = before ++ a₀ :: after →
      ((start config hosted).run before).bus.closed = false →
      ∀ low ∈ (((start config hosted).run before).flow a₀).joined,
      ∀ a, ∀ p ∈ (s.flow a).served, p.message.id = low.message.id →
      flowed (·.evicted) log = [] → ∀ r, r.tier < low.message.priority.tier →
      ofPriority r (flowed (·.joined) ((start config hosted).trace before)) <+:
        ofPriority r (flowed (·.served) log)) := by
  intro s log
  have h : Orderly config.maxQueueDepth log s := run_orderly config hosted acts
  refine ⟨h.lines, fun a p hp => ?_, fun a out hout => ?_, h.bounded, ?_⟩
  · obtain ⟨⟨later, hfront⟩, hhigher⟩ := (s.step_flows a).front h.filed hp
    exact ⟨hhigher, later, by rw [h.lines, hfront]⟩
  · obtain ⟨p, hjoined, ⟨later, hfront⟩, hlower⟩ := (s.step_flows a).back h.filed hout
    refine ⟨p, hjoined, hlower, later, ?_⟩
    rw [flowed_concat, hjoined, Queue.ofPriority_append, h.lines, List.append_assoc,
      ← Queue.line_push, hfront]
  · rintro before a₀ after rfl hopen low hlow a p hp hid hevicted r hr
    have hbooks := run_books config hosted (before ++ a₀ :: after)
    have hmem : p ∈ s.bus.queue.toList := by
      obtain ⟨⟨later, hfront⟩, -⟩ := (s.step_flows a).front h.filed hp
      exact Queue.mem_toList.2 ⟨_, hfront ▸ List.mem_cons_self⟩
    cases run_behind config hosted before a₀ after hopen hlow hevicted with
    | waits hlow' hdiscarded =>
      have hsame : p = low := hbooks.queue_inj hmem hlow' hid
      subst hsame
      have hall := h.precede hp hevicted hdiscarded hr
      rw [← hall]
      have hlog : log = (start config hosted).trace before ++ _ := trace_append _ _ _
      rw [hlog]
      exact ofPriority_flowed_mono (·.joined) r _ _
    | served hserved => exact hserved r hr
    | discarded hfate =>
      exact absurd hid (hbooks.not_flight hfate p.stamp (mem_flight_of_queue hmem))

/-- Two messages of high priority and then one of low: the low one is served when
    both of the others have been. -/
theorem served_in_order_low_last :
    let config : BusConfig := { maxQueueDepth := 3 }
    let before : List (Act Unit) :=
      [.publish "a" .null { priority := .high }, .publish "b" .null { priority := .high }]
    let acts := before ++ .publish "c" .null { priority := .low } :: [.turn, .turn]
    let s := (start config true).run acts
    let joined := ofPriority .high (flowed (·.joined) ((start config true).trace before))
    (∃ low ∈ (s.flow .turn).served, low.message.priority = .low) ∧ joined.length = 2 ∧
      joined <+: ofPriority .high (flowed (·.served) ((start config true).trace acts)) ∧
      s.bus.queue.size ≤ config.maxQueueDepth := by
  intro config before acts s joined
  have hjoined : (((start config true).run before).flow
      (.publish "c" .null { priority := .low })).joined.map
        (fun p => (p.message.id, p.message.priority)) = [(Mint.grouped 1 2, .low)] := by
    decide +kernel +zetaReduce
  have hserved : (s.flow .turn).served.map (fun p => (p.message.id, p.message.priority)) =
      [(Mint.grouped 1 2, .low)] := by decide +kernel +zetaReduce
  have hevicted : flowed (·.evicted) ((start config true).trace acts) = [] := by
    rw [← List.isEmpty_iff]
    decide +kernel +zetaReduce
  have hopen : ((start config true).run before).bus.closed = false := by
    decide +kernel +zetaReduce
  obtain ⟨low, hlow, hsame⟩ := List.map_eq_singleton_iff.1 hjoined
  obtain ⟨p, hp, hsame'⟩ := List.map_eq_singleton_iff.1 hserved
  obtain ⟨hid, hpriority⟩ := Prod.mk.inj hsame
  obtain ⟨hid', hpriority'⟩ := Prod.mk.inj hsame'
  have hmem : p ∈ (s.flow .turn).served := hp ▸ List.mem_singleton_self p
  obtain ⟨-, -, -, hbound, hfirst⟩ := served_in_order config true acts
  have hprefix := hfirst before _ _ rfl hopen low (hlow ▸ List.mem_singleton_self low) .turn p hmem
    (hid'.trans hid.symm) hevicted .high (by rw [hpriority]; decide)
  refine ⟨⟨p, hmem, hpriority'⟩, by decide +kernel +zetaReduce, hprefix, ?_⟩
  simp only [s]
  exact hbound (Nat.succ_pos 2)

end Session

end Bus

end Switchboard
