import Switchboard.Proofs.Bus.Failures

/-
  Where the parcels in a queue come from.

  * `Posts`: an operation puts at most new parcels of these messages into the
    queue;
  * `Session.sentBack?` is the message that an act sends back to its line;
  * `step_posts`: a parcel that waits after an act waited before, is new, or is
    that of the message that is sent back;
  * `run_named`: what is found on a topic has different ids.
-/

namespace Switchboard.Bus

variable {H : Type} {b b' b'' : Bus H} {ms ms' : List Message}

/-! ## Operations that send nothing back -/

/-- An operation counts no retry, and puts nothing but new parcels of these
    messages into the queue. -/
structure Posts (b : Bus H) (ms : List Message) (b' : Bus H) : Prop where
  retried : b'.counters.retried = b.counters.retried
  queue : ∀ p ∈ b'.queue.toList, p ∈ b.queue.toList ∨ ∃ m ∈ ms, p = .fresh m

theorem Posts.quiet (hretried : b'.counters.retried = b.counters.retried)
    (hqueue : b'.queue = b.queue) : b.Posts [] b' :=
  ⟨hretried, fun _ hp => Or.inl (hqueue ▸ hp)⟩

theorem Posts.refl (b : Bus H) : b.Posts [] b := .quiet rfl rfl

theorem Posts.trans (h : b.Posts ms b') (h' : b'.Posts ms' b'') : b.Posts (ms ++ ms') b'' where
  retried := h'.retried.trans h.retried
  queue p hp := by
    rcases h'.queue p hp with hp | ⟨m, hm, rfl⟩
    · rcases h.queue p hp with hp | ⟨m, hm, rfl⟩
      · exact Or.inl hp
      · exact Or.inr ⟨m, List.mem_append_left _ hm, rfl⟩
    · exact Or.inr ⟨m, List.mem_append_right _ hm, rfl⟩

theorem AtDesk.posts {d : Desk} (h : b.AtDesk d b') : b.Posts [] b' :=
  .quiet (by rw [h.counters]) h.queue

theorem enqueue_retried (b : Bus H) (p : Parcel) :
    (b.enqueue p).counters.retried = b.counters.retried := by
  unfold enqueue
  rcases b.queue.join b.config.maxQueueDepth p with ⟨_ | out, q⟩
  · rfl
  · rw [(settleMessage_atDesk _ _ _).counters]
    rfl

theorem enqueue_queue (b : Bus H) (p : Parcel) :
    (b.enqueue p).queue = (b.queue.join b.config.maxQueueDepth p).2 := by
  unfold enqueue
  rcases b.queue.join b.config.maxQueueDepth p with ⟨_ | out, q⟩
  · rfl
  · exact (settleMessage_atDesk _ _ _).queue

/-- Whoever waits after a parcel has joined waited before, or is the parcel. -/
theorem mem_enqueue {p p' : Parcel} (h : p' ∈ (b.enqueue p).queue.toList) :
    p' ∈ b.queue.toList ∨ p' = p := by
  have hjoin := b.queue.join_perm b.config.maxQueueDepth p
  rw [enqueue_queue] at h
  have hmem := hjoin.mem_iff.2 (List.mem_append_left _ h)
  simpa using hmem

theorem wake_posts (b : Bus H) : b.Posts [] b.wake := by
  unfold wake
  split
  · exact .quiet rfl rfl
  · exact .refl b

theorem publish_posts (b : Bus H) (now : Nat) (topic : String) (payload : Json)
    (o : PublishOptions) :
    b.Posts (b.publishTraffic now topic payload o).entered (b.publish now topic payload o).2 := by
  rcases b.publish_cases now topic payload o with ⟨f, -, h⟩ | ⟨-, h⟩ | ⟨-, h⟩ <;>
    simp only [publishTraffic, h]
  · exact .refl b
  · exact ⟨rfl, fun p hp => Or.inl hp⟩
  · have hwake := (b.entering.enqueue (.fresh (b.draft b.mint.take.1 topic payload o now))).wake_posts
    refine ⟨hwake.retried.trans (enqueue_retried _ _), fun p hp => ?_⟩
    rcases hwake.queue p hp with hp | ⟨m, hm, -⟩
    · rcases mem_enqueue hp with hp | rfl
      · exact Or.inl hp
      · exact Or.inr ⟨_, List.mem_singleton_self _, rfl⟩
    · cases hm

theorem Subscribes.posts {listener : Listener H} (h : b.Subscribes listener b') : b.Posts [] b' := by
  cases h <;> exact .quiet rfl rfl

theorem Opens.posts {now : Nat} {topic : String} {payload : Json} {o : RequestOptions} {t : Traffic}
    {r : Except BusFault Ticket} (h : b.Opens now topic payload o t r b') :
    b.Posts t.entered b' := by
  have hasking (pattern : Pattern) : b.Posts [] (b.asking now topic pattern) := .quiet rfl rfl
  cases h with
  | refused => exact .quiet rfl rfl
  | unpublished pattern => exact (hasking pattern).trans (close_atDesk _ _).posts
  | opened pattern => exact (hasking pattern).trans (publish_posts ..)

theorem attend_posts (b : Bus H) (now : Nat) (t : Ticket) : b.Posts [] (b.attend now t).2 := by
  rcases b.attend_cases now t with ⟨r, -, h⟩ | ⟨-, -, h⟩ | ⟨-, -, -, h⟩ | ⟨-, -, h⟩ <;> rw [h]
  · exact (b.close_atDesk _).posts
  · exact (b.close_atDesk _).posts
  · have hcount : b.Posts [] (b.count fun c => { c with timeouts := c.timeouts + 1 }) :=
      .quiet rfl rfl
    exact hcount.trans (close_atDesk _ _).posts
  · exact .refl b

theorem sweepStale_posts (b : Bus H) (now maxAge : Nat) :
    b.Posts [] (b.sweepStale now maxAge).2 := by
  refine sweepStale_keeps (fun b' e h => ?_) now (.refl b)
  have hcount : b'.Posts [] (b'.count fun c => { c with timeouts := c.timeouts + 1 }) :=
    .quiet rfl rfl
  exact h.trans (hcount.trans (settle_atDesk _ _ _).posts)

theorem shutdown_posts (b : Bus H) : b.Posts b.shutdownTraffic.entered b.shutdown := by
  unfold shutdown shutdownTraffic
  split
  · exact .refl b
  · have hs := (foldl_settle_atDesk b.pending (.error .shutdown) b.emptied).posts
    refine ⟨hs.retried, fun p hp => ?_⟩
    rcases hs.queue p hp with hp | ⟨m, hm, -⟩
    · cases hp
    · cases hm

theorem respond_posts (b : Bus H) (now : Nat) (m : Message) (answer : Json) :
    b.Posts (b.respondTraffic now m answer).entered (b.respond now m answer) := by
  rcases b.respond_cases now m answer with ⟨ht, hb⟩ | ⟨replyTo, c, -, -, ht, hb⟩ <;> rw [ht, hb]
  · exact .refl b
  · exact publish_posts ..

theorem accept_posts (b : Bus H) (pass : Pass H) (id : String) : b.Posts [] (b.accept pass id) :=
  .quiet rfl rfl

theorem Finishes.posts {now : Nat} {ending : Ending} {t : Traffic}
    (h : b.Finishes now ending t b') : b.Posts t.entered b' := by
  cases h with
  | idle => exact .refl b
  | rejected => exact .quiet rfl rfl
  | accepted => exact accept_posts ..
  | answered pass s answer =>
    simpa using (b.respond_posts now pass.parcel.message answer).trans (accept_posts ..)

/-- A parcel taken from the queue leaves the others there. -/
theorem Posts.popped {p : Parcel} {queue : Queue} (hp : b.queue.pop? = some (p, queue))
    (h : Posts { b with queue } [] b') : b.Posts [] b' where
  retried := h.retried
  queue p' hp' := by
    rcases h.queue p' hp' with hp' | ⟨m, hm, -⟩
    · exact Or.inl (Queue.toList_pop hp ▸ List.mem_cons_of_mem _ hp')
    · cases hm

/-! ## Sending back -/

namespace Session

/-- The message that an act sends back to its line. -/
def sentBack? (s : Session H) : Act H → Option String
  | .turn =>
    match s.bus.drainer with
    | .delivering pass =>
      match pass.running, pass.rest, pass.failure with
      | none, [], some _ => if pass.again.canRetry then some pass.parcel.message.id else none
      | _, _, _ => none
    | _ => none
  | _ => none

/-- A pass has failed, and its message goes back to its line. -/
structure SendsBack (s : Session H) (a : Act H) (pass : Pass H) : Prop where
  act : a = .turn
  drainer : s.bus.drainer = .delivering pass
  running : pass.running = none
  rest : pass.rest = []
  failure : pass.failure ≠ none
  canRetry : pass.again.canRetry = true
  retried : (s.step a).bus.counters.retried = s.bus.counters.retried + 1
  queue : ∀ p ∈ (s.step a).bus.queue.toList, p ∈ s.bus.queue.toList ∨
    p = { pass.parcel with message := pass.again }

theorem SendsBack.sentBack? {s : Session H} {a : Act H} {pass : Pass H} (h : SendsBack s a pass) :
    s.sentBack? a = some pass.parcel.message.id := by
  obtain ⟨f, hf⟩ := Option.ne_none_iff_exists'.1 h.failure
  simp [Session.sentBack?, h.act, h.drainer, h.running, h.rest, hf, h.canRetry]

theorem turn_posts (s : Session H) :
    s.sentBack? .turn = none ∧ s.bus.Posts [] (s.step .turn).bus ∨
      ∃ pass, SendsBack s .turn pass := by
  have hturn := s.bus.turn_turns s.now
  rw [← step_turn_bus] at hturn
  generalize s.bus.turnTraffic s.now = t at hturn
  generalize s.bus.handedOver = os at hturn
  generalize hb : (s.step .turn).bus = b at hturn
  cases hturn with
  | idle hd => exact Or.inl ⟨by simp [sentBack?, hd], .refl _⟩
  | busy pass sub hd hrun => exact Or.inl ⟨by simp [sentBack?, hd, hrun], .refl _⟩
  | rested hd => exact Or.inl ⟨by simp [sentBack?, hd], .quiet rfl rfl⟩
  | expired p queue hd hp => exact Or.inl ⟨by simp [sentBack?, hd], .popped hp (.quiet rfl rfl)⟩
  | unheard p queue counters hd hp _ _ _ _ hretried =>
    refine Or.inl ⟨by simp [sentBack?, hd], ?_⟩
    have hs := (settleMessage_atDesk { s.bus with queue, counters } p.message
      (.noSubscriber p.message.topic)).posts
    exact .popped hp ⟨hs.retried.trans hretried, hs.queue⟩
  | begun p queue hd hp => exact Or.inl ⟨by simp [sentBack?, hd], .popped hp (.quiet rfl rfl)⟩
  | processed pass hd hrun hrest hf =>
    exact Or.inl ⟨by simp [sentBack?, hd, hrun, hrest, hf], .quiet rfl rfl⟩
  | retried pass hd hrun hrest hf hretry =>
    refine Or.inr ⟨pass, rfl, hd, hrun, hrest, hf, hretry, ?_, fun p hp => ?_⟩
    · rw [hb, enqueue_retried]
      rfl
    · rw [hb] at hp
      have hwaits := mem_enqueue hp
      exact hwaits
  | failed pass f hd hrun hrest hf hretry =>
    refine Or.inl ⟨by simp [sentBack?, hd, hrun, hrest, hf, hretry], ?_⟩
    have hs := settleMessage_atDesk
      ({ s.bus with drainer := .ready }.count fun c => { c with failed := c.failed + 1 })
      pass.again (.handler f)
    exact ⟨hs.posts.retried, hs.posts.queue⟩
  | skipped pass sub rest hd hrun hrest =>
    exact Or.inl ⟨by simp [sentBack?, hd, hrun, hrest], .quiet rfl rfl⟩
  | replied pass sub rest c hd hrun hrest =>
    refine Or.inl ⟨by simp [sentBack?, hd, hrun, hrest], ?_⟩
    exact (s.bus.settle_atDesk c _).posts.trans (accept_posts ..)
  | passed pass sub rest hd hrun hrest =>
    exact Or.inl ⟨by simp [sentBack?, hd, hrun, hrest], accept_posts ..⟩
  | invoked pass sub rest hd hrun hrest =>
    exact Or.inl ⟨by simp [sentBack?, hd, hrun, hrest], .quiet rfl rfl⟩

/-- **One act** sends at most one message back, and puts nothing else but new
    parcels into the queue. -/
theorem step_posts (s : Session H) (a : Act H) :
    s.sentBack? a = none ∧ s.bus.Posts (s.traffic a).entered (s.step a).bus ∨
      ∃ pass, SendsBack s a pass := by
  by_cases hturn : a = .turn
  · rw [hturn]
    rcases turn_posts s with ⟨hnone, hposts⟩ | hback
    · exact Or.inl ⟨hnone, hposts.retried, fun p hp => Or.inl (by simpa using hposts.queue p hp)⟩
    · exact Or.inr hback
  refine Or.inl ⟨by cases a <;> first | rfl | exact absurd rfl hturn, ?_⟩
  cases a with
  | subscribe topic handler metadata => exact (s.bus.subscribe_subscribes ..).posts
  | subscribePattern pattern handler metadata => exact (s.bus.subscribePattern_subscribes ..).posts
  | serve topic handler metadata => exact (s.bus.subscribe_subscribes ..).posts
  | unsubscribe id => exact (s.bus.unsubscribe_atDesk id).posts
  | unsubscribePlugin plugin => exact (s.bus.unsubscribePlugin_atDesk plugin).posts
  | publish topic payload o => exact publish_posts ..
  | request topic payload o =>
    rw [step_request_bus]
    exact (s.bus.openRequest_opens ..).posts
  | attend n =>
    rcases hn : s.calls.waiting.lookup n with _ | t
    · simpa only [traffic, step, hn] using Posts.refl s.bus
    · have h := s.bus.attend_posts s.now t
      rcases ht : s.bus.attend s.now t with ⟨_ | r, b⟩ <;> rw [ht] at h <;>
        simpa only [traffic, step, hn, ht] using h
  | drop n =>
    rcases hn : s.calls.waiting.lookup n with _ | t
    · simpa only [traffic, step, hn] using Posts.refl s.bus
    · simpa only [traffic, step, hn] using (s.bus.close_atDesk t.correlation).posts
  | sweep maxAge => exact s.bus.sweepStale_posts s.now maxAge
  | shutdown => exact s.bus.shutdown_posts
  | turn => exact absurd rfl hturn
  | finish ending => exact (s.bus.finish_finishes s.now ending).posts
  | wait ms => exact .refl _
  | host present => exact .quiet rfl rfl

/-! ## Ids of what is found -/

/-- The subscriptions that are filed have different ids, all handed out. -/
def Named (b : Bus H) : Prop :=
  ∃ live, b.index.Mirrors live ∧ (live.map (·.id)).Nodup ∧ ∀ sub ∈ live, b.mint.Issued sub.id

theorem step_named {s : Session H} (h : Named s.bus) (a : Act H) : Named (s.step a).bus := by
  obtain ⟨live, hlive, hids, hissued⟩ := h
  have hmint := (s.step_accounts a).mint
  rcases step_index s a with hindex | ⟨sub, hf⟩
  · obtain ⟨live', hsub, hlive'⟩ := hindex live hlive
    exact ⟨live', hlive', hids.sublist (hsub.map _), fun sub hs =>
      hmint.issued (hissued sub (hsub.subset hs))⟩
  · obtain ⟨live', hsub, hlive'⟩ := hf.index _ (hlive.insert hf.parsed)
    have hids' : ((live ++ [sub]).map (·.id)).Nodup :=
      List.nodup_map_concat hids fun sub' hs heq => hf.fresh.1 (heq ▸ hissued sub' hs)
    refine ⟨live', hlive', hids'.sublist (hsub.map _), fun sub' hs => ?_⟩
    rcases List.mem_append.1 (hsub.subset hs) with hs | hs
    · exact hmint.issued (hissued sub' hs)
    · rw [List.mem_singleton.1 hs]
      exact hf.fresh.2

theorem run_named (config : BusConfig) (hosted : Bool) (acts : List (Act H)) :
    Named ((start config hosted).run acts).bus :=
  run_induction (P := fun _ s => Named s.bus)
    ⟨[], Index.mirrors_empty, List.nodup_nil, by simp⟩ (fun _ a h => step_named h a) acts

theorem Named.matching {b : Bus H} (h : Named b) (topic : String) :
    ((b.index.matching topic).map (·.id)).Nodup := by
  obtain ⟨live, hlive, hids, -⟩ := h
  rw [hlive.matching_eq]
  have hperm := List.mergeSort_perm (live.filter (·.pattern.accepts topic))
    fun s t => decide (s.pattern.rank ≤ t.pattern.rank)
  exact (hperm.map _).nodup_iff.2 (hids.sublist (List.filter_sublist.map _))

end Session

end Switchboard.Bus
