import Switchboard.Proofs.Bus.Mail

/-
  What the subscriptions of a bus listen on.

  * `Tuned`: a reply subscription listens on the reply topic of its request;
  * `Listening`: every subscription that is filed is tuned, and those that a
    delivery is still to reach accept its topic.  It holds after every run,
    `run_listening`.
-/

namespace Switchboard

variable {H : Type}

/-- What is found on a topic is live and accepts the topic. -/
theorem Index.Mirrors.mem_matching {x : Index H} {live : List (Subscription H)}
    (h : x.Mirrors live) {topic : String} {s : Subscription H} (hs : s ∈ x.matching topic) :
    s ∈ live ∧ s.pattern.accepts topic = true := by
  rw [h.matching_eq, List.mem_mergeSort] at hs
  exact List.mem_filter.1 hs

namespace Bus

/-! ## The delivery under way -/

theorem sweepStale_drainer (b : Bus H) (now maxAge : Nat) :
    (b.sweepStale now maxAge).2.drainer = b.drainer :=
  sweepStale_keeps (P := fun b' => b'.drainer = b.drainer)
    (fun _ _ h => (settle_atDesk _ _ _).drainer.trans h) now rfl

theorem shutdown_drainer (b : Bus H) : b.shutdown.drainer = b.drainer := by
  unfold shutdown
  split
  · rfl
  · exact (foldl_settle_atDesk b.pending (.error .shutdown) b.emptied).drainer

theorem pass?_congr {b b' : Bus H} (h : b'.drainer = b.drainer) : b'.pass? = b.pass? := by
  simp only [pass?, h]

theorem Subscribes.drainer {b b' : Bus H} {listener : Listener H} (h : b.Subscribes listener b') :
    b'.drainer = b.drainer := by
  cases h <;> rfl

theorem Opens.pass? {b b' : Bus H} {now : Nat} {topic : String} {payload : Json}
    {o : RequestOptions} {t : Traffic} {r : Except BusFault Ticket}
    (h : b.Opens now topic payload o t r b') : b'.pass? = b.pass? := by
  cases h with
  | refused => rfl
  | unpublished pattern => exact pass?_congr ((b.asking now topic pattern).close_atDesk _).drainer
  | opened pattern => exact (b.asking now topic pattern).publish_pass? ..

theorem attend_drainer (b : Bus H) (now : Nat) (t : Ticket) :
    (b.attend now t).2.drainer = b.drainer := by
  rcases b.attend_cases now t with ⟨r, -, h⟩ | ⟨-, -, h⟩ | ⟨-, -, -, h⟩ | ⟨-, -, h⟩ <;> rw [h]
  · exact (b.close_atDesk _).drainer
  · exact (b.close_atDesk _).drainer
  · exact (close_atDesk _ _).drainer

namespace Session

/-- Only the drainer and the handlers it runs change the delivery under way. -/
theorem step_pass? (s : Session H) {a : Act H} (hturn : a ≠ .turn)
    (hfinish : ∀ ending, a ≠ .finish ending) : (s.step a).bus.pass? = s.bus.pass? := by
  cases a with
  | subscribe topic handler metadata => exact pass?_congr (s.bus.subscribe_subscribes ..).drainer
  | subscribePattern pattern handler metadata =>
    exact pass?_congr (s.bus.subscribePattern_subscribes ..).drainer
  | serve topic handler metadata => exact pass?_congr (s.bus.subscribe_subscribes ..).drainer
  | unsubscribe id => exact pass?_congr (s.bus.unsubscribe_atDesk id).drainer
  | unsubscribePlugin plugin => rfl
  | publish topic payload o => exact s.bus.publish_pass? ..
  | request topic payload o =>
    rw [step_request_bus]
    exact (s.bus.openRequest_opens ..).pass?
  | attend n =>
    rcases hn : s.calls.waiting.lookup n with _ | t
    · simp only [step, hn]
    · have h := pass?_congr (s.bus.attend_drainer s.now t)
      rcases ht : s.bus.attend s.now t with ⟨_ | r, b⟩ <;> rw [ht] at h <;>
        simpa only [step, hn, ht] using h
  | drop n =>
    rcases hn : s.calls.waiting.lookup n with _ | t
    · simp only [step, hn]
    · simpa only [step, hn] using pass?_congr (s.bus.close_atDesk t.correlation).drainer
  | sweep maxAge => exact pass?_congr (s.bus.sweepStale_drainer s.now maxAge)
  | shutdown => exact pass?_congr s.bus.shutdown_drainer
  | turn => exact absurd rfl hturn
  | finish ending => exact absurd rfl (hfinish ending)
  | wait ms => rfl
  | host present => rfl

end Session

/-- How a delivery goes on: its pass and the failures so far, before and after. -/
inductive Moves (pass : Pass H) (fs : List (String × HandlerFault)) :
    Pass H → List (String × HandlerFault) → Prop
  /-- the next subscription has accepted the message before -/
  | skipped (sub rest) : pass.running = none → pass.rest = sub :: rest →
      sub.id ∈ pass.parcel.accepted → Moves pass fs { pass with rest } fs
  /-- it accepts the message without a handler -/
  | passed (sub rest) : pass.running = none → pass.rest = sub :: rest →
      Moves pass fs
        { pass with
          rest, running := none
          parcel := { pass.parcel with accepted := pass.parcel.accepted ++ [sub.id] } } fs
  | invoked (sub rest) : pass.running = none → pass.rest = sub :: rest →
      Moves pass fs { pass with rest, running := some sub } fs
  /-- the handler that is running succeeds -/
  | accepted (sub) : pass.running = some sub →
      Moves pass fs
        { pass with
          running := none
          parcel := { pass.parcel with accepted := pass.parcel.accepted ++ [sub.id] } } fs
  | rejected (sub) (f : HandlerFault) : pass.running = some sub →
      Moves pass fs { pass with running := none, failure := pass.failure.or f }
        (fs ++ [(sub.id, f)])

/-- The message stays the same, and nobody joins. -/
theorem Moves.frame {pass pass' : Pass H} {fs fs' : List (String × HandlerFault)}
    (h : Moves pass fs pass' fs') :
    pass'.rest ⊆ pass.rest ∧ pass'.parcel.message = pass.parcel.message := by
  cases h with
  | skipped sub rest _ hrest => exact ⟨by rw [hrest]; exact List.subset_cons_self _ _, rfl⟩
  | passed sub rest _ hrest => exact ⟨by rw [hrest]; exact List.subset_cons_self _ _, rfl⟩
  | invoked sub rest _ hrest => exact ⟨by rw [hrest]; exact List.subset_cons_self _ _, rfl⟩
  | accepted => exact ⟨List.Subset.refl _, rfl⟩
  | rejected => exact ⟨List.Subset.refl _, rfl⟩

namespace Session

/-- What an act can do to the delivery under way. -/
inductive PassStep (s s' : Session H) : Prop
  | kept : s'.bus.pass? = s.bus.pass? → s'.matched = s.matched → s'.faults = s.faults →
      PassStep s s'
  /-- no delivery is under way afterwards -/
  | gone : s'.bus.pass? = none → PassStep s s'
  | begun (p) : s'.bus.pass? = some ⟨p, s.bus.index.matching p.message.topic, none, none⟩ →
      s'.matched = (s.bus.index.matching p.message.topic).map (·.id) → s'.faults = [] →
      PassStep s s'
  | moved (pass pass') : s.bus.pass? = some pass → s'.bus.pass? = some pass' →
      s'.matched = s.matched → Moves pass s.faults pass' s'.faults → PassStep s s'

theorem memory_of_ready {s : Session H} (h : s.bus.drainer = .ready) :
    (s.step .turn).matched = s.bus.audience.map (·.id) ∧ (s.step .turn).faults = [] := by
  constructor <;> simp only [step, h]

theorem memory_of_not_ready {s : Session H} (h : s.bus.drainer ≠ .ready) :
    (s.step .turn).matched = s.matched ∧ (s.step .turn).faults = s.faults := by
  rcases hd : s.bus.drainer with _ | _ | pass
  · constructor <;> simp only [step, hd]
  · exact absurd hd h
  · constructor <;> simp only [step, hd]

theorem passStep_turn (s : Session H) : PassStep s (s.step .turn) := by
  have hturn := s.bus.turn_turns s.now
  rw [← step_turn_bus] at hturn
  generalize s.bus.turnTraffic s.now = t at hturn
  generalize s.bus.handedOver = os at hturn
  have hmoved {pass pass' : Pass H} (hd : s.bus.drainer = .delivering pass)
      (hd' : (s.step .turn).bus.drainer = .delivering pass')
      (hm : Moves pass s.faults pass' s.faults) : PassStep s (s.step .turn) := by
    obtain ⟨hmatched, hfaults⟩ := memory_of_not_ready (s := s) (by rw [hd]; simp)
    exact .moved pass pass' (pass?_eq_some.2 hd) (pass?_eq_some.2 hd') hmatched (hfaults ▸ hm)
  generalize hb : (s.step .turn).bus = b at hturn hmoved
  have hgone (h : ∀ pass, b.drainer ≠ .delivering pass) : PassStep s (s.step .turn) := by
    refine .gone ?_
    rw [hb, Option.eq_none_iff_forall_ne_some]
    exact fun pass hpass => h pass (pass?_eq_some.1 hpass)
  cases hturn with
  | idle hd => exact hgone (by simp [hd])
  | busy pass sub hd =>
    obtain ⟨hmatched, hfaults⟩ := memory_of_not_ready (s := s) (by rw [hd]; simp)
    exact .kept (by rw [hb]) hmatched hfaults
  | rested hd => exact hgone (by simp)
  | expired p queue hd => exact hgone (by simp [hd, count])
  | unheard p queue counters hd =>
    refine hgone ?_
    rw [(settleMessage_atDesk _ _ _).drainer]
    simp [hd]
  | begun p queue hd hp =>
    obtain ⟨hmatched, hfaults⟩ := memory_of_ready hd
    exact .begun p (by rw [hb]; rfl) (by rw [hmatched, audience, hp]) hfaults
  | processed pass hd => exact hgone (by simp [count])
  | retried pass hd => exact hgone (by rw [(enqueue_joins _ _).drainer]; simp [count])
  | failed pass f hd =>
    refine hgone ?_
    rw [(settleMessage_atDesk _ _ _).drainer]
    simp [count]
  | skipped pass sub rest hd hrun hrest hid =>
    exact hmoved hd rfl (.skipped sub rest hrun hrest hid)
  | replied pass sub rest c hd hrun hrest => exact hmoved hd rfl (.passed sub rest hrun hrest)
  | passed pass sub rest hd hrun hrest => exact hmoved hd rfl (.passed sub rest hrun hrest)
  | invoked pass sub rest hd hrun hrest => exact hmoved hd rfl (.invoked sub rest hrun hrest)

theorem passStep_finish (s : Session H) (ending : Ending) : PassStep s (s.step (.finish ending)) := by
  have hf := s.bus.finish_finishes s.now ending
  generalize s.bus.finishTraffic s.now ending = t at hf
  have hfaults : (s.step (.finish ending)).faults = s.faults ++ s.bus.faultBy ending := rfl
  have hmatched : (s.step (.finish ending)).matched = s.matched := rfl
  have hbus : (s.step (.finish ending)).bus = s.bus.finish s.now ending := rfl
  generalize s.bus.finish s.now ending = b at hf hbus
  have hby {pass : Pass H} {sub : Subscription (Listener H)} (hd : s.bus.drainer = .delivering pass)
      (hrun : pass.running = some sub) :
      s.bus.faultBy ending = ((faultOf sub ending).map fun f => (sub.id, f)).toList := by
    simp only [faultBy, running?, hd, hrun]
  cases hf with
  | idle hidle => exact .kept (by rw [hbus]) hmatched (by simp [hfaults, faultBy, hidle])
  | rejected pass sub f hd hrun hfault =>
    refine .moved pass _ (pass?_eq_some.2 hd) (pass?_eq_some.2 (by rw [hbus]; rfl)) hmatched ?_
    rw [hfaults, hby hd hrun, hfault]
    exact .rejected sub f hrun
  | accepted pass sub hd hrun hfault =>
    refine .moved pass _ (pass?_eq_some.2 hd) (pass?_eq_some.2 (by rw [hbus]; rfl)) hmatched ?_
    rw [hfaults, hby hd hrun, hfault, Option.map_none, Option.toList_none, List.append_nil]
    exact .accepted sub hrun
  | answered pass sub answer hd hrun hfault =>
    refine .moved pass _ (pass?_eq_some.2 hd) (pass?_eq_some.2 (by rw [hbus]; rfl)) hmatched ?_
    rw [hfaults, hby hd hrun, hfault, Option.map_none, Option.toList_none, List.append_nil]
    exact .accepted sub hrun

theorem memory_of_other (s : Session H) {a : Act H} (hturn : a ≠ .turn)
    (hfinish : ∀ ending, a ≠ .finish ending) :
    (s.step a).matched = s.matched ∧ (s.step a).faults = s.faults := by
  cases a with
  | turn => exact absurd rfl hturn
  | finish ending => exact absurd rfl (hfinish ending)
  | request topic payload o =>
    rcases h : s.bus.openRequest s.now topic payload o with ⟨f | t, b⟩ <;>
      constructor <;> simp only [step, h]
  | attend n =>
    rcases hn : s.calls.waiting.lookup n with _ | t
    · constructor <;> simp only [step, hn]
    · rcases ht : s.bus.attend s.now t with ⟨_ | r, b⟩ <;> constructor <;> simp only [step, hn, ht]
  | drop n =>
    rcases hn : s.calls.waiting.lookup n with _ | t <;> constructor <;> simp only [step, hn]
  | _ => exact ⟨rfl, rfl⟩

/-- Every act does one of these to the delivery under way. -/
theorem passStep (s : Session H) (a : Act H) : PassStep s (s.step a) := by
  by_cases hturn : a = .turn
  · rw [hturn]
    exact passStep_turn s
  by_cases hfinish : ∃ ending, a = .finish ending
  · obtain ⟨ending, rfl⟩ := hfinish
    exact passStep_finish s ending
  · have hfinish' : ∀ ending, a ≠ .finish ending := fun ending h => hfinish ⟨ending, h⟩
    obtain ⟨hmatched, hfaults⟩ := memory_of_other s hturn hfinish'
    exact .kept (step_pass? s hturn hfinish') hmatched hfaults

/-! ## What is filed -/

/-- A subscription that is filed in this state, and what follows if it is the
    reply subscription of a request. -/
structure Files (b : Bus H) (sub : Subscription (Listener H)) (b' : Bus H) : Prop where
  fresh : ¬ b.mint.Issued sub.id ∧ b'.mint.Issued sub.id
  parsed : sub.pattern.Parsed
  index : (b.index.insert sub).Thins b'.index
  reply : ∀ c, sub.handler = .reply c → c = b.mint.take.1 ∧
    Pattern.parse b.replyTopic = .ok sub.pattern ∧ b.mint.advance.Reaches b'.mint

theorem subscribes_index {b b' : Bus H} {listener : Listener H} (h : b.Subscribes listener b')
    (hlistener : ∀ c, listener ≠ .reply c) : b.index.Thins b'.index ∨ ∃ sub, Files b sub b' := by
  cases h with
  | refused => exact Or.inl (.refl _)
  | added p metadata hp =>
    exact Or.inr ⟨_, ⟨b.mint.not_issued_take, b.mint.issued_take⟩, hp, .refl _,
      fun c hc => absurd hc (hlistener c)⟩

theorem opens_index {b b' : Bus H} {now : Nat} {topic : String} {payload : Json}
    {o : RequestOptions} {t : Traffic} {r : Except BusFault Ticket}
    (h : b.Opens now topic payload o t r b') :
    b.index.Thins b'.index ∨ ∃ sub, Files b sub b' := by
  have hreach : b.mint.advance.Reaches b.mint.advance.advance.advance :=
    b.mint.advance.reaches_advance.trans b.mint.advance.advance.reaches_advance
  cases h with
  | refused => exact Or.inl (.refl _)
  | unpublished pattern f hp =>
    have hnew := b.replyListener_not_issued topic pattern
    have hissued := b.asking_issued now topic pattern
    have hclose := (b.asking now topic pattern).close_atDesk b.mint.take.1
    refine Or.inr ⟨b.replyListener topic pattern, ⟨hnew, hclose.mint ▸ hissued⟩,
      Pattern.parsed_of_parse (parse_of_address hp), hclose.index, fun c hc => ?_⟩
    cases hc
    exact ⟨rfl, parse_of_address hp, by rw [hclose.mint]; exact hreach⟩
  | opened pattern hp =>
    have hnew := b.replyListener_not_issued topic pattern
    have hissued := b.asking_issued now topic pattern
    have he := (b.asking now topic pattern).publish_effect now topic payload
      (o.toPublish b.mint.take.1 b.replyTopic)
    refine Or.inr ⟨b.replyListener topic pattern, ⟨hnew, he.mint.issued hissued⟩,
      Pattern.parsed_of_parse (parse_of_address hp), he.index, fun c hc => ?_⟩
    cases hc
    exact ⟨rfl, parse_of_address hp, hreach.trans he.mint⟩

theorem attend_index (b : Bus H) (now : Nat) (t : Ticket) :
    b.index.Thins (b.attend now t).2.index := by
  rcases b.attend_cases now t with ⟨r, -, h⟩ | ⟨-, -, h⟩ | ⟨-, -, -, h⟩ | ⟨-, -, h⟩ <;> rw [h]
  · exact (b.close_atDesk _).index
  · exact (b.close_atDesk _).index
  · exact b.countTimeout_effect.index.trans (close_atDesk _ _).index
  · exact .refl _

/-- An act files at most one subscription. -/
theorem step_index (s : Session H) (a : Act H) :
    s.bus.index.Thins (s.step a).bus.index ∨ ∃ sub, Files s.bus sub (s.step a).bus := by
  cases a with
  | subscribe topic handler metadata =>
    exact subscribes_index (s.bus.subscribe_subscribes ..) (by simp)
  | subscribePattern pattern handler metadata =>
    exact subscribes_index (s.bus.subscribePattern_subscribes ..) (by simp)
  | serve topic handler metadata =>
    exact subscribes_index (s.bus.subscribe_subscribes ..) (by simp)
  | unsubscribe id => exact Or.inl (s.bus.unsubscribe_atDesk id).index
  | unsubscribePlugin plugin => exact Or.inl (s.bus.unsubscribePlugin_atDesk plugin).index
  | publish topic payload o => exact Or.inl (s.bus.publish_effect ..).index
  | request topic payload o =>
    rw [step_request_bus]
    exact opens_index (s.bus.openRequest_opens ..)
  | attend n =>
    refine Or.inl ?_
    rcases hn : s.calls.waiting.lookup n with _ | t
    · simpa only [step, hn] using Index.Thins.refl _
    · have h := attend_index s.bus s.now t
      rcases ht : s.bus.attend s.now t with ⟨_ | r, b⟩ <;> rw [ht] at h <;>
        simpa only [step, hn, ht] using h
  | drop n =>
    refine Or.inl ?_
    rcases hn : s.calls.waiting.lookup n with _ | t
    · simpa only [step, hn] using Index.Thins.refl _
    · simpa only [step, hn] using (s.bus.close_atDesk t.correlation).index
  | sweep maxAge => exact Or.inl (s.bus.sweepStale_effect s.now maxAge).index
  | shutdown => exact Or.inl s.bus.shutdown_effect.index
  | turn =>
    rw [step_turn_bus]
    exact Or.inl (s.bus.turn_turns s.now).effect.index
  | finish ending => exact Or.inl (s.bus.finish_finishes s.now ending).effect.index
  | wait ms => exact Or.inl (.refl _)
  | host present => exact Or.inl (.refl _)

/-! ## Tuned subscriptions -/

/-- A reply subscription listens on the reply topic of its request. -/
structure Tuned (opened : List (Nat × Ticket)) (mint : Mint) (sub : Subscription (Listener H)) :
    Prop where
  issued : ∀ c, sub.handler = .reply c → mint.Issued c
  pattern : ∀ c, sub.handler = .reply c → ∀ x ∈ opened, x.2.correlation = c →
    Pattern.parse x.2.replyTopic = .ok sub.pattern

/-- Whatever is opened later has other identifiers. -/
theorem Tuned.step {s : Session H} {sub : Subscription (Listener H)}
    (h : Tuned s.calls.opened s.bus.mint sub) (a : Act H) :
    Tuned (s.step a).calls.opened (s.step a).bus.mint sub where
  issued c hc := (s.step_accounts a).mint.issued (h.issued c hc)
  pattern c hc x hx hxc := by
    rcases mem_opened hx with hx | ⟨topic, payload, o, -, -, rfl⟩
    · exact h.pattern c hc x hx hxc
    · obtain rfl : s.bus.mint.take.1 = c := hxc
      exact absurd (h.issued _ hc) s.bus.mint.not_issued_take

/-- The subscription that an act files. -/
theorem Files.tuned {s : Session H} {a : Act H} {sub : Subscription (Listener H)}
    (h : InOrder s.calls s.bus.desk s.bus.mint) (hf : Files s.bus sub (s.step a).bus) :
    Tuned (s.step a).calls.opened (s.step a).bus.mint sub where
  issued c hc := by
    obtain ⟨rfl, -, hreach⟩ := hf.reply c hc
    exact hreach.issued s.bus.mint.issued_take
  pattern c hc x hx hxc := by
    obtain ⟨rfl, hparse, -⟩ := hf.reply c hc
    rcases mem_opened hx with hx | ⟨topic, payload, o, -, -, rfl⟩
    · exact absurd (hxc ▸ (h.issued x hx).1) s.bus.mint.not_issued_take
    · exact hparse

/-- Every subscription that is filed is tuned, and those that the delivery
    under way is still to reach accept its topic. -/
structure Listening (s : Session H) : Prop where
  filed : ∃ live, s.bus.index.Mirrors live ∧ ∀ sub ∈ live, Tuned s.calls.opened s.bus.mint sub
  rest : ∀ pass, s.bus.pass? = some pass → ∀ sub ∈ pass.rest,
    Tuned s.calls.opened s.bus.mint sub ∧
      sub.pattern.accepts pass.parcel.message.topic = true

theorem step_listening {s : Session H} (h : InOrder s.calls s.bus.desk s.bus.mint)
    (hl : Listening s) (a : Act H) : Listening (s.step a) where
  filed := by
    obtain ⟨live, hlive, htuned⟩ := hl.filed
    rcases step_index s a with hindex | ⟨sub, hf⟩
    · obtain ⟨live', hsub, hlive'⟩ := hindex live hlive
      exact ⟨live', hlive', fun sub hs => (htuned sub (hsub.subset hs)).step a⟩
    · obtain ⟨live', hsub, hlive'⟩ := hf.index _ (hlive.insert hf.parsed)
      refine ⟨live', hlive', fun sub' hs => ?_⟩
      rcases List.mem_append.1 (hsub.subset hs) with hs | hs
      · exact (htuned sub' hs).step a
      · rw [List.mem_singleton.1 hs]
        exact hf.tuned h
  rest pass' hpass sub hsub := by
    have hold : ∀ pass, s.bus.pass? = some pass → pass'.rest ⊆ pass.rest →
        pass'.parcel.message = pass.parcel.message →
        Tuned (s.step a).calls.opened (s.step a).bus.mint sub ∧
          sub.pattern.accepts pass'.parcel.message.topic = true := by
      intro pass hp hrest hm
      obtain ⟨htuned, haccepts⟩ := hl.rest pass hp sub (hrest hsub)
      exact ⟨htuned.step a, hm ▸ haccepts⟩
    have hstep := passStep s a
    generalize hs' : s.step a = s' at hstep hpass hold ⊢
    cases hstep with
    | kept hkept => exact hold pass' (hkept ▸ hpass) (List.Subset.refl _) rfl
    | gone hgone => rw [hgone] at hpass; cases hpass
    | begun p hbegun =>
      rw [hbegun] at hpass
      cases hpass
      obtain ⟨live, hlive, htuned⟩ := hl.filed
      obtain ⟨hmem, haccepts⟩ := hlive.mem_matching hsub
      exact ⟨hs' ▸ (htuned sub hmem).step a, haccepts⟩
    | moved pass pass'' hp hp' _ hmoves =>
      rw [hp'] at hpass
      cases hpass
      obtain ⟨hrest, hm⟩ := hmoves.frame
      exact hold pass hp hrest hm

theorem run_listening (config : BusConfig) (hosted : Bool) (acts : List (Act H)) :
    Listening ((start config hosted).run acts) := by
  refine run_induction (P := fun _ s => Listening s) ?_ (fun acts a h => ?_) acts
  · exact ⟨⟨[], Index.mirrors_empty, by simp⟩, fun pass hpass => by cases hpass⟩
  · exact step_listening (run_inOrder config hosted acts) h a

end Session

end Bus

end Switchboard
