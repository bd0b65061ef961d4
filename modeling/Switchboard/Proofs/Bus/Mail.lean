import Switchboard.Proofs.Bus.Calls

/-
  The messages of requests on their way.

  A message that awaits a reply belongs to the request with its correlation id,
  unless somebody has published it under a foreign name.

  * `Act.claim?` is the request that an act speaks for without having made it;
  * `Carries` lists the traffic that acts can have, `entered_cases` and `Leaves`
    tell which messages enter and leave;
  * `Mail`: what is known of a message in flight, at every moment, `run_mail`.
-/

namespace Switchboard.Bus

variable {H : Type}

/-- The correlation id of a message that somebody publishes as a request,
    without making one. -/
def Act.claim? : Act H → Option String
  | .publish _ _ o =>
    match o.replyTo, o.correlation with
    | some _, some c => some c
    | _, _ => none
  | _ => none

namespace Session

/-! ## Entering and leaving -/

theorem publishTraffic_entered {b : Bus H} {now : Nat} {topic : String} {payload : Json}
    {o : PublishOptions} {m : Message}
    (h : m ∈ (b.publishTraffic now topic payload o).entered) :
    ∃ id, m = b.draft id topic payload o now := by
  unfold publishTraffic at h
  split at h
  · cases h
  · exact ⟨_, List.mem_singleton.1 h⟩
  · exact ⟨_, List.mem_singleton.1 h⟩

/-- What the traffic of an act can be. -/
inductive Carries (s : Session H) : Act H → Traffic → Prop
  | nothing (a) : Carries s a {}
  /-- somebody publishes, or a responder answers -/
  | published (a topic payload o) : a ≠ .shutdown →
      (∀ id, (s.bus.draft id topic payload o s.now).awaited? = a.claim?) →
      Carries s a (s.bus.publishTraffic s.now topic payload o)
  | requested (topic payload o t m) : (s.bus.openRequest s.now topic payload o).1 = .ok t →
      m = s.bus.draft t.message topic payload (o.toPublish t.correlation t.replyTopic) s.now →
      Carries s (.request topic payload o) { entered := [m], left := s.bus.ousted (.fresh m) }
  | turned (t os b) : s.bus.Turns s.now t os b → Carries s .turn t
  | shut : s.bus.closed = false →
      Carries s .shutdown
        { left := s.bus.queue.toList.map fun p => (.discarded, p.stamp), shut := true }

theorem carries (s : Session H) (a : Act H) : Carries s a (s.traffic a) := by
  cases a with
  | publish topic payload o => exact .published _ topic payload o (by simp) fun _ => rfl
  | request topic payload o =>
    rcases ht : (s.bus.openRequest s.now topic payload o).1 with f | t
    · simpa only [traffic, requestTraffic, ht] using Carries.nothing _
    · simpa only [traffic, requestTraffic, ht] using Carries.requested topic payload o t _ ht rfl
  | turn => exact .turned _ _ _ (s.bus.turn_turns s.now)
  | finish ending =>
    have hf := s.bus.finish_finishes s.now ending
    change Carries s (.finish ending) (s.bus.finishTraffic s.now ending)
    generalize s.bus.finishTraffic s.now ending = t at hf ⊢
    generalize s.bus.finish s.now ending = b at hf
    cases hf with
    | idle => exact .nothing _
    | rejected => exact .nothing _
    | accepted => exact .nothing _
    | answered pass sub answer =>
      rcases s.bus.respond_cases s.now pass.parcel.message answer with
        ⟨ht, -⟩ | ⟨replyTo, c, -, -, ht, -⟩ <;> rw [ht]
      · exact .nothing _
      · exact .published _ replyTo answer _ (by simp) fun _ => rfl
  | shutdown =>
    change Carries s .shutdown s.bus.shutdownTraffic
    unfold shutdownTraffic
    split
    · exact .nothing _
    · next hclosed => exact .shut (Bool.eq_false_iff.2 hclosed)
  | _ => exact .nothing _

/-- A message that enters speaks for the request that the act claims, or is that
    of a request that the act opens. -/
theorem entered_cases {s : Session H} {a : Act H} {m : Message} (h : m ∈ (s.traffic a).entered) :
    m.awaited? = a.claim? ∨
      ∃ topic payload o t, a = .request topic payload o ∧
        (s.bus.openRequest s.now topic payload o).1 = .ok t ∧
        m = s.bus.draft t.message topic payload (o.toPublish t.correlation t.replyTopic) s.now := by
  have hcarries := carries s a
  generalize s.traffic a = t at h hcarries
  cases hcarries with
  | nothing => cases h
  | published a topic payload o _ hclaim =>
    obtain ⟨id, rfl⟩ := publishTraffic_entered h
    exact Or.inl (hclaim id)
  | requested topic payload o t m' ht hm' =>
    obtain rfl := List.mem_singleton.1 h
    exact Or.inr ⟨topic, payload, o, t, rfl, ht, hm'⟩
  | turned t os b hturn => cases hturn <;> cases h
  | shut => cases h

/-- How a message can leave. -/
inductive Leaves (s : Session H) (m : Message) : Fate → Act H → Prop
  | expired (a) : m.expiresAt ≠ none → Leaves s m .expired a
  | unheard (p queue) : s.bus.drainer = .ready → s.bus.queue.pop? = some (p, queue) →
      s.bus.index.matching m.topic = [] → m = p.stamp → Leaves s m .undeliverable .turn
  | processed (pass) : s.bus.drainer = .delivering pass → pass.running = none → pass.rest = [] →
      pass.failure = none → m = pass.parcel.stamp → Leaves s m .processed .turn
  | failed (pass f) : s.bus.drainer = .delivering pass → pass.running = none → pass.rest = [] →
      pass.failure = some f → pass.again.canRetry = false → m = pass.parcel.stamp →
      Leaves s m .failed .turn
  | overflowed (a) : a ≠ .shutdown → Leaves s m .overflowed a
  | discarded : s.bus.closed = false → Leaves s m .discarded .shutdown

theorem mem_ousted {b : Bus H} {p : Parcel} {f : Fate} {m : Message} (h : (f, m) ∈ b.ousted p) :
    f = .overflowed := by
  unfold ousted at h
  cases hq : (b.queue.join b.config.maxQueueDepth p).1 with
  | none => simp [hq] at h
  | some out => simp [hq] at h; exact h.1

theorem expiresAt_ne_none {m : Message} {now : Int} (h : m.isExpiredAt now = true) :
    m.expiresAt ≠ none := by
  intro hnone
  simp [Message.isExpiredAt, hnone] at h

theorem publishTraffic_left {b : Bus H} {now : Nat} {topic : String} {payload : Json}
    {o : PublishOptions} {f : Fate} {m : Message}
    (h : (f, m) ∈ (b.publishTraffic now topic payload o).left) :
    f = .overflowed ∨ f = .expired ∧ m.expiresAt ≠ none := by
  unfold publishTraffic at h
  rcases b.publish_cases now topic payload o with ⟨f, -, hp⟩ | ⟨he, hp⟩ | ⟨-, hp⟩ <;>
    rw [hp] at h
  · cases h
  · cases List.mem_singleton.1 h
    exact Or.inr ⟨rfl, expiresAt_ne_none he⟩
  · exact Or.inl (mem_ousted h)

theorem leaves {s : Session H} {a : Act H} {f : Fate} {m : Message}
    (h : (f, m) ∈ (s.traffic a).left) : Leaves s m f a := by
  have hcarries := carries s a
  generalize s.traffic a = t at h hcarries
  cases hcarries with
  | nothing => cases h
  | published a topic payload o ha _ =>
    rcases publishTraffic_left h with rfl | ⟨rfl, he⟩
    · exact .overflowed _ ha
    · exact .expired _ he
  | requested =>
    cases mem_ousted h
    exact .overflowed _ (by simp)
  | turned t os b hturn =>
    cases hturn with
    | expired p queue hd hp he =>
      cases List.mem_singleton.1 h
      exact .expired _ (expiresAt_ne_none he)
    | unheard p queue counters hd hp he hnil =>
      cases List.mem_singleton.1 h
      exact .unheard p queue hd hp hnil rfl
    | processed pass hd hrun hrest hf =>
      cases List.mem_singleton.1 h
      exact .processed pass hd hrun hrest hf rfl
    | retried pass hd hrun hrest hf hagain =>
      cases mem_ousted h
      exact .overflowed _ (by simp)
    | failed pass f hd hrun hrest hf hagain =>
      cases List.mem_singleton.1 h
      exact .failed pass f hd hrun hrest hf hagain rfl
    | _ => cases h
  | shut hclosed =>
    obtain ⟨p, -, heq⟩ := List.mem_map.1 h
    cases heq
    exact .discarded hclosed

/-! ## Messages in flight -/

/-- The requests that acts speak for without having made them. -/
def claims (acts : List (Act H)) : List String := acts.filterMap Act.claim?

theorem claims_concat (acts : List (Act H)) (a : Act H) :
    claims (acts ++ [a]) = claims acts ++ a.claim?.toList := by
  simp only [claims, List.filterMap_append]
  cases h : a.claim? <;> simp [h]

/-- What is known of a message on its way. -/
structure Mail (claims : List String) (opened : List (Nat × Ticket)) (mint : Mint)
    (m : Message) : Prop where
  issued : mint.Issued m.id
  /-- it is that of the request it speaks for, unless somebody else claims to be -/
  awaited : ∀ c, m.awaited? = some c →
    c ∈ claims ∨ ∃ x ∈ opened, x.2.correlation = c ∧ x.2.message = m.id
  /-- the message of a request speaks for it, and does not expire -/
  known : ∀ x ∈ opened, x.2.message = m.id →
    m.awaited? = some x.2.correlation ∧ m.topic = x.2.topic ∧ m.expiresAt = none

/-- The requests opened by an act. -/
theorem opened_step (s : Session H) (a : Act H) :
    (s.step a).calls.opened = s.calls.opened ∨
      ∃ topic payload o t, a = .request topic payload o ∧
        (s.bus.openRequest s.now topic payload o).1 = .ok t ∧
        (s.step a).calls.opened = s.calls.opened ++ [(s.calls.made, t)] := by
  have h := callStep s a
  generalize s.step a = s' at h
  cases h with
  | settled a s' hcalls => exact Or.inl (by rw [hcalls])
  | begun topic payload o s' hopen hcalls =>
    exact Or.inr ⟨topic, payload, o, _, rfl, hopen, by rw [hcalls]; rfl⟩
  | refused topic payload o f s' _ hcalls => exact Or.inl (by rw [hcalls]; rfl)
  | answered n t r s' _ _ hcalls => exact Or.inl (by rw [hcalls]; rfl)
  | dropped n t s' _ hcalls => exact Or.inl (by rw [hcalls]; rfl)

/-- A request that is open after an act was open before, or is opened by it. -/
theorem mem_opened {s : Session H} {a : Act H} {x : Nat × Ticket}
    (hx : x ∈ (s.step a).calls.opened) : x ∈ s.calls.opened ∨
      ∃ topic payload o, a = .request topic payload o ∧
        (s.bus.openRequest s.now topic payload o).1 = .ok (s.bus.ticket s.now topic o) ∧
        x = (s.calls.made, s.bus.ticket s.now topic o) := by
  rcases opened_step s a with ho | ⟨topic, payload, o, t, ha, hopen, ho⟩ <;> rw [ho] at hx
  · exact Or.inl hx
  · refine (List.mem_append.1 hx).imp_right fun hx => ?_
    obtain rfl := List.mem_singleton.1 hx
    obtain rfl := ticket_of_openRequest hopen
    exact ⟨topic, payload, o, ha, hopen, rfl⟩

theorem calls_of_openRequest {s : Session H} {topic : String} {payload : Json}
    {o : RequestOptions} {t : Ticket} (h : (s.bus.openRequest s.now topic payload o).1 = .ok t) :
    (s.step (.request topic payload o)).calls = s.calls.begin t := by
  rcases hopen : s.bus.openRequest s.now topic payload o with ⟨r, b⟩
  rw [hopen] at h
  cases h
  simp only [step, hopen]

theorem opened_subset (s : Session H) (a : Act H) :
    s.calls.opened ⊆ (s.step a).calls.opened := by
  rcases opened_step s a with h | ⟨topic, payload, o, t, -, -, h⟩ <;> rw [h]
  · exact List.Subset.refl _
  · exact List.subset_append_left _ _

/-- A message that enters belongs to no request opened before. -/
theorem message_ne_of_entered {s : Session H} {a : Act H} {m : Message} {x : Nat × Ticket}
    (h : InOrder s.calls s.bus.desk s.bus.mint) (hm : m ∈ (s.traffic a).entered)
    (hx : x ∈ s.calls.opened) : x.2.message ≠ m.id := fun heq =>
  ((s.step_accounts a).fresh m hm).1 (heq ▸ (h.issued x hx).2)

/-- What is in flight was in flight, or enters. -/
theorem flight_subset (s : Session H) (a : Act H) :
    (s.step a).bus.flight ⊆ s.bus.flight ++ (s.traffic a).entered := fun _ hm =>
  (s.step_accounts a).flight.mem_iff.2 (List.mem_append_left _ hm)

/-- What leaves was in flight, or enters. -/
theorem left_subset (s : Session H) (a : Act H) :
    (s.traffic a).left.map (·.2) ⊆ s.bus.flight ++ (s.traffic a).entered := fun _ hm =>
  (s.step_accounts a).flight.mem_iff.2 (List.mem_append_right _ hm)

/-- **One act.**  What is known of the messages in flight stays known, and is
    known of the one that enters. -/
theorem step_mail {s : Session H} {acts : List (Act H)}
    (h : InOrder s.calls s.bus.desk s.bus.mint)
    (hmail : ∀ m ∈ s.bus.flight, Mail (claims acts) s.calls.opened s.bus.mint m) (a : Act H) :
    ∀ m ∈ s.bus.flight ++ (s.traffic a).entered,
      Mail (claims (acts ++ [a])) (s.step a).calls.opened (s.step a).bus.mint m := by
  have haccounts := s.step_accounts a
  have hsubset := opened_subset s a
  rw [claims_concat]
  intro m hm
  rcases List.mem_append.1 hm with hm | hm
  · obtain ⟨hissued, hawaited, hknown⟩ := hmail m hm
    refine ⟨haccounts.mint.issued hissued, fun c hc => ?_, fun x hx hxm => ?_⟩
    · rcases hawaited c hc with hc | ⟨x, hx, hxc, hxm⟩
      · exact Or.inl (List.mem_append_left _ hc)
      · exact Or.inr ⟨x, hsubset hx, hxc, hxm⟩
    · rcases mem_opened hx with hx | ⟨topic, payload, o, rfl, hopen, rfl⟩
      · exact hknown x hx hxm
      · -- the identifier of the new message is new
        have hfresh := haccounts.fresh _ (request_entered hopen ▸ List.mem_singleton_self _)
        exact absurd (hxm ▸ hissued) hfresh.1
  · have hfresh := haccounts.fresh m hm
    refine ⟨hfresh.2, fun c hc => ?_, fun x hx hxm => ?_⟩
    · rcases entered_cases hm with hclaim | ⟨topic, payload, o, t, rfl, hopen, rfl⟩
      · rw [hclaim] at hc
        exact Or.inl (List.mem_append_right _ (by simp [hc]))
      · cases hc
        exact Or.inr ⟨_, by rw [calls_of_openRequest hopen]; exact List.mem_concat_self, rfl, rfl⟩
    · rcases mem_opened hx with hx | ⟨topic, payload, o, rfl, hopen, rfl⟩
      · exact absurd hxm (message_ne_of_entered h hm hx)
      · rw [request_entered hopen] at hm
        obtain rfl := List.mem_singleton.1 hm
        exact ⟨rfl, rfl, rfl⟩

theorem run_mail (config : BusConfig) (hosted : Bool) (acts : List (Act H)) :
    ∀ m ∈ ((start config hosted).run acts).bus.flight,
      Mail (claims acts) ((start config hosted).run acts).calls.opened
        ((start config hosted).run acts).bus.mint m := by
  refine run_induction (P := fun acts s => ∀ m ∈ s.bus.flight,
    Mail (claims acts) s.calls.opened s.bus.mint m) (fun m hm => ?_) (fun acts a h => ?_) acts
  · cases hm
  · exact fun m hm => step_mail (run_inOrder config hosted acts) h a m (flight_subset _ a hm)

/-- Nobody else speaks for these requests. -/
def Honest (claims : List String) (opened : List (Nat × Ticket)) : Prop :=
  ∀ c ∈ claims, ∀ x ∈ opened, x.2.correlation ≠ c

theorem opened_subset_run (s : Session H) (acts : List (Act H)) :
    s.calls.opened ⊆ (s.run acts).calls.opened := by
  induction acts generalizing s with
  | nil => exact List.Subset.refl _
  | cons a acts ih => exact List.Subset.trans (opened_subset s a) (ih (s.step a))

/-- Who is honest in the end has been honest all the time. -/
theorem Honest.before {s : Session H} {acts acts' : List (Act H)}
    (h : Honest (claims (acts ++ acts')) (s.run (acts ++ acts')).calls.opened) :
    Honest (claims acts) (s.run acts).calls.opened := by
  intro c hc x hx
  have hc' : c ∈ claims (acts ++ acts') := by
    rw [claims, List.filterMap_append]
    exact List.mem_append_left _ hc
  have hx' : x ∈ (s.run (acts ++ acts')).calls.opened := by
    rw [run_append]
    exact opened_subset_run _ acts' hx
  exact h c hc' x hx'

/-- Where nobody else speaks for a request, its message does. -/
theorem Mail.owner {claims : List String} {k : Calls} {d : Desk} {mint mint' : Mint} {m : Message}
    (hm : Mail claims k.opened mint' m) (h : InOrder k d mint) (honest : Honest claims k.opened)
    {x : Nat × Ticket} (hx : x ∈ k.opened) (hc : m.awaited? = some x.2.correlation) :
    x.2.message = m.id := by
  rcases hm.awaited _ hc with hclaim | ⟨y, hy, hyc, hym⟩
  · exact absurd rfl (honest _ hclaim x hx)
  · rw [h.eq_of_correlation hx hy hyc.symm]
    exact hym

end Session

end Switchboard.Bus
