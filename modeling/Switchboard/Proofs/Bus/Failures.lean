import Switchboard.Proofs.Bus.Settlement
import Switchboard.Proofs.Table

/-
  Failures — a failure of transport reaches the request that waits.

  * `Progress`: how far the delivery under way has come, and in what order its
    failures were met;
  * `left_settles`: a message that leaves undelivered settles its request in the
    same act;
  * `Whereabouts`: where the message of a pending request is;
  * `failure_reported`: both, after every run.
-/

namespace Switchboard.Bus.Session

variable {H : Type}

/-! ## The delivery under way -/

/-- How far a delivery has come: whoever matched has accepted the message, is
    still to be reached or has failed; the first failure is the one that
    counts, and failures come in match order. -/
structure Progress (matched : List String) (faults : List (String × HandlerFault))
    (pass : Pass H) : Prop where
  reached : ∀ id ∈ matched, id ∈ pass.parcel.accepted ∨ id ∈ pass.rest.map (·.id) ∨
    id ∈ pass.running.toList.map (·.id) ∨ pass.failure ≠ none
  first : pass.failure = faults.head?.map (·.2)
  order : (faults.map (·.1) ++ pass.running.toList.map (·.id) ++ pass.rest.map (·.id)).Sublist
    matched

/-- Whoever matched and is not the next subscription. -/
theorem Progress.reached_cons {matched : List String} {fs : List (String × HandlerFault)}
    {pass : Pass H} (h : Progress matched fs pass) {sub : Subscription (Listener H)}
    {rest : List (Subscription (Listener H))} (hrun : pass.running = none)
    (hrest : pass.rest = sub :: rest) {id : String} (hid : id ∈ matched) :
    id = sub.id ∨ id ∈ pass.parcel.accepted ∨ id ∈ rest.map (·.id) ∨ pass.failure ≠ none := by
  rcases h.reached id hid with h | h | h | h
  · exact Or.inr (Or.inl h)
  · rw [hrest, List.map_cons] at h
    exact (List.mem_cons.1 h).imp_right fun h => Or.inr (Or.inl h)
  · rw [hrun] at h
    cases h
  · exact Or.inr (Or.inr (Or.inr h))

theorem Progress.order_cons {matched : List String} {fs : List (String × HandlerFault)}
    {pass : Pass H} (h : Progress matched fs pass) {sub : Subscription (Listener H)}
    {rest : List (Subscription (Listener H))} (hrun : pass.running = none)
    (hrest : pass.rest = sub :: rest) :
    (fs.map (·.1) ++ sub.id :: rest.map (·.id)).Sublist matched := by
  have horder := h.order
  rw [hrun, hrest, Option.toList_none, List.map_nil, List.append_nil, List.map_cons] at horder
  exact horder

/-- A delivery that goes on keeps its record. -/
theorem Progress.moves {matched : List String} {fs fs' : List (String × HandlerFault)}
    {pass pass' : Pass H} (h : Progress matched fs pass) (hm : Moves pass fs pass' fs') :
    Progress matched fs' pass' := by
  cases hm with
  | skipped sub rest hrun hrest hid =>
    refine ⟨fun id hid' => ?_, h.first, ?_⟩
    · rcases h.reached_cons hrun hrest hid' with rfl | h | h | h
      · exact Or.inl hid
      · exact Or.inl h
      · exact Or.inr (Or.inl h)
      · exact Or.inr (Or.inr (Or.inr h))
    · simp only [hrun, Option.toList_none, List.map_nil, List.append_nil]
      exact ((List.sublist_cons_self _ _).append_left _).trans (h.order_cons hrun hrest)
  | passed sub rest hrun hrest =>
    refine ⟨fun id hid' => ?_, h.first, ?_⟩
    · rcases h.reached_cons hrun hrest hid' with rfl | h | h | h
      · exact Or.inl List.mem_concat_self
      · exact Or.inl (List.mem_append_left _ h)
      · exact Or.inr (Or.inl h)
      · exact Or.inr (Or.inr (Or.inr h))
    · simp only [Option.toList_none, List.map_nil, List.append_nil]
      exact ((List.sublist_cons_self _ _).append_left _).trans (h.order_cons hrun hrest)
  | invoked sub rest hrun hrest =>
    refine ⟨fun id hid' => ?_, h.first, ?_⟩
    · rcases h.reached_cons hrun hrest hid' with rfl | h | h | h
      · exact Or.inr (Or.inr (Or.inl (List.mem_singleton_self _)))
      · exact Or.inl h
      · exact Or.inr (Or.inl h)
      · exact Or.inr (Or.inr (Or.inr h))
    · simpa using h.order_cons hrun hrest
  | accepted sub hrun =>
    have horder := h.order
    rw [hrun] at horder
    refine ⟨fun id hid' => ?_, h.first, ?_⟩
    · rcases h.reached id hid' with h | h | h | h
      · exact Or.inl (List.mem_append_left _ h)
      · exact Or.inr (Or.inl h)
      · rw [hrun] at h
        exact Or.inl (List.mem_append_right _ h)
      · exact Or.inr (Or.inr (Or.inr h))
    · simp only [Option.toList_none, List.map_nil, List.append_nil]
      exact ((List.sublist_append_left _ _).append_right _).trans horder
  | rejected sub f hrun =>
    have horder := h.order
    rw [hrun] at horder
    have hfailed : pass.failure.or f ≠ none := by cases pass.failure <;> simp
    refine ⟨fun id hid' => Or.inr (Or.inr (Or.inr hfailed)), ?_, ?_⟩
    · rw [h.first]
      cases fs <;> rfl
    · simpa using horder

/-- The delivery under way is on record. -/
def OnRecord (s : Session H) : Prop :=
  ∀ pass, s.bus.pass? = some pass → Progress s.matched s.faults pass

theorem step_onRecord {s : Session H} (h : OnRecord s) (a : Act H) : OnRecord (s.step a) := by
  intro pass' hpass
  have hstep := passStep s a
  generalize s.step a = s' at hstep hpass
  cases hstep with
  | kept hkept hmatched hfaults =>
    rw [hmatched, hfaults]
    exact h pass' (hkept ▸ hpass)
  | gone hgone => rw [hgone] at hpass; cases hpass
  | begun p hbegun hmatched hfaults =>
    rw [hbegun] at hpass
    cases hpass
    rw [hmatched, hfaults]
    exact ⟨fun id hid => Or.inr (Or.inl hid), rfl, by simp⟩
  | moved pass pass'' hp hp' hmatched hmoves =>
    rw [hp'] at hpass
    cases hpass
    rw [hmatched]
    exact (h pass hp).moves hmoves

theorem run_onRecord (config : BusConfig) (hosted : Bool) (acts : List (Act H)) :
    OnRecord ((start config hosted).run acts) :=
  run_induction (P := fun _ s => OnRecord s) (fun _ hpass => by cases hpass)
    (fun _ a h => step_onRecord h a) acts

/-! ## One message leaves at a time -/

theorem ousted_length (b : Bus H) (p : Parcel) : (b.ousted p).length ≤ 1 := by
  unfold ousted
  cases (b.queue.join b.config.maxQueueDepth p).1 <;> simp

theorem publishTraffic_length (b : Bus H) (now : Nat) (topic : String) (payload : Json)
    (o : PublishOptions) : (b.publishTraffic now topic payload o).left.length ≤ 1 := by
  unfold publishTraffic
  split
  · exact Nat.zero_le _
  · exact Nat.le_refl _
  · exact ousted_length b _

/-- No act but a shutdown lets more than one message go. -/
theorem left_length (s : Session H) {a : Act H} (ha : a ≠ .shutdown) :
    (s.traffic a).left.length ≤ 1 := by
  have hcarries := carries s a
  generalize s.traffic a = t at hcarries ⊢
  cases hcarries with
  | nothing => exact Nat.zero_le _
  | published a topic payload o => exact publishTraffic_length s.bus s.now topic payload o
  | requested topic payload o t m => exact ousted_length s.bus (.fresh m)
  | turned t os b hturn =>
    cases hturn with
    | retried => exact ousted_length s.bus _
    | expired => exact Nat.le_refl _
    | unheard => exact Nat.le_refl _
    | processed => exact Nat.le_refl _
    | failed => exact Nat.le_refl _
    | _ => exact Nat.zero_le _
  | shut => exact absurd rfl ha

/-- Where a message leaves, no reply is handed over. -/
theorem handedOver_of_left {s : Session H} (h : (s.traffic .turn).left ≠ []) :
    s.bus.handedOver = [] := by
  have hturn := s.bus.turn_turns s.now
  change (s.bus.turnTraffic s.now).left ≠ [] at h
  generalize s.bus.turnTraffic s.now = t at h hturn
  generalize s.bus.handedOver = os at hturn
  generalize (s.bus.turn s.now).1 = b at hturn
  cases hturn with
  | replied => exact absurd rfl h
  | _ => rfl

/-- The settlements of an act that lets a message go. -/
theorem orders_of_left {s : Session H} {a : Act H} {f : Fate} {m : Message}
    (h : (f, m) ∈ (s.traffic a).left) (ha : a ≠ .shutdown) :
    s.orders a = (s.bus.verdict? m f).toList.flatMap (orderOf m) := by
  have hleft : (s.traffic a).left = [(f, m)] := by
    have hlength := left_length s ha
    rcases hl : (s.traffic a).left with _ | ⟨d, _ | ⟨d', ds⟩⟩
    · rw [hl] at h
      cases h
    · rw [hl] at h
      rw [List.mem_singleton.1 h]
    · rw [hl] at hlength
      simp at hlength
  have hverdicts : s.bus.verdicts (s.traffic a) =
      (s.bus.verdict? m f).toList.flatMap (orderOf m) := by
    simp only [verdicts, hleft, List.flatMap_cons, List.flatMap_nil, List.append_nil]
  cases a with
  | turn =>
    have hover := handedOver_of_left (by rw [hleft]; simp)
    simp only [orders, hover, List.nil_append, hverdicts]
  | sweep maxAge => cases h
  | shutdown => exact absurd rfl ha
  | _ => exact hverdicts

/-! ## A message that leaves undelivered settles its request -/

/-- The settlements of an act that lets a message go meet a desk at which every
    request waits that was pending before, or is opened by the act. -/
theorem waits_before {s : Session H} {a : Act H} (hleft : (s.traffic a).left ≠ [])
    {x : Nat × Ticket} (hx : x ∈ (s.step a).calls.opened)
    (hpending : s.bus.hasPending x.2.correlation = true ∨ x ∉ s.calls.opened) :
    ∃ d : Desk, d.waits x.2.correlation = true ∧
      (s.step a).bus.desk = d.settleAll (s.orders a) := by
  have hstep := callStep s a
  generalize s.step a = s' at hstep hx
  cases hstep with
  | settled a s' hcalls hdesk =>
    rw [hcalls] at hx
    exact ⟨s.bus.desk, hpending.resolve_right fun hnew => hnew hx, hdesk⟩
  | begun topic payload o s' hopen hcalls hdesk =>
    refine ⟨s.bus.desk.enter (s.bus.entry s.now topic), Desk.waits_iff.2 ?_, hdesk⟩
    rcases hpending with hp | hnew
    · obtain ⟨e, he, hec⟩ := Desk.waits_iff.1 ((desk_waits s.bus _).trans hp)
      exact ⟨e, List.mem_append_left _ he, hec⟩
    · rw [hcalls] at hx
      obtain rfl := List.mem_singleton.1 ((List.mem_append.1 hx).resolve_left hnew)
      exact ⟨s.bus.entry s.now topic, List.mem_concat_self, rfl⟩
  | refused topic payload o f s' hopen =>
    simp only [traffic, requestTraffic, hopen, ne_eq, not_true_eq_false] at hleft
  | answered => exact absurd rfl hleft
  | dropped => exact absurd rfl hleft

/-- A request whose message leaves undelivered has its result. -/
theorem left_settles {acts : List (Act H)} {s : Session H} {a : Act H} (h : Trusted acts s a)
    {f : Fate} {m : Message} (hleft : (f, m) ∈ (s.traffic a).left) (ha : a ≠ .shutdown)
    {fault : BusFault} (hfault : s.bus.verdict? m f = some fault) {x : Nat × Ticket}
    (hx : x ∈ (s.step a).calls.opened) (hxm : x.2.message = m.id)
    (hpending : s.bus.hasPending x.2.correlation = true ∨ x ∉ s.calls.opened) :
    (s.step a).bus.hasPending x.2.correlation = false ∧
      (s.step a).bus.result? x.2 = some (.error fault) := by
  have hawaited := (h.owner hleft hx).2 hxm
  have horders : s.orders a = [(x.2.correlation, .error fault)] := by
    rw [orders_of_left hleft ha, hfault]
    simp [orderOf, hawaited]
  obtain ⟨d, hwaits, hdesk⟩ := waits_before (List.ne_nil_of_mem hleft) hx hpending
  rw [horders, Desk.settleAll_cons, Desk.settleAll_nil] at hdesk
  have hsettled := Desk.settled_settle_of_waits (o := (x.2.correlation, .error fault)) hwaits
  rw [← hdesk] at hsettled
  have hkeys := (step_inOrder h.order a).nodup_keys
  refine ⟨?_, List.lookup_of_mem hkeys.of_append_right hsettled⟩
  rw [← desk_waits, hdesk]
  exact Desk.not_waits_settle d (x.2.correlation, .error fault)

/-! ## Where the message of a pending request is -/

/-- The message of a request has been accepted by every subscription that
    matched it in its last pass. -/
def AcceptedByAll (log : List (Session H × Act H)) (t : Ticket) : Prop :=
  ∃ s pass, (s, .turn) ∈ log ∧ s.bus.drainer = .delivering pass ∧ pass.running = none ∧
    pass.rest = [] ∧ pass.failure = none ∧ pass.parcel.message.id = t.message ∧
    ∀ id ∈ s.matched, id ∈ pass.parcel.accepted

/-- The message of every pending request is in flight, or has been accepted by
    all. -/
def Whereabouts (log : List (Session H × Act H)) (s : Session H) : Prop :=
  ∀ x ∈ s.calls.opened, s.bus.hasPending x.2.correlation = true →
    (∃ m ∈ s.bus.flight, m.id = x.2.message) ∨ AcceptedByAll log x.2

/-- A shutdown leaves no request pending. -/
theorem not_pending_of_shutdown {s : Session H} (hclosed : s.bus.closed = false) (c : String) :
    (s.step .shutdown).bus.hasPending c = false := by
  rw [← desk_waits]
  refine Bool.eq_false_iff.2 fun hw => ?_
  have hdesk : (s.step .shutdown).bus.desk = s.bus.desk.settleAll s.bus.dismissed :=
    s.bus.shutdown_effect.desk
  rw [hdesk] at hw
  obtain ⟨e, he, rfl⟩ := Desk.waits_iff.1
    (Desk.waits_of_subset (Desk.pending_settleAll_subset _ _) hw)
  have hmem : (e.correlation, .error .shutdown) ∈ s.bus.dismissed := by
    simp only [dismissed, hclosed]
    exact List.mem_map_of_mem
      (f := fun p : Pending => (p.correlation, Except.error BusFault.shutdown)) he
  rw [Desk.not_waits_settleAll _ hmem] at hw
  cases hw

/-- A request that is pending after an act was pending before, or is opened by
    it. -/
theorem pending_before {s : Session H} {a : Act H} {x : Nat × Ticket}
    (hp : (s.step a).bus.hasPending x.2.correlation = true)
    (h : InOrder s.calls s.bus.desk s.bus.mint) (hx : x ∈ s.calls.opened) :
    s.bus.hasPending x.2.correlation = true := by
  obtain ⟨e, he, hec⟩ := Desk.waits_iff.1 ((desk_waits _ _).trans hp)
  rcases pending_step s a e he with he | ⟨topic, payload, o, t, -, -, rfl⟩
  · exact Desk.waits_iff.2 ⟨e, he, hec⟩
  · have hissued : s.bus.mint.Issued s.bus.mint.take.1 := by
      rw [show s.bus.mint.take.1 = x.2.correlation from hec]
      exact (h.issued x hx).1
    exact absurd hissued s.bus.mint.not_issued_take

/-- The message of a request that stays pending stays in flight, or all have
    accepted it. -/
theorem stays_in_flight {acts : List (Act H)} {log : List (Session H × Act H)} {s : Session H}
    {a : Act H} (h : Trusted acts s a) (hr : OnRecord s) {x : Nat × Ticket}
    (hx : x ∈ (s.step a).calls.opened)
    (hp : (s.step a).bus.hasPending x.2.correlation = true)
    (hbefore : s.bus.hasPending x.2.correlation = true ∨ x ∉ s.calls.opened)
    {m : Message} (hm : m ∈ s.bus.flight ++ (s.traffic a).entered) (hxm : m.id = x.2.message) :
    (∃ m ∈ (s.step a).bus.flight, m.id = x.2.message) ∨ AcceptedByAll (log ++ [(s, a)]) x.2 := by
  have hsettled {f : Fate} {fault : BusFault} (hleft : (f, m) ∈ (s.traffic a).left)
      (ha : a ≠ .shutdown) (hfault : s.bus.verdict? m f = some fault) : False := by
    have := (left_settles h hleft ha hfault hx hxm.symm hbefore).1
    rw [hp] at this
    cases this
  rcases List.mem_append.1 ((s.step_accounts a).flight.mem_iff.1 hm) with hm | hm
  · exact Or.inl ⟨m, hm, hxm⟩
  obtain ⟨⟨f, m'⟩, hleft, rfl⟩ := List.mem_map.1 hm
  cases leaves hleft with
  | expired _ he => exact absurd (h.topic hleft hx hxm.symm).2 he
  | unheard p queue hd hpop hnil hmp =>
    exact (hsettled hleft (by simp) rfl).elim
  | failed pass f hd hrun hrest hf hagain hmp =>
    exact (hsettled hleft (by simp) (verdict?_failed _ hd hf)).elim
  | overflowed _ ha => exact (hsettled hleft ha rfl).elim
  | discarded hclosed =>
    rw [not_pending_of_shutdown hclosed] at hp
    cases hp
  | processed pass hd hrun hrest hf hmp =>
    refine Or.inr ⟨s, pass, List.mem_concat_self, hd, hrun, hrest, hf, ?_, fun id hid => ?_⟩
    · rw [← hxm, hmp]
      rfl
    · rcases (hr pass (pass?_eq_some.2 hd)).reached id hid with h | h | h | h
      · exact h
      · rw [hrest] at h
        cases h
      · rw [hrun] at h
        cases h
      · exact absurd hf h

theorem AcceptedByAll.mono {log log' : List (Session H × Act H)} (hsub : log ⊆ log') {t : Ticket}
    (h : AcceptedByAll log t) : AcceptedByAll log' t := by
  obtain ⟨s, pass, hlog, hpass⟩ := h
  exact ⟨s, pass, hsub hlog, hpass⟩

theorem step_whereabouts {acts : List (Act H)} {log : List (Session H × Act H)} {s : Session H}
    {a : Act H} (h : Trusted acts s a) (hr : OnRecord s) (hw : Whereabouts log s) :
    Whereabouts (log ++ [(s, a)]) (s.step a) := by
  intro x hx hp
  by_cases hold : x ∈ s.calls.opened
  · have hbefore := pending_before hp h.order hold
    rcases hw x hold hbefore with ⟨m, hm, hxm⟩ | haccepted
    · exact stays_in_flight h hr hx hp (Or.inl hbefore) (List.mem_append_left _ hm) hxm
    · exact Or.inr (haccepted.mono (List.subset_append_left _ _))
  · obtain ⟨topic, payload, o, rfl, hopen, rfl⟩ := (mem_opened hx).resolve_left hold
    have hm := List.mem_singleton_self
      (s.bus.draft (s.bus.ticket s.now topic o).message topic payload
        (o.toPublish (s.bus.ticket s.now topic o).correlation (s.bus.ticket s.now topic o).replyTopic)
        s.now)
    rw [← request_entered hopen] at hm
    exact stays_in_flight h hr hx hp (Or.inr hold) (List.mem_append_right _ hm) rfl

theorem run_whereabouts (config : BusConfig) (hosted : Bool) (acts : List (Act H))
    (honest : Honest (claims acts) ((start config hosted).run acts).calls.opened) :
    Whereabouts ((start config hosted).trace acts) ((start config hosted).run acts) := by
  induction acts using List.reverseRecOn with
  | nil => exact fun x hx => by cases hx
  | append_singleton acts a ih =>
    rw [run_concat, trace_concat]
    exact step_whereabouts (run_trusted config hosted acts honest)
      (run_onRecord config hosted acts) (ih honest.before)

/-! ## Runs -/

/-- The failure of a message that has left is the result of its request. -/
def Reported (s s' : Session H) (t : Ticket) : Fate → Prop
  | .undeliverable => s'.bus.hasPending t.correlation = false ∧
      s'.bus.result? t = some (.error (.noSubscriber t.topic))
  | .overflowed => s'.bus.hasPending t.correlation = false ∧
      s'.bus.result? t = some (.error (.queueOverflow t.topic))
  -- the first failure of the last pass, in the order in which they matched
  | .failed => s'.bus.hasPending t.correlation = false ∧
      ∃ id f, s.faults.head? = some (id, f) ∧ (s.faults.map (·.1)).Sublist s.matched ∧
        s'.bus.result? t = some (.error (.handler f))
  | _ => True

theorem left_reported {acts : List (Act H)} {s : Session H} {a : Act H} (h : Trusted acts s a)
    (hr : OnRecord s) {f : Fate} {m : Message} (hleft : (f, m) ∈ (s.traffic a).left)
    {x : Nat × Ticket} (hx : x ∈ (s.step a).calls.opened) (hxm : x.2.message = m.id)
    (hpending : s.bus.hasPending x.2.correlation = true ∨ x ∉ s.calls.opened) :
    Reported s (s.step a) x.2 f := by
  have htopic := (h.topic hleft hx hxm).1
  cases leaves hleft with
  | expired => trivial
  | processed => trivial
  | discarded => trivial
  | unheard p queue hd hpop hnil hm =>
    exact left_settles h hleft (by simp) (htopic ▸ rfl) hx hxm hpending
  | overflowed _ ha => exact left_settles h hleft ha (htopic ▸ rfl) hx hxm hpending
  | failed pass f hd hrun hrest hf hagain hm =>
    have hprogress := hr pass (pass?_eq_some.2 hd)
    obtain ⟨hsettled, hresult⟩ :=
      left_settles h hleft (by simp) (verdict?_failed m hd hf) hx hxm hpending
    obtain ⟨⟨id, f'⟩, hfirst, hf'⟩ := Option.map_eq_some_iff.1 (hprogress.first.symm.trans hf)
    obtain rfl : f' = f := hf'
    have horder := hprogress.order
    rw [hrun, hrest] at horder
    exact ⟨hsettled, id, f', hfirst, by simpa using horder, hresult⟩

/-- **No failure of transport is kept from a request that waits.**  Where nobody
    publishes a message in the name of somebody else's request: in the act in
    which the message of a pending request is undeliverable, has failed for good
    or is evicted, the request gets this as its result.  Hence the message of
    each pending request is queued, is being delivered, or has been accepted by
    all that matched it. -/
theorem failure_reported (config : BusConfig) (hosted : Bool) (acts : List (Act H))
    (honest : Honest (claims acts) ((start config hosted).run acts).calls.opened) :
    let s := (start config hosted).run acts
    let log := (start config hosted).trace acts
    (∀ s₁ a f m n t, (s₁, a) ∈ log → (f, m) ∈ (s₁.traffic a).left →
      (n, t) ∈ (s₁.step a).calls.opened → t.message = m.id →
      (s₁.bus.hasPending t.correlation = true ∨ (n, t) ∉ s₁.calls.opened) →
      Reported s₁ (s₁.step a) t f) ∧
    ∀ n t, (n, t) ∈ s.calls.opened → s.bus.hasPending t.correlation = true →
      (∃ p ∈ s.bus.queue.toList, p.message.id = t.message) ∨
      (∃ pass, s.bus.drainer = .delivering pass ∧ pass.parcel.message.id = t.message) ∨
      AcceptedByAll log t := by
  refine ⟨fun s₁ a f m n t hlog hleft ht htm hpending => ?_, fun n t ht hp => ?_⟩
  · obtain ⟨before, after, rfl, rfl⟩ := mem_trace hlog
    rw [List.append_cons] at honest
    exact left_reported (run_trusted config hosted before honest.before)
      (run_onRecord config hosted before) hleft ht htm hpending
  · rcases run_whereabouts config hosted acts honest (n, t) ht hp with ⟨m, hm, hmt⟩ | h
    · rcases List.mem_append.1 hm with hm | hm
      · obtain ⟨pass, hpass, rfl⟩ := Option.map_eq_some_iff.1 (Option.mem_toList.1 hm)
        exact Or.inr (Or.inl ⟨pass, pass?_eq_some.1 hpass, hmt⟩)
      · obtain ⟨p, hp, rfl⟩ := List.mem_map.1 hm
        exact Or.inl ⟨p, hp, hmt⟩
    · exact Or.inr (Or.inr h)

/-- Nobody listens, and the request is told so. -/
theorem failure_reported_unheard :
    let s : Session Unit := (start {} true).run [.request "a" .null {}]
    let s' := s.step .turn
    Honest (claims [.request "a" .null {}, (.turn : Act Unit)]) s'.calls.opened ∧
      ∃ m t, (.undeliverable, m) ∈ (s.traffic .turn).left ∧ (0, t) ∈ s'.calls.opened ∧
        t.message = m.id ∧ s.bus.hasPending t.correlation = true ∧
        Reported s s' t .undeliverable := by
  intro s s'
  have honest : Honest (claims [.request "a" .null {}, (.turn : Act Unit)]) s'.calls.opened :=
    fun c hc => by cases hc
  obtain ⟨m, t, hm, ht, htm, hp⟩ : ∃ m t, (s.traffic .turn).left[0]? = some (.undeliverable, m) ∧
      s'.calls.opened[0]? = some (0, t) ∧ t.message = m.id ∧
      s.bus.hasPending t.correlation = true := ⟨_, _, rfl, rfl, rfl, rfl⟩
  have hleft := List.mem_of_getElem? hm
  have hopened := List.mem_of_getElem? ht
  exact ⟨honest, m, t, hleft, hopened, htm, hp, (failure_reported {} true _ honest).1 s .turn
    .undeliverable m 0 t (List.mem_cons_of_mem _ List.mem_cons_self) hleft hopened htm (Or.inl hp)⟩

end Switchboard.Bus.Session
