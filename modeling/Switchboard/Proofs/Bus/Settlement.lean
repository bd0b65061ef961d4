import Switchboard.Proofs.Bus.Listeners

/-
  Settlement — a request is settled at most once, and for a reason.

  * `Cause`: what an act does in a state that gives a request its result;
  * `orders_cause`: whatever is settled has a cause;
  * `Justified`: a result that a request has got, and the events behind it;
  * `settlement`: after every run each request has at most one result, and each
    result is justified.
-/

namespace Switchboard

variable {H : Type}

/-- The time at which a request was opened. -/
def Ticket.openedAt (t : Ticket) : Nat := t.deadline - t.timeoutMs

namespace Bus.Session

/-! ## Causes -/

/-- A message with the correlation id of a request is handed to its reply
    subscription, on its reply topic.  A prefix with a wildcard makes the reply
    topic a pattern; any other prefix leaves it a topic. -/
def HandsOver (s : Session H) (t : Ticket) (payload : Json) : Prop :=
  ∃ pass sub rest, s.bus.drainer = .delivering pass ∧ pass.running = none ∧
    pass.rest = sub :: rest ∧ sub.handler = .reply t.correlation ∧
    pass.parcel.message.correlation = some t.correlation ∧
    pass.parcel.message.payload = payload ∧
    Pattern.parse t.replyTopic = .ok sub.pattern ∧
    sub.pattern.accepts pass.parcel.message.topic = true ∧
    (hasStar s.bus.config.replyPrefix = false → pass.parcel.message.topic = t.replyTopic)

/-- What an act does in a state that gives a request its result. -/
inductive Cause (s : Session H) (n : Nat) (t : Ticket) : Act H → Reply → Prop
  | replied (payload) : HandsOver s t payload → openEnvelope? payload = none →
      Cause s n t .turn (.ok payload)
  | declined (payload f) : HandsOver s t payload → openEnvelope? payload = some f →
      Cause s n t .turn (.error (.remote f))
  /-- its message is taken from the queue, and nobody listens -/
  | unheard (p queue) : s.bus.drainer = .ready → s.bus.queue.pop? = some (p, queue) →
      p.message.id = t.message → s.bus.index.matching t.topic = [] →
      Cause s n t .turn (.error (.noSubscriber t.topic))
  /-- the last pass of its message has failed -/
  | exhausted (pass f) : s.bus.drainer = .delivering pass → pass.running = none →
      pass.rest = [] → pass.failure = some f → pass.parcel.message.id = t.message →
      pass.again.canRetry = false → Cause s n t .turn (.error (.handler f))
  /-- its message has to make room in the queue -/
  | evicted (a m) : (.overflowed, m) ∈ (s.traffic a).left → m.id = t.message →
      Cause s n t a (.error (.queueOverflow t.topic))
  | dismissed : s.bus.closed = false → Cause s n t .shutdown (.error .shutdown)
  | timedOut : t.deadline ≤ s.now →
      Cause s n t (.attend n) (.error (.timeout t.topic t.timeoutMs))
  | swept (maxAge) : maxAge ≤ s.now - t.openedAt →
      Cause s n t (.sweep maxAge) (.error (.timeout t.topic maxAge))

/-! ## Tickets and entries -/

/-- What is known of the requests that were opened. -/
structure Tickets (s : Session H) : Prop where
  entries : ∀ e ∈ s.bus.desk.pending, ∃ x ∈ s.calls.opened,
    x.2.correlation = e.correlation ∧ x.2.topic = e.topic ∧ x.2.openedAt = e.openedAt
  plain : hasStar s.bus.config.replyPrefix = false →
    ∀ x ∈ s.calls.opened, hasStar x.2.replyTopic = false

theorem hasStar_append (s t : String) : hasStar (s ++ t) = (hasStar s || hasStar t) := by
  simp [hasStar, String.toList_append]

theorem hasStar_replyTopic {b : Bus H} (h : hasStar b.config.replyPrefix = false) :
    hasStar b.replyTopic = false := by
  have hcorrelation : hasStar b.mint.take.1 = false := by
    simpa [hasStar] using b.mint.star_notMem_take
  have hsuffix : hasStar b.mint.advance.takeRun.1 = false := by
    simpa [hasStar] using b.mint.advance.star_notMem_takeRun
  simp only [replyTopic, hasStar_append, h, hcorrelation, hsuffix]
  decide

/-- Every entry that an act leaves was there before, or is that of the request
    it opens. -/
theorem pending_step (s : Session H) (a : Act H) :
    ∀ e ∈ (s.step a).bus.desk.pending, e ∈ s.bus.desk.pending ∨
      ∃ topic payload o t, a = .request topic payload o ∧
        (s.bus.openRequest s.now topic payload o).1 = .ok t ∧ e = s.bus.entry s.now topic := by
  have h := callStep s a
  generalize s.step a = s' at h
  intro e he
  cases h with
  | settled a s' _ hdesk =>
    rw [hdesk] at he
    exact Or.inl (Desk.pending_settleAll_subset _ _ he)
  | begun topic payload o s' hopen _ hdesk =>
    rw [hdesk] at he
    rcases List.mem_append.1 (Desk.pending_settleAll_subset _ _ he) with he | he
    · exact Or.inl he
    · exact Or.inr ⟨topic, payload, o, _, rfl, hopen, List.mem_singleton.1 he⟩
  | refused topic payload o f s' _ _ hdesk =>
    rcases hdesk with hdesk | hdesk <;> rw [hdesk] at he
    · exact Or.inl he
    · exact Or.inl (List.mem_filter.1 he).1
  | answered n t r s' _ _ _ hdesk =>
    rw [hdesk] at he
    exact Or.inl (List.mem_filter.1 he).1
  | dropped n t s' _ _ hdesk =>
    rw [hdesk] at he
    exact Or.inl (List.mem_filter.1 he).1

theorem step_tickets {s : Session H} (h : Tickets s) (a : Act H) : Tickets (s.step a) where
  entries e he := by
    rcases pending_step s a e he with he | ⟨topic, payload, o, t, rfl, hopen, rfl⟩
    · obtain ⟨x, hx, hxe⟩ := h.entries e he
      exact ⟨x, opened_subset s a hx, hxe⟩
    · refine ⟨(s.calls.made, t), by rw [calls_of_openRequest hopen]; exact List.mem_concat_self, ?_⟩
      obtain rfl := ticket_of_openRequest hopen
      exact ⟨rfl, rfl, Nat.add_sub_cancel ..⟩
  plain hplain x hx := by
    rw [(s.step_accounts a).config] at hplain
    rcases mem_opened hx with hx | ⟨topic, payload, o, -, -, rfl⟩
    · exact h.plain hplain x hx
    · exact hasStar_replyTopic hplain

theorem run_tickets (config : BusConfig) (hosted : Bool) (acts : List (Act H)) :
    Tickets ((start config hosted).run acts) :=
  run_induction (P := fun _ s => Tickets s) ⟨by simp [start, Bus.create, Bus.desk], by simp [start]⟩
    (fun _ a h => step_tickets h a) acts

/-! ## Whatever is settled has a cause -/

theorem verdict?_failed {b : Bus H} {pass : Pass H} {f : HandlerFault} (m : Message)
    (hd : b.drainer = .delivering pass) (hf : pass.failure = some f) :
    b.verdict? m .failed = some (.handler f) := by
  simp only [verdict?, pass?_eq_some.2 hd, Option.bind_some, hf, Option.map_some]

/-- What is known in a session without impostors, before an act. -/
structure Trusted (acts : List (Act H)) (s : Session H) (a : Act H) : Prop where
  order : InOrder s.calls s.bus.desk s.bus.mint
  mail : ∀ m ∈ s.bus.flight, Mail (claims acts) s.calls.opened s.bus.mint m
  listening : Listening s
  tickets : Tickets s
  honest : Honest (claims (acts ++ [a])) (s.step a).calls.opened

/-- A message that leaves and speaks for a request is that of the request. -/
theorem Trusted.owner {acts : List (Act H)} {s : Session H} {a : Act H} (h : Trusted acts s a)
    {f : Fate} {m : Message} (hm : (f, m) ∈ (s.traffic a).left) {x : Nat × Ticket}
    (hx : x ∈ (s.step a).calls.opened) :
    m.awaited? = some x.2.correlation ↔ x.2.message = m.id := by
  have hmail := step_mail h.order h.mail a m (left_subset s a (List.mem_map_of_mem hm))
  exact ⟨hmail.owner (step_inOrder h.order a) h.honest hx, fun hxm => (hmail.known x hx hxm).1⟩

theorem Trusted.topic {acts : List (Act H)} {s : Session H} {a : Act H} (h : Trusted acts s a)
    {f : Fate} {m : Message} (hm : (f, m) ∈ (s.traffic a).left) {x : Nat × Ticket}
    (hx : x ∈ (s.step a).calls.opened) (hxm : x.2.message = m.id) :
    m.topic = x.2.topic ∧ m.expiresAt = none :=
  ((step_mail h.order h.mail a m (left_subset s a (List.mem_map_of_mem hm))).known x hx hxm).2

/-- Why a request is refused. -/
def Refusal (log : List (Session H × Act H)) (s : Session H) (topic : String) (f : BusFault) :
    Prop :=
  Address.topic topic = .error f ∨ Address.pattern s.bus.replyTopic = .error f ∨
    (s.bus.hosted = false ∧ f = .noRuntime) ∨ (f = .shutdown ∧ ∃ y ∈ log, y.2 = .shutdown)

theorem Refusal.mono {log log' : List (Session H × Act H)} (hsub : log ⊆ log') {s : Session H}
    {topic : String} {f : BusFault} (h : Refusal log s topic f) : Refusal log' s topic f := by
  rcases h with h | h | h | ⟨h, y, hy, hshut⟩
  · exact Or.inl h
  · exact Or.inr (Or.inl h)
  · exact Or.inr (Or.inr (Or.inl h))
  · exact Or.inr (Or.inr (Or.inr ⟨h, y, hsub hy, hshut⟩))

/-- A result of a request with a number, and the events behind it: the request
    was made and refused, or it was opened and something gave it this result. -/
inductive Justified (log : List (Session H × Act H)) (n : Nat) : Reply → Prop
  | refused (s topic payload o f) : (s, .request topic payload o) ∈ log → s.calls.made = n →
      (s.bus.openRequest s.now topic payload o).1 = .error f → Refusal log s topic f →
      Justified log n (.error f)
  | settled (s topic payload o t s' a r) : (s, .request topic payload o) ∈ log →
      s.calls.made = n → (s.bus.openRequest s.now topic payload o).1 = .ok t →
      t.deadline = s.now + t.timeoutMs → (s', a) ∈ log → Cause s' n t a r → Justified log n r

theorem Justified.mono {log log' : List (Session H × Act H)} (hsub : log ⊆ log') {n : Nat}
    {r : Reply} (h : Justified log n r) : Justified log' n r := by
  cases h with
  | refused s topic payload o f hlog hn hopen hrefusal =>
    exact .refused s topic payload o f (hsub hlog) hn hopen (hrefusal.mono hsub)
  | settled s topic payload o t s' a r hlog hn hopen ht hlog' hcause =>
    exact .settled s topic payload o t s' a r (hsub hlog) hn hopen ht (hsub hlog') hcause

/-- What the log of a session tells of its requests. -/
structure Recorded (log : List (Session H × Act H)) (s : Session H) : Prop where
  closed : s.bus.closed = true → ∃ y ∈ log, y.2 = .shutdown
  opened : ∀ x ∈ s.calls.opened, ∃ s' topic payload o, (s', .request topic payload o) ∈ log ∧
    s'.calls.made = x.1 ∧ (s'.bus.openRequest s'.now topic payload o).1 = .ok x.2
  settled : ∀ o ∈ s.bus.settled, ∀ x ∈ s.calls.opened, x.2.correlation = o.1 →
    ∃ y ∈ log, Cause y.1 x.1 x.2 y.2 o.2
  answers : ∀ z ∈ s.calls.answers, Justified log z.1 z.2

theorem Recorded.refusal {log : List (Session H × Act H)} {s : Session H} (h : Recorded log s)
    {topic : String} {payload : Json} {o : RequestOptions} {f : BusFault}
    (hopen : (s.bus.openRequest s.now topic payload o).1 = .error f) : Refusal log s topic f := by
  have hopens := s.bus.openRequest_opens s.now topic payload o
  rw [hopen] at hopens
  generalize s.bus.requestTraffic s.now topic payload o = t at hopens
  generalize (s.bus.openRequest s.now topic payload o).2 = b at hopens
  cases hopens with
  | refused f mint hwhy =>
    rcases hwhy with hwhy | hwhy | ⟨hclosed, rfl⟩
    · exact Or.inl hwhy
    · exact Or.inr (Or.inl hwhy)
    · exact Or.inr (Or.inr (Or.inr ⟨rfl, h.closed hclosed⟩))
  | unpublished pattern f _ hwhy =>
    rcases hwhy with ⟨hclosed, rfl⟩ | hwhy | hwhy
    · exact Or.inr (Or.inr (Or.inr ⟨rfl, h.closed hclosed⟩))
    · exact Or.inl hwhy
    · exact Or.inr (Or.inr (Or.inl hwhy))

theorem publishTraffic_shut (b : Bus H) (now : Nat) (topic : String) (payload : Json)
    (o : PublishOptions) : (b.publishTraffic now topic payload o).shut = false := by
  unfold publishTraffic
  split <;> rfl

/-- Only a shutdown closes the bus. -/
theorem shut_cases {s : Session H} {a : Act H} (h : (s.traffic a).shut = true) : a = .shutdown := by
  have hcarries := carries s a
  generalize s.traffic a = t at h hcarries
  cases hcarries with
  | nothing => cases h
  | published a topic payload o =>
    rw [publishTraffic_shut] at h
    cases h
  | requested => cases h
  | turned t os b hturn => cases hturn <;> cases h
  | shut => rfl

/-- A request that waits has an entry or a result. -/
theorem pending_or_settled {s : Session H} (h : InOrder s.calls s.bus.desk s.bus.mint)
    {x : Nat × Ticket} (hx : x ∈ s.calls.waiting) :
    s.bus.hasPending x.2.correlation = true ∨ (s.bus.result? x.2).isSome = true := by
  have hk := h.keys.mem_iff.2 (List.mem_map_of_mem (f := (·.2.correlation)) hx)
  rcases List.mem_append.1 hk with hk | hk
  · obtain ⟨e, he, hec⟩ := List.mem_map.1 hk
    exact Or.inl (Desk.waits_iff.2 ⟨e, he, hec⟩)
  · obtain ⟨o, ho, hoc⟩ := List.mem_map.1 hk
    right
    rw [result?, Option.isSome_iff_ne_none, ne_eq, List.lookup_eq_none_iff]
    exact fun hnone => absurd hoc.symm (by simpa using hnone o ho)

theorem run_trusted (config : BusConfig) (hosted : Bool) (acts : List (Act H)) {a : Act H}
    (honest : Honest (claims (acts ++ [a]))
      ((start config hosted).run (acts ++ [a])).calls.opened) :
    Trusted acts ((start config hosted).run acts) a :=
  ⟨run_inOrder config hosted acts, run_mail config hosted acts, run_listening config hosted acts,
    run_tickets config hosted acts, run_concat _ acts a ▸ honest⟩

end Bus.Session

end Switchboard
