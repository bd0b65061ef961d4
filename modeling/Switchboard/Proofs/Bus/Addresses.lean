import Switchboard.Proofs.Bus.Catalogue

/-
  Where replies are sent.

  The reply topic of a request begins with the prefix that the settings of the
  bus give, and is never checked as a topic: it is only read as a pattern.

  * `Answerable` is an address that whoever responds can publish to,
    `Unanswerable` one that nobody can;
  * `Filed.of_refused`: a request that is refused leaves nothing on the bus;
  * `reply_address`: whatever the prefix, a request is refused and leaves nothing,
    or its address is answerable and leads to its reply subscription, unless the
    prefix has a wildcard: then it is unanswerable;
  * `reply_unanswerable` is a request that is opened all the same, and times out.
-/

namespace Switchboard

variable {H : Type}

namespace Bus

/-! ## Addresses -/

/-- An address that reads literally and is a topic: nothing but a closed bus and
    a missing host keeps a message from being published there. -/
structure Answerable (H : Type) (address : String) : Prop where
  literal : Pattern.parse address = .ok (.exact address)
  topic : Address.topic address = .ok ()
  taken : ∀ (b : Bus H) (now : Nat) (payload : Json) (o : PublishOptions) (f : BusFault),
    (b.publish now address payload o).1 = .error f → f = .shutdown ∨ f = .noRuntime

/-- An address that reads as a pattern of other topics: no bus takes a message
    for it, and the answer of a responder goes nowhere. -/
structure Unanswerable (H : Type) (address : String) : Prop where
  wide : ∀ p, Pattern.parse address = .ok p → p.kind ≠ .exact
  refused : ∀ (b : Bus H) (now : Nat) (payload : Json) (o : PublishOptions), b.closed = false →
    b.publish now address payload o =
      (.error (.invalidTopic address TopicDefect.wildcard.reason), b)
  unheard : ∀ (b : Bus H) (now : Nat) (m : Message) (answer : Json), m.replyTo = some address →
    b.respond now m answer = b

theorem answerable_of_topic {address : String} (h : topicDefect? address = none) :
    Answerable H address := by
  have htopic : Address.topic address = .ok () := topic_eq_ok.2 h
  refine ⟨Pattern.parse_eq_exact.2 ⟨rfl, h⟩, htopic, fun b now payload o f hf => ?_⟩
  rcases b.publish_cases now address payload o with ⟨f', hrefuses, heq⟩ | ⟨-, heq⟩ | ⟨-, heq⟩ <;>
    rw [heq] at hf <;> cases hf
  rcases hrefuses with ⟨-, rfl⟩ | hbad | ⟨-, rfl⟩
  · exact Or.inl rfl
  · rw [htopic] at hbad
    cases hbad
  · exact Or.inr rfl

theorem unanswerable_of_star {address : String} (hstar : hasStar address = true) :
    Unanswerable H address := by
  have hdefect : topicDefect? address = some .wildcard := by
    have hempty : address ≠ "" := by
      rintro rfl
      exact absurd hstar (by decide)
    rw [topicDefect?, if_neg hempty, if_pos hstar]
  have htopic : Address.topic address =
      .error (.invalidTopic address TopicDefect.wildcard.reason) := by
    rw [Address.topic, hdefect]
  have hrefused : ∀ (b : Bus H) now payload o, (b.publish now address payload o).2 = b := by
    intro b now payload o
    rcases hclosed : b.closed with _ | _ <;> simp [publish, hclosed, htopic]
  refine ⟨fun p hp hkind => ?_, fun b now payload o hclosed => ?_, fun b now m answer hm => ?_⟩
  · cases p with
    | exact t =>
      obtain ⟨rfl, hnone⟩ := Pattern.parse_eq_exact.1 hp
      rw [hdefect] at hnone
      cases hnone
    | _ => cases hkind
  · simp [publish, hclosed, htopic]
  · rcases b.respond_cases now m answer with ⟨-, heq⟩ | ⟨replyTo, c, hreplyTo, -, -, heq⟩
    · exact heq
    · obtain rfl : address = replyTo := Option.some.inj (hm.symm.trans hreplyTo)
      rw [heq, hrefused]

/-! ## Requests that are refused -/

/-- A request is opened only where its reply topic reads as a pattern. -/
theorem Opens.read {b b' : Bus H} {now : Nat} {topic : String} {payload : Json}
    {o : RequestOptions} {t : Traffic} {ticket : Ticket}
    (ho : b.Opens now topic payload o t (.ok ticket) b') :
    ∃ p, Pattern.parse b.replyTopic = .ok p := by
  cases ho with
  | opened pattern hpattern => exact ⟨pattern, parse_of_address hpattern⟩

/-- The correlation id of the next request is not that of one that is pending. -/
theorem Session.run_unused (config : BusConfig) (hosted : Bool) (acts : List (Act H)) :
    let b := ((start config hosted).run acts).bus
    ∀ e ∈ b.pending, e.correlation ≠ b.mint.take.1 := by
  intro b e he heq
  have hkey : e.correlation ∈ b.desk.keys := List.mem_append_left _ (List.mem_map_of_mem he)
  have hissued := (run_inOrder config hosted acts).issued_of_mem_keys hkey
  rw [heq] at hissued
  exact b.mint.not_issued_take hissued

/-- A request that is closed as soon as it was taken in has its entry and its
    reply subscription taken out again. -/
theorem close_asking {b : Bus H} (now : Nat) (topic : String) (pattern : Pattern)
    (hunused : ∀ e ∈ b.pending, e.correlation ≠ b.mint.take.1) :
    (b.asking now topic pattern).close b.mint.take.1 =
      let b' := ({ b.asking now topic pattern with pending := b.pending }.unsubscribe
        (b.replyListener topic pattern).id).2
      { b' with settled := b'.settled.filter (·.1 ≠ b.mint.take.1) } := by
  have hnone : b.pending.find? (·.correlation = b.mint.take.1) = none :=
    List.find?_eq_none.2 fun e he => by simpa using hunused e he
  have hkeep : b.pending.filter (·.correlation ≠ b.mint.take.1) = b.pending :=
    List.filter_eq_self.2 fun e he => decide_eq_true (hunused e he)
  have hfind : (b.asking now topic pattern).pending.find? (·.correlation = b.mint.take.1) =
      some (b.entry now topic) := by
    simp [asking, List.find?_append, hnone, entry]
  have hpending : (b.asking now topic pattern).pending.filter
      (·.correlation ≠ b.mint.take.1) = b.pending := by
    simp only [asking, List.filter_append, hkeep]
    simp [entry]
  simp only [close, hfind, hpending]
  rfl

/-- **A request that is refused** leaves what is filed and pending as it was. -/
theorem Filed.of_refused {b b' : Bus H} {live : List (Subscription (Listener H))} {now : Nat}
    {topic : String} {payload : Json} {o : RequestOptions} {t : Traffic} {f : BusFault}
    (h : Filed b live) (hunused : ∀ e ∈ b.pending, e.correlation ≠ b.mint.take.1)
    (ho : b.Opens now topic payload o t (.error f) b') :
    Filed b' live ∧ b'.pending = b.pending := by
  cases ho with
  | refused f mint _ hmint => exact ⟨h.congr rfl rfl hmint, rfl⟩
  | unpublished pattern f hpattern =>
    have hnew := b.replyListener_not_issued topic pattern
    let b₁ : Bus H := { b.asking now topic pattern with pending := b.pending }
    have hadded : Filed b₁ (live ++ [b.replyListener topic pattern]) :=
      h.add (Pattern.parsed_of_parse (parse_of_address hpattern)) hnew rfl rfl
        (b.asking_reaches now topic pattern) (b.asking_issued now topic pattern)
    have hgone := hadded.unsubscribe (b.replyListener topic pattern).id
    have hlive : (live ++ [b.replyListener topic pattern]).filter
        (·.id ≠ (b.replyListener topic pattern).id) = live := by
      have hkeep : live.filter (·.id ≠ (b.replyListener topic pattern).id) = live :=
        List.filter_eq_self.2 fun s hs => decide_eq_true fun heq => hnew (heq ▸ h.issued s hs)
      rw [List.filter_append, hkeep]
      simp
    have hdesk := b₁.unsubscribe_atDesk (b.replyListener topic pattern).id
    rw [hlive] at hgone
    rw [close_asking now topic pattern hunused]
    exact ⟨hgone.congr rfl rfl (.refl _), congrArg Desk.pending hdesk.desk⟩

/-! ## The address of a request -/

namespace Session

/-- A request that was opened is among those opened whatever happens then. -/
theorem mem_opened_after {s : Session H} {topic : String} {payload : Json} {o : RequestOptions}
    {t : Ticket} (ht : (s.bus.openRequest s.now topic payload o).1 = .ok t)
    (later : List (Act H)) :
    (s.calls.made, t) ∈ ((s.step (.request topic payload o)).run later).calls.opened := by
  refine opened_subset_run _ later ?_
  rw [calls_of_openRequest ht]
  exact List.mem_concat_self

/-- As long as a request with a literal address is pending, its reply
    subscription is found there. -/
theorem found_of_pending {config : BusConfig} {hosted : Bool} {acts : List (Act H)} {n : Nat}
    {t : Ticket} (own : OwnIds (start config hosted) acts)
    (hopened : (n, t) ∈ ((start config hosted).run acts).calls.opened)
    (hliteral : Pattern.parse t.replyTopic = .ok (.exact t.replyTopic))
    (hpending : ((start config hosted).run acts).bus.hasPending t.correlation = true) :
    ∃ sub ∈ ((start config hosted).run acts).bus.index.matching t.replyTopic,
      sub.handler = .reply t.correlation := by
  obtain ⟨live, hr, -⟩ := run_booked config hosted acts own
  obtain ⟨live', hlive', htuned⟩ := (run_listening config hosted acts).filed
  obtain ⟨e, he, hec⟩ : ∃ e ∈ ((start config hosted).run acts).bus.pending,
      e.correlation = t.correlation := by simpa [hasPending] using hpending
  obtain ⟨sub, hsub, hreply, -⟩ := hr.mem_replies.2 ⟨e, he, hec, rfl⟩
  have hhandler : sub.handler = .reply t.correlation := by
    unfold Subscription.reply? at hreply
    split at hreply <;> simp_all
  have hmem : sub ∈ live' :=
    hlive'.entries_perm.mem_iff.1 (hr.index.entries_perm.mem_iff.2 hsub)
  have hpattern := (htuned sub hmem).pattern _ hhandler (n, t) hopened rfl
  have hexact : sub.pattern = .exact t.replyTopic := Except.ok.inj (hpattern.symm.trans hliteral)
  refine ⟨sub, ?_, hhandler⟩
  rw [hlive'.matching_eq, List.mem_mergeSort]
  exact List.mem_filter.2 ⟨hmem, by simp [hexact, Pattern.accepts]⟩

/-- **The address of a request.**  Whatever the settings and whatever happened
    before, a request that is refused leaves what is pending and filed as it was.
    For one that is opened it is the prefix that decides: without a wildcard its
    reply topic is answerable, and as long as the request is pending, its reply
    subscription is found there; with one, nobody can answer it. -/
theorem reply_address (config : BusConfig) (hosted : Bool) (acts : List (Act H)) (topic : String)
    (payload : Json) (o : RequestOptions) :
    let s := (start config hosted).run acts
    let s' := s.step (.request topic payload o)
    (∀ f, (s.bus.openRequest s.now topic payload o).1 = .error f →
      s'.bus.pending = s.bus.pending ∧ s'.bus.patterns = s.bus.patterns ∧
        s'.bus.index.entries.Perm s.bus.index.entries) ∧
    ∀ t, (s.bus.openRequest s.now topic payload o).1 = .ok t →
      (hasStar config.replyPrefix = false → Answerable H t.replyTopic ∧
        ∀ later, OwnIds (start config hosted) (acts ++ .request topic payload o :: later) →
          (s'.run later).bus.hasPending t.correlation = true →
          ∃ sub ∈ (s'.run later).bus.index.matching t.replyTopic,
            sub.handler = .reply t.correlation) ∧
      (hasStar config.replyPrefix = true → Unanswerable H t.replyTopic) := by
  intro s s'
  have hconfig : s.bus.config = config := (run_accounts (start config hosted) acts).config
  have hopens := s.bus.openRequest_opens s.now topic payload o
  refine ⟨fun f hf => ?_, fun t ht => ?_⟩
  · obtain ⟨-, live, hshelved, -⟩ := run_stems (start_shelved config hosted).stems acts
    rw [hf] at hopens
    have hbus : s'.bus = (s.bus.openRequest s.now topic payload o).2 := s.step_request_bus ..
    rw [hbus]
    obtain ⟨hfiled, hpending⟩ :=
      hshelved.toFiled.of_refused (run_unused config hosted acts) hopens
    exact ⟨hpending, hfiled.patterns.trans hshelved.patterns.symm,
      hfiled.index.entries_perm.trans hshelved.index.entries_perm.symm⟩
  · obtain rfl := ticket_of_openRequest ht
    refine ⟨fun hplain => ?_, fun hstar => ?_⟩
    · obtain ⟨p, hp⟩ := Opens.read (ht ▸ hopens)
      have hstar : hasStar s.bus.replyTopic = false := hasStar_replyTopic (hconfig ▸ hplain)
      obtain rfl := Pattern.eq_exact_of_parse hp hstar
      have hdefect := (Pattern.parse_eq_exact.1 hp).2
      refine ⟨answerable_of_topic hdefect, fun later own hpending => ?_⟩
      have hrun : (start config hosted).run (acts ++ .request topic payload o :: later) =
          s'.run later := by rw [run_append, run_cons]
      have hopened := mem_opened_after ht later
      rw [← hrun] at hpending hopened ⊢
      exact found_of_pending own hopened hp hpending
    · refine unanswerable_of_star ?_
      have hprefix : hasStar s.bus.config.replyPrefix = true := hconfig ▸ hstar
      simp [ticket, replyTopic, hasStar_append, hprefix]

/-- With the settings a bus has by itself, a request can be answered, and its
    reply subscription is there. -/
theorem reply_address_answerable :
    let s := (start {} true).step (.serve "svc" () {})
    ∃ t, (s.bus.openRequest s.now "svc" .null {}).1 = .ok t ∧ Answerable Unit t.replyTopic ∧
      ∃ sub ∈ (s.step (.request "svc" .null {})).bus.index.matching t.replyTopic,
        sub.handler = .reply t.correlation := by
  have hpending : (((start {} true).step (.serve "svc" () {})).step
      (.request "svc" .null {})).bus.hasPending (Mint.grouped 1 1) = true := by decide +kernel
  obtain ⟨t, ht⟩ : ∃ t, (((start {} true).step (.serve "svc" () {})).bus.openRequest 0 "svc" .null
      {}).1 = .ok t := ⟨_, rfl⟩
  have hcorrelation : t.correlation = Mint.grouped 1 1 := by
    rw [ticket_of_openRequest ht]
    rfl
  have own : OwnIds (start {} true) ([.serve "svc" () {}] ++ [.request "svc" .null {}]) := by
    intro before id after heq
    have hmem : Act.unsubscribe id ∈ before ++ .unsubscribe id :: after := by simp
    rw [← heq] at hmem
    simp at hmem
  have hplain : hasStar ({} : BusConfig).replyPrefix = false := by decide
  obtain ⟨-, hopened⟩ := reply_address {} true [.serve "svc" () {}] "svc" .null {}
  obtain ⟨hanswerable, hfound⟩ := (hopened t ht).1 hplain
  rw [← hcorrelation] at hpending
  exact ⟨t, ht, hanswerable, hfound [] own hpending⟩

/-- A prefix that is a wildcard: the request is opened, the responder answers, and
    the request times out. -/
theorem reply_unanswerable :
    let s := (start { replyPrefix := "*" } true).step (.serve "svc" () {})
    ∃ t, (s.bus.openRequest s.now "svc" .null { timeoutMs := some 100 }).1 = .ok t ∧
      (∀ p, Pattern.parse t.replyTopic = .ok p → p.kind ≠ .exact) ∧
      (∀ u, Address.topic t.replyTopic ≠ .ok u) ∧
      (s.run [.request "svc" .null { timeoutMs := some 100 }, .turn, .turn,
        .finish (.returned .null), .turn, .turn, .wait 100, .attend 0]).calls.answers =
        [(0, .error (.timeout "svc" 100))] := by
  obtain ⟨t, ht⟩ : ∃ t, (((start { replyPrefix := "*" } true).step (.serve "svc" () {})).bus.openRequest
      0 "svc" .null { timeoutMs := some 100 }).1 = .ok t := ⟨_, rfl⟩
  have hstar : hasStar t.replyTopic = true := by
    rw [ticket_of_openRequest ht]
    decide +kernel
  have hwide := (unanswerable_of_star (H := Unit) hstar).wide
  exact ⟨t, ht, hwide, fun u hu => hwide _ (parse_of_publishable hu) rfl, rfl⟩

end Session

end Bus

end Switchboard
