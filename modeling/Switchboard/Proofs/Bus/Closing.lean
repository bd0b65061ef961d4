import Switchboard.Proofs.Bus.Register

/-
  Closing — what is left of a bus that was shut down.

  * `Shut`: nothing is filed and nothing is pending; every act keeps it so,
    `step_shut`, and every call is refused, `publish_of_closed` and the lemmas
    beside it;
  * `Leftover`: what the drainer does after a shutdown is left over from the
    delivery that was under way, `run_leftover`;
  * `Fetches`: what becomes of a request whose result lies ready, `run_fetches`;
  * `shutdown_final` puts them together, for everything that may happen before a
    shutdown and after it.
-/

namespace Switchboard.Bus

variable {H : Type}

/-! ## A bus that was shut down -/

/-- A closed bus, with nothing filed and nothing pending. -/
structure Shut (b : Bus H) : Prop where
  closed : b.closed = true
  index : b.index = {}
  patterns : b.patterns = []
  pending : b.pending = []

/-- Where nothing is filed and nothing is pending, messages and answers leave it
    so. -/
theorem lasting_bare :
    Lasting fun b : Bus H => b.index = {} ∧ b.patterns = [] ∧ b.pending = [] where
  congr h hindex hpatterns hpending _ := by rw [hindex, hpatterns, hpending]; exact h
  settle {b} h c r := by
    have hsame : b.settle c r = b := by simp only [settle, h.2.2, List.find?_nil]
    rw [hsame]
    exact h
  close {b} h c := by
    have hsame : b.close c = { b with settled := b.settled.filter (·.1 ≠ c) } := by
      simp only [close, h.2.2, List.find?_nil]
    rw [hsame]
    exact h

theorem shutdown_of_closed {b : Bus H} (h : b.closed = true) : b.shutdown = b := by
  simp only [shutdown, h, if_true]

theorem shutdown_shut {b : Bus H} (h : b.closed = true → b.Shut) : b.shutdown.Shut := by
  rcases hclosed : b.closed with _ | _
  · have heffect := b.shutdown_effect.closed
    rw [shutdownTraffic, hclosed] at heffect
    refine ⟨heffect, ?_, ?_, b.pending_shutdown hclosed⟩ <;> simp [shutdown, hclosed]
  · rw [shutdown_of_closed hclosed]
    exact h hclosed

/-! ## What a closed bus refuses -/

section Refused

variable {b : Bus H} (h : b.closed = true)

include h

theorem publish_of_closed (now : Nat) (topic : String) (payload : Json) (o : PublishOptions) :
    b.publish now topic payload o = (.error .shutdown, b) := by
  simp only [publish, h, if_true]

theorem add_of_closed (p : Pattern) (listener : Listener H) (metadata : Metadata) :
    b.add p listener metadata = (.error .shutdown, b) := by
  simp only [add, h, if_true]

theorem subscribe_of_closed {topic : String} {p : Pattern} (hp : Address.pattern topic = .ok p)
    (hkind : p.kind = .exact) (listener : Listener H) (metadata : Metadata) :
    b.subscribe topic listener metadata = (.error .shutdown, b) := by
  simp only [subscribe, hp, hkind, if_true, add_of_closed h]

theorem subscribePattern_of_closed {pattern : String} {p : Pattern}
    (hp : Address.pattern pattern = .ok p) (hkind : p.kind = .under) (listener : Listener H)
    (metadata : Metadata) :
    b.subscribePattern pattern listener metadata = (.error .shutdown, b) := by
  simp only [subscribePattern, hp, hkind, if_true, add_of_closed h]

theorem openRequest_of_closed {topic : String} {pattern : Pattern}
    (htopic : Address.topic topic = .ok ()) (hpattern : Address.pattern b.replyTopic = .ok pattern)
    (now : Nat) (payload : Json) (o : RequestOptions) :
    b.openRequest now topic payload o =
      (.error .shutdown, { b with mint := b.mint.advance.advance }) := by
  rw [openRequest_eq now payload o htopic hpattern, if_pos h]

/-- Subscribing leaves a closed bus as it is, whatever the name. -/
theorem Subscribes.of_closed {name : String} {listener : Listener H} {metadata : Metadata} :
    (b.subscribe name listener metadata).2 = b ∧
      (b.subscribePattern name listener metadata).2 = b := by
  constructor
  · unfold subscribe
    split
    · rfl
    · split
      · rw [add_of_closed h]
      · rfl
  · unfold subscribePattern
    split
    · rfl
    · split
      · rw [add_of_closed h]
      · rfl

/-- A request spends identifiers on a closed bus, and is refused, whatever the
    topic. -/
theorem openRequest_refused (now : Nat) (topic : String) (payload : Json) (o : RequestOptions) :
    ∃ f mint, b.openRequest now topic payload o = (.error f, { b with mint }) := by
  rcases htopic : Address.topic topic with f | ⟨⟩
  · exact ⟨f, b.mint, by simp only [openRequest, htopic]⟩
  rcases hpattern : Address.pattern b.replyTopic with f | pattern
  · refine ⟨f, b.mint.advance.advance, ?_⟩
    simp only [replyTopic, Mint.take, Mint.takeRun] at hpattern
    simp only [openRequest, htopic, Mint.take, Mint.takeRun, hpattern]
  · exact ⟨.shutdown, _, openRequest_of_closed h htopic hpattern now payload o⟩

end Refused

/-! ## The delivery under way -/

/-- A delivery goes on that was under way before, with the same message and no
    subscription that was not still to be reached. -/
def Leftover (before now : Option (Pass H)) : Prop :=
  ∀ pass, now = some pass → ∃ pass₀, before = some pass₀ ∧
    pass.parcel.message = pass₀.parcel.message ∧ pass.rest ⊆ pass₀.rest

namespace Leftover

variable {before now later : Option (Pass H)}

theorem refl (before : Option (Pass H)) : Leftover before before :=
  fun pass h => ⟨pass, h, rfl, List.Subset.refl _⟩

theorem none (before : Option (Pass H)) : Leftover before none := fun _ h => nomatch h

theorem trans (h : Leftover before now) (h' : Leftover now later) : Leftover before later := by
  intro pass hpass
  obtain ⟨pass₁, hnow, hmessage, hrest⟩ := h' pass hpass
  obtain ⟨pass₀, hbefore, hmessage₀, hrest₀⟩ := h pass₁ hnow
  exact ⟨pass₀, hbefore, hmessage.trans hmessage₀, List.Subset.trans hrest hrest₀⟩

/-- Nothing is left over from nothing. -/
theorem eq_none (h : Leftover Option.none now) : now = Option.none := by
  rcases now with _ | pass
  · rfl
  · obtain ⟨pass₀, hbefore, -⟩ := h pass rfl
    cases hbefore

end Leftover

/-- Where nothing is filed, the drainer begins no delivery. -/
theorem Turns.leftover {b b' : Bus H} {now : Nat} {t : Traffic} {os : List (String × Reply)}
    (h : b.Turns now t os b') (hindex : b.index = {}) : Leftover b.pass? b'.pass? := by
  have hready {b' : Bus H} (hd' : b'.drainer = .ready) : Leftover b.pass? b'.pass? := by
    simp only [pass?, hd']
    exact .none _
  have hmoved {pass pass' : Pass H} {b' : Bus H} (hd : b.drainer = .delivering pass)
      (hd' : b'.drainer = .delivering pass') (hmessage : pass'.parcel.message = pass.parcel.message)
      (hrest : pass'.rest ⊆ pass.rest) : Leftover b.pass? b'.pass? := by
    intro pass'' hpass''
    rw [pass?_eq_some.2 hd'] at hpass''
    cases hpass''
    exact ⟨pass, pass?_eq_some.2 hd, hmessage, hrest⟩
  cases h with
  | idle => exact .refl _
  | busy => exact .refl _
  | rested => exact .none _
  | expired p queue hd => exact hready hd
  | unheard p queue counters hd => exact hready ((settleMessage_atDesk _ _ _).drainer.trans hd)
  | begun p queue _ _ _ hmatching =>
    refine absurd (List.eq_nil_iff_forall_not_mem.2 fun sub hsub => ?_) hmatching
    rw [hindex] at hsub
    exact absurd (Index.mirrors_empty.mem_matching hsub).1 List.not_mem_nil
  | processed pass hd => exact hready rfl
  | retried pass hd => exact hready (enqueue_joins _ _).drainer
  | failed pass f hd => exact hready (settleMessage_atDesk _ _ _).drainer
  | skipped pass sub rest hd _ hrest =>
    exact hmoved hd rfl rfl (by rw [hrest]; exact List.subset_cons_self _ _)
  | replied pass sub rest c hd _ hrest =>
    exact hmoved hd rfl rfl (by rw [hrest]; exact List.subset_cons_self _ _)
  | passed pass sub rest hd _ hrest =>
    exact hmoved hd rfl rfl (by rw [hrest]; exact List.subset_cons_self _ _)
  | invoked pass sub rest hd _ hrest =>
    exact hmoved hd rfl rfl (by rw [hrest]; exact List.subset_cons_self _ _)

theorem Finishes.leftover {b b' : Bus H} {now : Nat} {ending : Ending} {t : Traffic}
    (h : b.Finishes now ending t b') : Leftover b.pass? b'.pass? := by
  have hsame {pass pass' : Pass H} {b' : Bus H} (hd : b.drainer = .delivering pass)
      (hd' : b'.drainer = .delivering pass') (hmessage : pass'.parcel.message = pass.parcel.message)
      (hrest : pass'.rest = pass.rest) : Leftover b.pass? b'.pass? := by
    intro pass'' hpass''
    rw [pass?_eq_some.2 hd'] at hpass''
    cases hpass''
    exact ⟨pass, pass?_eq_some.2 hd, hmessage, hrest ▸ List.Subset.refl _⟩
  cases h with
  | idle => exact .refl _
  | rejected pass s f hd => exact hsame hd rfl rfl rfl
  | accepted pass s hd => exact hsame hd rfl rfl rfl
  | answered pass s answer hd => exact hsame hd rfl rfl rfl

/-- A handler that the drainer asks for belongs to the delivery under way. -/
theorem turn_invoke {b : Bus H} {now : Nat} {call : Invocation H}
    (h : (b.turn now).2 = .invoke call) :
    ∃ pass sub, b.pass? = some pass ∧ sub ∈ pass.rest ∧ call.message = pass.parcel.message ∧
      (sub.handler = .subscriber call.handler ∨ sub.handler = .responder call.handler) := by
  rcases hd : b.drainer with _ | _ | pass
  · simp only [turn, hd] at h
    cases h
  · rcases hp : b.queue.pop? with _ | ⟨p, queue⟩ <;> simp only [turn, hd, hp] at h <;> cases h
  · refine ⟨pass, ?_⟩
    simp only [turn, hd] at h
    rcases hrun : pass.running with _ | s
    · rcases hrest : pass.rest with _ | ⟨s, rest⟩
      · simp only [hrun, hrest] at h
        cases h
      · refine ⟨s, pass?_eq_some.2 hd, List.mem_cons_self, ?_⟩
        simp only [hrun, hrest] at h
        split at h
        · cases h
        · rcases hs : s.handler with g | g | c <;> simp only [deliver, hs] at h
          · cases h
            exact ⟨rfl, Or.inl rfl⟩
          · split at h
            · cases h
              exact ⟨rfl, Or.inr rfl⟩
            · cases h
          · cases h
    · simp only [hrun] at h
      cases h

namespace Session

theorem step_closed {s : Session H} (h : s.bus.closed = true) (a : Act H) :
    (s.step a).bus.closed = true := by
  rw [(s.step_accounts a).closed, h, Bool.true_or]

/-- **Every act** leaves a bus shut that was shut down. -/
theorem step_shut {s : Session H} (h : s.bus.Shut) (a : Act H) : (s.step a).bus.Shut := by
  have hclosed := step_closed h.closed a
  by_cases hroutine : a.isRoutine = true
  · obtain ⟨hindex, hpatterns, hpending⟩ :=
      lasting_bare.step ⟨h.index, h.patterns, h.pending⟩ hroutine
    exact ⟨hclosed, hindex, hpatterns, hpending⟩
  cases a with
  | subscribe topic handler metadata =>
    simp only [step, (Subscribes.of_closed h.closed).1]
    exact h
  | subscribePattern pattern handler metadata =>
    simp only [step, (Subscribes.of_closed h.closed).2]
    exact h
  | serve topic handler metadata =>
    simp only [step, (Subscribes.of_closed h.closed).1]
    exact h
  | unsubscribe id =>
    simp only [step, unsubscribe, h.patterns, List.lookup_nil]
    exact h
  | unsubscribePlugin plugin =>
    refine ⟨hclosed, ?_, ?_, h.pending⟩
    · simp only [step, unsubscribePlugin, h.index]
      rfl
    · simp only [step, unsubscribePlugin, h.patterns, List.filter_nil]
  | request topic payload o =>
    obtain ⟨f, mint, hopen⟩ := openRequest_refused h.closed s.now topic payload o
    rw [step_request_bus, hopen]
    exact ⟨h.closed, h.index, h.patterns, h.pending⟩
  | shutdown =>
    simp only [step, shutdown_of_closed h.closed]
    exact h
  | _ => exact absurd rfl hroutine

theorem run_shut {s : Session H} (h : s.bus.Shut) (acts : List (Act H)) : (s.run acts).bus.Shut := by
  induction acts using List.reverseRecOn with
  | nil => exact h
  | append_singleton acts a ih =>
    rw [run_concat]
    exact step_shut ih a

/-- A bus gets closed by being shut down. -/
theorem shut_of_closed (config : BusConfig) (hosted : Bool) (acts : List (Act H)) :
    ((start config hosted).run acts).bus.closed = true → ((start config hosted).run acts).bus.Shut := by
  refine run_induction (P := fun _ s => s.bus.closed = true → s.bus.Shut) (fun h => ?_)
    (fun acts a ih h => ?_) acts
  · cases h
  · by_cases hshut : a = .shutdown
    · subst hshut
      exact shutdown_shut ih
    · rw [(step_accounts _ a).closed, Bool.or_eq_true] at h
      rcases h with h | h
      · exact step_shut (ih h) a
      · exact absurd (shut_cases h) hshut

/-! ## The delivery under way -/

theorem step_leftover {s : Session H} (h : s.bus.Shut) (a : Act H) :
    Leftover s.bus.pass? (s.step a).bus.pass? := by
  by_cases hturn : a = .turn
  · subst hturn
    rw [step_turn_bus]
    exact (s.bus.turn_turns s.now).leftover h.index
  by_cases hfinish : ∃ ending, a = .finish ending
  · obtain ⟨ending, rfl⟩ := hfinish
    exact (s.bus.finish_finishes s.now ending).leftover
  · rw [step_pass? s hturn fun ending heq => hfinish ⟨ending, heq⟩]
    exact .refl _

/-- **Deliveries** after a shutdown are left over from the one that was under way. -/
theorem run_leftover {s : Session H} (h : s.bus.Shut) (acts : List (Act H)) :
    Leftover s.bus.pass? (s.run acts).bus.pass? := by
  induction acts using List.reverseRecOn with
  | nil => exact .refl _
  | append_singleton acts a ih =>
    rw [run_concat]
    exact ih.trans (step_leftover (run_shut h acts) a)

/-! ## Results that lie ready -/

/-- The results that a request has got. -/
def answersTo (s : Session H) (n : Nat) : List Reply :=
  (s.calls.answers.filter (·.1 = n)).map (·.2)

/-- What becomes of a request whose result lies ready: it has not fetched it yet,
    it has got it and nothing else, or it was given up. -/
inductive Fetches (n : Nat) (t : Ticket) (r : Reply) (acts : List (Act H)) (s : Session H) : Prop
  | waits : (n, t) ∈ s.calls.waiting → s.bus.result? t = some r → s.answersTo n = [] →
      Fetches n t r acts s
  | fetched : n ∉ s.calls.waiting.map (·.1) → s.answersTo n = [r] → Fetches n t r acts s
  | dropped : n ∉ s.calls.waiting.map (·.1) → .drop n ∈ acts → s.answersTo n = [] →
      Fetches n t r acts s

theorem answersTo_concat {s s' : Session H} {n' : Nat} {r' : Reply} (n : Nat)
    (h : s'.calls.answers = s.calls.answers ++ [(n', r')]) :
    s'.answersTo n = s.answersTo n ++ if n' = n then [r'] else [] := by
  unfold answersTo
  rw [h, List.filter_append, List.map_append, List.filter_singleton]
  by_cases hn : n' = n <;> simp [hn]

/-- Settling does nothing at the desk of a bus that was shut down. -/
theorem settleAll_of_shut {b : Bus H} (h : b.Shut) (os : List (String × Reply)) :
    b.desk.settleAll os = b.desk := by
  induction os with
  | nil => rfl
  | cons o os ih =>
    have hwaits : b.desk.waits o.1 = false := by simp [Desk.waits, desk, h.pending]
    have hone : b.desk.settle o = b.desk := by simp [Desk.settle, hwaits]
    rw [Desk.settleAll_cons, hone]
    exact ih

/-- A request looks after itself only while it waits. -/
theorem number_of_lookup {k : Calls} {n : Nat} {t : Ticket} (h : k.waiting.lookup n = some t) :
    n ∈ k.waiting.map (·.1) := List.mem_map_of_mem (f := (·.1)) (List.mem_of_lookup h)

theorem notMem_drop {k : Calls} {n : Nat} (n' : Nat) (h : n ∉ k.waiting.map (·.1)) :
    n ∉ (k.drop n').waiting.map (·.1) :=
  fun hn => h ((List.filter_sublist.map _).subset hn)

theorem Fetches.mono {n : Nat} {t : Ticket} {r : Reply} {acts : List (Act H)} {s s' : Session H}
    (h : Fetches n t r acts s) (a : Act H) (hwaiting : s'.calls.waiting = s.calls.waiting)
    (hsettled : s'.bus.settled = s.bus.settled) (hanswers : s'.answersTo n = s.answersTo n) :
    Fetches n t r (acts ++ [a]) s' := by
  cases h with
  | waits hwait hresult hnone =>
    refine .waits (hwaiting ▸ hwait) ?_ (hanswers.trans hnone)
    rw [result?, hsettled]
    exact hresult
  | fetched hwait hone => exact .fetched (hwaiting ▸ hwait) (hanswers.trans hone)
  | dropped hwait hdrop hnone =>
    exact .dropped (hwaiting ▸ hwait) (List.mem_append_left _ hdrop) (hanswers.trans hnone)

/-- A result that lies ready is got by whoever looks after the request. -/
theorem attend_of_result {b : Bus H} {now : Nat} {t : Ticket} {r : Reply}
    (h : b.result? t = some r) : b.attend now t = (some r, b.close t.correlation) := by
  simp only [attend, h]

/-- Looking after a request that waits gives it the result that lies ready. -/
theorem step_attend_of_result {s : Session H} (horder : InOrder s.calls s.bus.desk s.bus.mint)
    {n : Nat} {t : Ticket} {r : Reply} (hwait : (n, t) ∈ s.calls.waiting)
    (hresult : s.bus.result? t = some r) :
    (s.step (.attend n)).calls.answers = s.calls.answers ++ [(n, r)] := by
  have hdistinct : (s.calls.waiting.map (·.1)).Nodup := horder.numbers.sublist (horder.waiting.map _)
  have hlookup : s.calls.waiting.lookup n = some t := List.lookup_of_mem hdistinct hwait
  simp only [step, hlookup, attend_of_result hresult]
  rfl

/-- Ending another request leaves a result where it is. -/
theorem result?_of_close {b b' : Bus H} {t : Ticket} {c : String}
    (hdesk : b'.desk = b.desk.close c) (distinct : (b.settled.map (·.1)).Nodup)
    (h : t.correlation ≠ c) : b'.result? t = b.result? t := by
  have hsettled : b'.settled = b.settled.filter (·.1 ≠ c) := congrArg Desk.settled hdesk
  unfold result?
  rw [hsettled, List.lookup_filter distinct]
  cases b.settled.lookup t.correlation <;> simp [h]

/-- A request that still waits has its result ready, and has got nothing. -/
theorem Fetches.ready {n : Nat} {t : Ticket} {r : Reply} {acts : List (Act H)} {s : Session H}
    (h : Fetches n t r acts s) (hwait : n ∈ s.calls.waiting.map (·.1)) :
    s.bus.result? t = some r ∧ s.answersTo n = [] := by
  cases h with
  | waits _ hresult hnone => exact ⟨hresult, hnone⟩
  | fetched hgone => exact absurd hwait hgone
  | dropped hgone => exact absurd hwait hgone

/-- What becomes of other requests is nothing to a request. -/
theorem Fetches.other {n n' : Nat} {t t' : Ticket} {r : Reply} {acts : List (Act H)}
    {s s' : Session H} (h : Fetches n t r acts s) (horder : InOrder s.calls s.bus.desk s.bus.mint)
    (hopened : (n, t) ∈ s.calls.opened) (hne : n' ≠ n)
    (hlookup : s.calls.waiting.lookup n' = some t') (a : Act H)
    (hwaiting : s'.calls.waiting = (s.calls.drop n').waiting)
    (hanswers : s'.answersTo n = s.answersTo n)
    (hdesk : s'.bus.desk = s.bus.desk.close t'.correlation) : Fetches n t r (acts ++ [a]) s' := by
  have hcorrelation : t.correlation ≠ t'.correlation := fun heq =>
    hne (congrArg Prod.fst (horder.eq_of_correlation
      (horder.waiting.subset (List.mem_of_lookup hlookup)) hopened heq.symm))
  cases h with
  | waits hwait hresult hnone =>
    refine .waits ?_ ?_ (hanswers.trans hnone)
    · rw [hwaiting]
      exact List.mem_filter.2 ⟨hwait, by simpa using hne.symm⟩
    · rw [result?_of_close hdesk horder.nodup_keys.of_append_right hcorrelation]
      exact hresult
  | fetched hwait hone => exact .fetched (hwaiting ▸ notMem_drop n' hwait) (hanswers.trans hone)
  | dropped hwait hdrop hnone =>
    exact .dropped (hwaiting ▸ notMem_drop n' hwait) (List.mem_append_left _ hdrop)
      (hanswers.trans hnone)

theorem Fetches.step {n : Nat} {t : Ticket} {r : Reply} {acts : List (Act H)} {s : Session H}
    (h : Fetches n t r acts s) (hshut : s.bus.Shut)
    (horder : InOrder s.calls s.bus.desk s.bus.mint) (hopened : (n, t) ∈ s.calls.opened)
    (a : Act H) : Fetches n t r (acts ++ [a]) (s.step a) := by
  have hstep := callStep s a
  generalize hs' : s.step a = s' at hstep
  have hsame {n' : Nat} {t' : Ticket} (hn : n' = n)
      (hlookup : s.calls.waiting.lookup n' = some t') : t' = t :=
    congrArg Prod.snd (horder.eq_of_number (horder.waiting.subset (List.mem_of_lookup hlookup)) hopened hn)
  have hgone (n' : Nat) : n' ∉ (s.calls.drop n').waiting.map (·.1) := by
    simp [Calls.drop]
  cases hstep with
  | settled a s' hcalls hdesk =>
    rw [settleAll_of_shut hshut] at hdesk
    exact h.mono a (by rw [hcalls]) (congrArg Desk.settled hdesk) (by rw [answersTo, hcalls]; rfl)
  | begun topic payload o s' hopen =>
    obtain ⟨f, mint, hrefused⟩ := openRequest_refused hshut.closed s.now topic payload o
    rw [hrefused] at hopen
    cases hopen
  | refused topic payload o f s' hopen hcalls =>
    obtain ⟨f', mint, hrefused⟩ := openRequest_refused hshut.closed s.now topic payload o
    have hbus : s'.bus = { s.bus with mint } := by
      rw [← hs', step_request_bus, hrefused]
    have hmade : s.calls.made ≠ n := (Nat.ne_of_lt (horder.made _ hopened)).symm
    have hanswers : s'.calls.answers = s.calls.answers ++ [(s.calls.made, .error f)] := by
      rw [hcalls]
      rfl
    refine h.mono _ (by rw [hcalls]; rfl) (by rw [hbus]) ?_
    rw [answersTo_concat n hanswers, if_neg hmade, List.append_nil]
  | answered n' t' r' s' hlookup hattend hcalls hdesk =>
    have hanswers : s'.calls.answers = s.calls.answers ++ [(n', r')] := by
      rw [hcalls]
      rfl
    have hwaiting : s'.calls.waiting = (s.calls.drop n').waiting := by
      rw [hcalls]
      rfl
    by_cases hn : n' = n
    · have ht := hsame hn hlookup
      subst hn ht
      obtain ⟨hresult, hnone⟩ := h.ready (number_of_lookup hlookup)
      rw [attend_of_result hresult] at hattend
      cases hattend
      refine .fetched (hwaiting ▸ hgone _) ?_
      rw [answersTo_concat _ hanswers, hnone, if_pos rfl]
      rfl
    · refine h.other horder hopened hn hlookup _ hwaiting ?_ hdesk
      rw [answersTo_concat n hanswers, if_neg hn, List.append_nil]
  | dropped n' t' s' hlookup hcalls hdesk =>
    have hanswers : s'.answersTo n = s.answersTo n := by
      rw [answersTo, hcalls]
      rfl
    have hwaiting : s'.calls.waiting = (s.calls.drop n').waiting := by rw [hcalls]
    by_cases hn : n' = n
    · subst hn
      obtain ⟨-, hnone⟩ := h.ready (number_of_lookup hlookup)
      exact .dropped (hwaiting ▸ hgone _) List.mem_concat_self (hanswers.trans hnone)
    · exact h.other horder hopened hn hlookup _ hwaiting hanswers hdesk

/-- **Results** that lie ready on a bus that was shut down are got once, unless
    the request is given up. -/
theorem run_fetches {n : Nat} {t : Ticket} {r : Reply} {s : Session H} (hshut : s.bus.Shut)
    (horder : InOrder s.calls s.bus.desk s.bus.mint) (hwait : (n, t) ∈ s.calls.waiting)
    (hresult : s.bus.result? t = some r) (acts : List (Act H)) :
    Fetches n t r acts (s.run acts) := by
  have hnone : s.answersTo n = [] := by
    simp only [answersTo, List.map_eq_nil_iff, List.filter_eq_nil_iff, decide_eq_true_eq]
    exact fun x hx heq => (horder.answered x hx).2 _ hwait heq
  induction acts using List.reverseRecOn with
  | nil => exact .waits hwait hresult hnone
  | append_singleton acts a ih =>
    rw [run_concat]
    have horder' : InOrder (s.run acts).calls (s.run acts).bus.desk (s.run acts).bus.mint :=
      run_induction (P := fun _ s => InOrder s.calls s.bus.desk s.bus.mint) horder
        (fun _ a h => step_inOrder h a) acts
    exact ih.step (run_shut hshut acts) horder'
      (opened_subset_run s acts (horder.waiting.subset hwait)) a

/-- **What a shutdown has ready** for a request that waits: the fault of the
    shutdown if it was pending, else the result that it had already. -/
theorem shutdown_result {s : Session H} (hclosed : s.bus.closed = true → s.bus.Shut)
    (horder : InOrder s.calls s.bus.desk s.bus.mint) {x : Nat × Ticket}
    (hx : x ∈ s.calls.waiting) :
    ∃ r, (if s.bus.hasPending x.2.correlation = true then r = .error .shutdown
        else s.bus.result? x.2 = some r) ∧ (s.step .shutdown).bus.result? x.2 = some r := by
  have hdesk : (s.step .shutdown).bus.desk = s.bus.desk.settleAll s.bus.dismissed :=
    s.bus.shutdown_effect.desk
  have hshut : (s.step .shutdown).bus.Shut := shutdown_shut hclosed
  have horder' := step_inOrder horder .shutdown
  have hsome := (pending_or_settled horder' hx).resolve_left (by simp [hasPending, hshut.pending])
  obtain ⟨r, hr⟩ := Option.isSome_iff_exists.1 hsome
  refine ⟨r, ?_, hr⟩
  have hmem : (x.2.correlation, r) ∈ (s.bus.desk.settleAll s.bus.dismissed).settled :=
    hdesk ▸ List.mem_of_lookup hr
  have hdistinct : (s.bus.settled.map (·.1)).Nodup := horder.nodup_keys.of_append_right
  split
  · next hpending =>
    obtain ⟨e, he, hec⟩ := Desk.waits_iff.1 ((desk_waits _ _).trans hpending)
    rcases Desk.mem_settled_settleAll hmem with hold | ⟨hnew, -⟩
    · have hdisjoint := List.disjoint_of_nodup_append horder.nodup_keys
      exact absurd (List.mem_map_of_mem (f := (·.1)) hold)
        (hdisjoint (hec ▸ List.mem_map_of_mem (f := (·.correlation)) he))
    · unfold dismissed at hnew
      split at hnew
      · cases hnew
      · obtain ⟨e, -, heq⟩ := List.mem_map.1 hnew
        exact (congrArg Prod.snd heq).symm
  · next hpending =>
    have hold := (Desk.mem_settled_settleAll hmem).resolve_right fun h => hpending h.2
    exact List.lookup_of_mem hdistinct hold

/-! ## Shutdown -/

/-- **Shutdown is final.**  Whatever happened before, and whatever happens
    afterwards:

    * nothing is pending and nothing subscribed;
    * every publication, subscription and request that would otherwise be
      accepted is refused because of the shutdown, and queues nothing;
    * a request that waited gets the fault of the shutdown, or the result that it
      had already, and nothing else, unless it is given up; while it waits,
      looking after it gives it this result at once;
    * the drainer begins no delivery, and the handlers it asks for are those that
      the delivery under way was still to reach;
    * another shutdown changes nothing. -/
theorem shutdown_final (config : BusConfig) (hosted : Bool) (before after : List (Act H)) :
    let s := (start config hosted).run before
    let s' := (s.step .shutdown).run after
    (s'.bus.pendingCount = 0 ∧ s'.bus.subscriptionCount = 0) ∧
      (∀ now topic payload o,
        s'.bus.publish now topic payload o = (.error .shutdown, s'.bus)) ∧
      (∀ name p listener metadata, Address.pattern name = .ok p →
        (p.kind = .exact → s'.bus.subscribe name listener metadata = (.error .shutdown, s'.bus)) ∧
          (p.kind = .under →
            s'.bus.subscribePattern name listener metadata = (.error .shutdown, s'.bus))) ∧
      (∀ now topic payload o p, Address.topic topic = .ok () →
        Address.pattern s'.bus.replyTopic = .ok p →
        ∃ mint, s'.bus.openRequest now topic payload o = (.error .shutdown, { s'.bus with mint })) ∧
      (∀ x ∈ s.calls.waiting, ∃ r,
        (if s.bus.hasPending x.2.correlation = true then r = .error .shutdown
          else s.bus.result? x.2 = some r) ∧
        Fetches x.1 x.2 r after s' ∧
        (x ∈ s'.calls.waiting →
          (s'.step (.attend x.1)).calls.answers = s'.calls.answers ++ [(x.1, r)])) ∧
      (s'.bus.drainer = .ready → (s'.step .turn).bus.pass? = none) ∧
      (∀ call, (s'.bus.turn s'.now).2 = .invoke call → ∃ pass sub, s.bus.pass? = some pass ∧
        sub ∈ pass.rest ∧ call.message = pass.parcel.message ∧
        (sub.handler = .subscriber call.handler ∨ sub.handler = .responder call.handler)) ∧
      s'.step .shutdown = s' := by
  intro s s'
  have horder : InOrder s.calls s.bus.desk s.bus.mint := run_inOrder config hosted before
  have hclosed := shut_of_closed config hosted before
  have hshut₀ : (s.step .shutdown).bus.Shut := shutdown_shut hclosed
  have hshut : s'.bus.Shut := run_shut hshut₀ after
  have hpass : Leftover s.bus.pass? s'.bus.pass? := by
    have hsame : (s.step .shutdown).bus.pass? = s.bus.pass? := pass?_congr s.bus.shutdown_drainer
    exact hsame ▸ run_leftover hshut₀ after
  refine ⟨⟨?_, ?_⟩, fun now topic payload o => publish_of_closed hshut.closed now topic payload o,
    fun name p listener metadata hp => ⟨fun hkind => ?_, fun hkind => ?_⟩,
    fun now topic payload o p htopic hp => ?_, fun x hx => ?_, fun hd => ?_,
    fun call hcall => ?_, ?_⟩
  · rw [pendingCount, hshut.pending, List.length_nil]
  · rw [subscriptionCount, hshut.patterns, List.length_nil]
  · exact subscribe_of_closed hshut.closed hp hkind listener metadata
  · exact subscribePattern_of_closed hshut.closed hp hkind listener metadata
  · exact ⟨_, openRequest_of_closed hshut.closed htopic hp now payload o⟩
  · obtain ⟨r, hr, hresult⟩ := shutdown_result hclosed horder hx
    have hfetches : Fetches x.1 x.2 r after s' :=
      run_fetches hshut₀ (step_inOrder horder .shutdown) hx hresult after
    refine ⟨r, hr, hfetches, fun hwait => ?_⟩
    have horder' : InOrder s'.calls s'.bus.desk s'.bus.mint := by
      have hrun := run_inOrder config hosted (before ++ .shutdown :: after)
      rw [run_append] at hrun
      exact hrun
    obtain ⟨hready, -⟩ := hfetches.ready (List.mem_map_of_mem (f := (·.1)) hwait)
    exact step_attend_of_result horder' hwait hready
  · have hleft := (s'.bus.turn_turns s'.now).leftover hshut.index
    rw [← step_turn_bus] at hleft
    have hnone : s'.bus.pass? = none := by simp only [pass?, hd]
    rw [hnone] at hleft
    exact hleft.eq_none
  · obtain ⟨pass', sub, hpass', hsub, hmessage, hhandler⟩ := turn_invoke hcall
    obtain ⟨pass, hbefore, hsame, hrest⟩ := hpass pass' hpass'
    exact ⟨pass, sub, hbefore, hrest hsub, hmessage.trans hsame, hhandler⟩
  · simp only [step, shutdown_of_closed hshut.closed]

end Session

end Switchboard.Bus
