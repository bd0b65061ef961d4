import Switchboard.Proofs.Bus.Register

/-
  No request leaves anything behind.

  * `handedOut` are the ids that subscribing has handed out, `OwnIds`: nobody
    unsubscribes any other;
  * `step_register`: what an act does to the register;
  * `Marks`: an id that was handed out, or that a request uses for its reply
    subscription, is never that of another subscription;
  * `no_leak`: pending entries, reply subscriptions and requests that wait
    correspond to each other, after every run.
-/

namespace Switchboard.Bus.Session

variable {H : Type}

/-! ## Ids that are handed out -/

/-- The id that an act hands out to whoever subscribes. -/
def handedOut? (s : Session H) : Act H → Option String
  | .subscribe topic handler metadata =>
    (s.bus.subscribe topic (.subscriber handler) metadata).1.toOption
  | .subscribePattern pattern handler metadata =>
    (s.bus.subscribePattern pattern (.subscriber handler) metadata).1.toOption
  | .serve topic handler metadata =>
    (s.bus.subscribe topic (.responder handler) metadata).1.toOption
  | _ => none

/-- The ids that were handed out. -/
def handedOut (log : List (Session H × Act H)) : List String :=
  log.filterMap fun x => x.1.handedOut? x.2

/-- Whoever unsubscribes has the id from subscribing. -/
def OwnIds (s : Session H) (acts : List (Act H)) : Prop :=
  ∀ before id after, acts = before ++ .unsubscribe id :: after → id ∈ handedOut (s.trace before)

theorem OwnIds.before {s : Session H} {acts acts' : List (Act H)} (h : OwnIds s (acts ++ acts')) :
    OwnIds s acts := fun before id after heq =>
  h before id (after ++ acts') (by rw [heq, List.append_assoc, List.cons_append])

theorem add_id {b : Bus H} {p : Pattern} {listener : Listener H} {metadata : Metadata} {id : String}
    (h : (b.add p listener metadata).1.toOption = some id) :
    id = b.mint.take.1 ∧ (b.add p listener metadata).2.mint = b.mint.advance := by
  unfold add at h ⊢
  split at h
  · cases h
  · next hclosed =>
    rw [if_neg hclosed]
    exact ⟨(Option.some.inj h).symm, rfl⟩

theorem subscribe_id {b : Bus H} {topic : String} {listener : Listener H} {metadata : Metadata}
    {id : String} (h : (b.subscribe topic listener metadata).1.toOption = some id) :
    id = b.mint.take.1 ∧ (b.subscribe topic listener metadata).2.mint = b.mint.advance := by
  unfold subscribe at h ⊢
  rcases hp : Address.pattern topic with f | p
  · simp only [hp] at h
    cases h
  · simp only [hp] at h ⊢
    split_ifs at h ⊢
    · exact add_id h
    · cases h

theorem subscribePattern_id {b : Bus H} {pattern : String} {listener : Listener H}
    {metadata : Metadata} {id : String}
    (h : (b.subscribePattern pattern listener metadata).1.toOption = some id) :
    id = b.mint.take.1 ∧
      (b.subscribePattern pattern listener metadata).2.mint = b.mint.advance := by
  unfold subscribePattern at h ⊢
  rcases hp : Address.pattern pattern with f | p
  · simp only [hp] at h
    cases h
  · simp only [hp] at h ⊢
    split_ifs at h ⊢
    · exact add_id h
    · cases h

/-- What is handed out is new. -/
theorem handedOut?_eq {s : Session H} {a : Act H} {id : String} (h : s.handedOut? a = some id) :
    id = s.bus.mint.take.1 ∧ (s.step a).bus.mint = s.bus.mint.advance ∧
      ∀ topic payload o, a ≠ .request topic payload o := by
  cases a with
  | subscribe topic handler metadata =>
    obtain ⟨hid, hmint⟩ := subscribe_id h
    exact ⟨hid, hmint, by simp⟩
  | subscribePattern pattern handler metadata =>
    obtain ⟨hid, hmint⟩ := subscribePattern_id h
    exact ⟨hid, hmint, by simp⟩
  | serve topic handler metadata =>
    obtain ⟨hid, hmint⟩ := subscribe_id h
    exact ⟨hid, hmint, by simp⟩
  | _ => cases h

/-- The id of the reply subscription of a request that is opened is new, and
    handed out from then on. -/
theorem issued_of_openRequest {b : Bus H} {now : Nat} {topic : String} {payload : Json}
    {o : RequestOptions} {t : Ticket} (h : (b.openRequest now topic payload o).1 = .ok t) :
    ¬ b.mint.Issued (b.entry now topic).subscription ∧
      (b.openRequest now topic payload o).2.mint.Issued (b.entry now topic).subscription := by
  have hreach := b.mint.reaches_advance.trans b.mint.advance.reaches_advance
  refine ⟨fun hissued => b.mint.advance.advance.not_issued_take (hreach.issued hissued), ?_⟩
  have hopens := b.openRequest_opens now topic payload o
  rw [h] at hopens
  generalize b.requestTraffic now topic payload o = traffic at hopens
  generalize (b.openRequest now topic payload o).2 = b' at hopens
  cases hopens with
  | opened pattern =>
    have hpublish := ((b.asking now topic pattern).publish_effect now topic payload
      (o.toPublish b.mint.take.1 b.replyTopic)).mint
    exact hpublish.issued b.mint.advance.advance.issued_take

/-! ## One act -/

/-- What an act files: a subscription of somebody else, or the reply subscription
    of a request. -/
inductive Adds (s : Session H) (a : Act H) (sub : Subscription (Listener H)) : Prop
  | subscribed : (∀ topic payload o, a ≠ .request topic payload o) →
      sub.id = s.bus.mint.take.1 → sub.reply? = none → Adds s a sub
  | asked (topic payload o) : a = .request topic payload o →
      sub.id = (s.bus.entry s.now topic).subscription →
      sub.reply? = some s.bus.mint.take.1 → Adds s a sub

theorem Adds.new {s : Session H} {a : Act H} {sub : Subscription (Listener H)} (h : Adds s a sub) :
    ¬ s.bus.mint.Issued sub.id := by
  have hreach := s.bus.mint.reaches_advance.trans s.bus.mint.advance.reaches_advance
  cases h with
  | subscribed _ hid => exact hid ▸ s.bus.mint.not_issued_take
  | asked topic payload o _ hid =>
    rw [hid]
    exact fun hissued => s.bus.mint.advance.advance.not_issued_take (hreach.issued hissued)

variable {s : Session H} {live : List (Subscription (Listener H))}

theorem subscribes_register {a : Act H} {listener : Listener H} (h : Register s.bus live)
    (hs : s.bus.Subscribes listener (s.step a).bus) (hlistener : ∀ c, listener ≠ .reply c)
    (ha : ∀ topic payload o, a ≠ .request topic payload o) :
    Retains live (s.step a).bus ∨
      ∃ sub, Adds s a sub ∧ Retains (live ++ [sub]) (s.step a).bus := by
  rcases h.subscribes hs hlistener with hr | ⟨sub, hid, hreply, hr⟩
  · exact Or.inl hr.retains
  · exact Or.inr ⟨sub, .subscribed ha hid hreply, hr.retains⟩

theorem request_register (h : Register s.bus live) (topic : String) (payload : Json)
    (o : RequestOptions) : Retains live (s.step (.request topic payload o)).bus ∨
      ∃ sub, Adds s (.request topic payload o) sub ∧
        Retains (live ++ [sub]) (s.step (.request topic payload o)).bus := by
  have hopens := s.bus.openRequest_opens s.now topic payload o
  rw [step_request_bus]
  rcases hresult : (s.bus.openRequest s.now topic payload o).1 with f | t <;> rw [hresult] at hopens
  · exact Or.inl (hopens.register_of_error h).1.retains
  · obtain ⟨pattern, hr⟩ := hopens.register_of_ok h
    exact Or.inr ⟨_, .asked topic payload o rfl rfl rfl, hr⟩

/-- **One act** files at most one subscription; whoever unsubscribes must not do
    so for somebody who awaits a reply. -/
theorem step_register (h : Register s.bus live) (a : Act H)
    (hown : ∀ id, a = .unsubscribe id → ∀ sub ∈ live, sub.id = id → sub.reply? = none) :
    Retains live (s.step a).bus ∨
      ∃ sub, Adds s a sub ∧ Retains (live ++ [sub]) (s.step a).bus := by
  cases a with
  | subscribe topic handler metadata =>
    exact subscribes_register h (s.bus.subscribe_subscribes ..) (by simp) (by simp)
  | subscribePattern pattern handler metadata =>
    exact subscribes_register h (s.bus.subscribePattern_subscribes ..) (by simp) (by simp)
  | serve topic handler metadata =>
    exact subscribes_register h (s.bus.subscribe_subscribes ..) (by simp) (by simp)
  | unsubscribe id => exact Or.inl ⟨_, List.filter_sublist, h.unsubscribe (hown id rfl)⟩
  | unsubscribePlugin plugin => exact Or.inl ⟨_, List.filter_sublist, h.unsubscribePlugin plugin⟩
  | request topic payload o => exact request_register h topic payload o
  | shutdown => exact Or.inl h.retains.shutdown
  | _ => exact Or.inl ((lasting_retains live).step h.retains rfl)

/-! ## Whose an id is -/

/-- An act takes an id into use, for somebody or for the reply to a request. -/
inductive Mark (s : Session H) (a : Act H) : String → Option String → Prop
  | handed (id) : s.handedOut? a = some id → Mark s a id none
  | asked (topic payload o t) : a = .request topic payload o →
      (s.bus.openRequest s.now topic payload o).1 = .ok t →
      Mark s a (s.bus.entry s.now topic).subscription (some t.correlation)

theorem Mark.new {a : Act H} {id : String} {r : Option String} (h : Mark s a id r) :
    ¬ s.bus.mint.Issued id ∧ (s.step a).bus.mint.Issued id := by
  cases h with
  | handed id hid =>
    obtain ⟨rfl, hmint, -⟩ := handedOut?_eq hid
    exact ⟨s.bus.mint.not_issued_take, hmint ▸ s.bus.mint.issued_take⟩
  | asked topic payload o t ha ht =>
    rw [ha, step_request_bus]
    exact issued_of_openRequest ht

/-- The subscription that an act files is the one that it takes an id for. -/
theorem Mark.reply?_eq {a : Act H} {id : String} {r : Option String} (h : Mark s a id r)
    {sub : Subscription (Listener H)} (hsub : Adds s a sub) : sub.reply? = r := by
  cases h with
  | handed id hid =>
    cases hsub with
    | subscribed _ _ hreply => exact hreply
    | asked topic payload o ha => exact absurd ha ((handedOut?_eq hid).2.2 topic payload o)
  | asked topic payload o t ha ht =>
    cases hsub with
    | subscribed hne => exact absurd ha (hne topic payload o)
    | asked topic' payload' o' _ _ hreply =>
      rw [hreply, ticket_of_openRequest ht]
      rfl

/-- The ids taken into use are those of their own subscriptions, as long as
    these live. -/
def Marks (log : List (Session H × Act H)) (mint : Mint) (live : List (Subscription (Listener H))) :
    Prop :=
  ∀ x ∈ log, ∀ id r, Mark x.1 x.2 id r →
    mint.Issued id ∧ ∀ sub ∈ live, sub.id = id → sub.reply? = r

/-- The register of a session, and whose the ids on it are. -/
def Booked (log : List (Session H × Act H)) (s : Session H) : Prop :=
  ∃ live, Register s.bus live ∧ Marks log s.bus.mint live

theorem Marks.step {log : List (Session H × Act H)} {a : Act H}
    (h : Marks log s.bus.mint live) (hr : Register s.bus live)
    {live' : List (Subscription (Listener H))}
    (hlive : ∀ sub ∈ live', sub ∈ live ∨ Adds s a sub) :
    Marks (log ++ [(s, a)]) (s.step a).bus.mint live' := by
  intro x hx id r hm
  rcases List.mem_append.1 hx with hx | hx
  · obtain ⟨hissued, hold⟩ := h x hx id r hm
    refine ⟨(s.step_accounts a).mint.issued hissued, fun sub hsub hid => ?_⟩
    rcases hlive sub hsub with hsub | hsub
    · exact hold sub hsub hid
    · exact absurd (hid ▸ hissued) hsub.new
  · obtain rfl := List.mem_singleton.1 hx
    refine ⟨hm.new.2, fun sub hsub hid => ?_⟩
    rcases hlive sub hsub with hsub | hsub
    · exact absurd (hid ▸ hr.issued sub hsub) hm.new.1
    · exact hm.reply?_eq hsub

theorem step_booked {log : List (Session H × Act H)} {a : Act H} (h : Booked log s)
    (hown : ∀ id, a = .unsubscribe id → id ∈ handedOut log) :
    Booked (log ++ [(s, a)]) (s.step a) := by
  obtain ⟨live, hr, hmarks⟩ := h
  have hown' : ∀ id, a = .unsubscribe id → ∀ sub ∈ live, sub.id = id → sub.reply? = none := by
    intro id ha sub hsub hid
    obtain ⟨x, hx, hhanded⟩ := List.mem_filterMap.1 (hown id ha)
    exact (hmarks x hx id none (.handed id hhanded)).2 sub hsub hid
  rcases step_register hr a hown' with ⟨live', hsub, hr'⟩ | ⟨sub, hadds, live', hsub, hr'⟩
  · exact ⟨live', hr', hmarks.step hr fun sub hs => Or.inl (hsub.subset hs)⟩
  · refine ⟨live', hr', hmarks.step hr fun sub' hs => ?_⟩
    rcases List.mem_append.1 (hsub.subset hs) with hs | hs
    · exact Or.inl hs
    · rw [List.mem_singleton.1 hs]
      exact Or.inr hadds

theorem run_booked (config : BusConfig) (hosted : Bool) (acts : List (Act H))
    (own : OwnIds (start config hosted) acts) :
    Booked ((start config hosted).trace acts) ((start config hosted).run acts) := by
  induction acts using List.reverseRecOn with
  | nil => exact ⟨[], register_nil rfl rfl rfl, fun x hx => by cases hx⟩
  | append_singleton acts a ih =>
    rw [run_concat, trace_concat]
    exact step_booked (ih own.before) fun id ha => own acts id [] (by rw [ha])

/-! ## Runs -/

/-- A pending entry belongs to one request that waits. -/
theorem waiting_of_pending {k : Calls} {d : Desk} {mint : Mint} (h : InOrder k d mint) {e : Pending}
    (he : e ∈ d.pending) : ∃! x, x ∈ k.waiting ∧ x.2.correlation = e.correlation := by
  have hkey : e.correlation ∈ d.keys := List.mem_append_left _ (List.mem_map_of_mem he)
  obtain ⟨x, hx, hxe⟩ := List.mem_map.1 (h.keys.mem_iff.1 hkey)
  refine ⟨x, ⟨hx, hxe⟩, fun y hy => ?_⟩
  exact h.eq_of_correlation (h.waiting.subset hy.1) (h.waiting.subset hx) (hy.2.trans hxe.symm)

/-- A request that was opened in a run is among those opened. -/
theorem mem_opened_of_log {s₀ : Session H} {acts : List (Act H)} {s₁ : Session H} {topic : String}
    {payload : Json} {o : RequestOptions} {t : Ticket}
    (hlog : (s₁, .request topic payload o) ∈ s₀.trace acts)
    (ht : (s₁.bus.openRequest s₁.now topic payload o).1 = .ok t) :
    (s₁.calls.made, t) ∈ (s₀.run acts).calls.opened := by
  obtain ⟨before, after, rfl, rfl⟩ := mem_trace hlog
  rw [run_append, run_cons]
  refine opened_subset_run _ after ?_
  rw [calls_of_openRequest ht]
  exact List.mem_concat_self

/-- **No request leaks.**  Where nobody unsubscribes an id that was not handed
    out by subscribing: pending entries and reply subscriptions correspond to
    each other; each pending entry belongs to one request that waits; once a
    request does not wait any more, because it has its result or was given up,
    neither its entry nor its reply subscription is left; and a request that is
    refused leaves what is pending and filed as it was. -/
theorem no_leak (config : BusConfig) (hosted : Bool) (acts : List (Act H))
    (own : OwnIds (start config hosted) acts) :
    let s := (start config hosted).run acts
    let log := (start config hosted).trace acts
    Paired s.bus ∧
    (∀ e ∈ s.bus.pending, ∃! x, x ∈ s.calls.waiting ∧ x.2.correlation = e.correlation) ∧
    (∀ s₁ topic payload o t, (s₁, .request topic payload o) ∈ log →
      (s₁.bus.openRequest s₁.now topic payload o).1 = .ok t →
      (∀ x ∈ s.calls.waiting, x.1 ≠ s₁.calls.made) →
      Forgotten s.bus t.correlation (s₁.bus.entry s₁.now topic).subscription) ∧
    ∀ s₁ topic payload o f, (s₁, .request topic payload o) ∈ log →
      (s₁.bus.openRequest s₁.now topic payload o).1 = .error f →
      let s₂ := s₁.step (.request topic payload o)
      s₂.bus.pending = s₁.bus.pending ∧ s₂.bus.patterns = s₁.bus.patterns ∧
        s₂.bus.index.entries.Perm s₁.bus.index.entries := by
  intro s log
  obtain ⟨live, hr, hmarks⟩ := run_booked config hosted acts own
  have horder := run_inOrder (H := H) config hosted acts
  refine ⟨hr.paired, fun e he => waiting_of_pending horder he,
    fun s₁ topic payload o t hlog ht hdone => ?_, fun s₁ topic payload o f hlog hf => ?_⟩
  · have hopened := mem_opened_of_log hlog ht
    have hpending : ∀ e ∈ s.bus.pending, e.correlation ≠ t.correlation := by
      intro e he heq
      obtain ⟨x, ⟨hx, hxe⟩, -⟩ := waiting_of_pending horder he
      refine hdone x hx ?_
      rw [horder.eq_of_correlation (horder.waiting.subset hx) hopened (hxe.trans heq)]
    exact hr.forgotten hpending (hmarks _ hlog _ _ (.asked topic payload o t rfl ht)).2
  · obtain ⟨before, after, rfl, rfl⟩ := mem_trace hlog
    obtain ⟨live₁, hr₁, -⟩ := run_booked config hosted before own.before
    have hopens := ((start config hosted).run before).bus.openRequest_opens
      ((start config hosted).run before).now topic payload o
    rw [hf] at hopens
    obtain ⟨hr₂, hsame⟩ := hopens.register_of_error hr₁
    intro s₂
    have hbus := ((start config hosted).run before).step_request_bus topic payload o
    rw [hbus]
    exact ⟨hsame, hr₂.patterns.trans hr₁.patterns.symm,
      hr₂.index.entries_perm.trans hr₁.index.entries_perm.symm⟩

/-- Somebody subscribes and unsubscribes; a request finds nobody, gets its result
    and is forgotten. -/
theorem no_leak_answered :
    let acts : List (Act Unit) :=
      [.subscribe "a" () {}, .request "b" .null {}, .unsubscribe (Mint.grouped 1 0), .turn, .attend 0]
    OwnIds (start {} true) acts ∧
      ∃ s₁ t, (s₁, .request "b" .null {}) ∈ (start {} true).trace acts ∧
        (s₁.bus.openRequest s₁.now "b" .null {}).1 = .ok t ∧
        Forgotten ((start {} true).run acts).bus t.correlation
          (s₁.bus.entry s₁.now "b").subscription := by
  intro acts
  have own : OwnIds (start {} true) acts := by
    intro before id after heq
    rcases before with _ | ⟨a, _ | ⟨b, _ | ⟨c, _ | ⟨d, _ | ⟨e, before⟩⟩⟩⟩⟩ <;>
      simp only [acts, List.nil_append, List.cons_append, List.cons.injEq, reduceCtorEq, false_and,
        and_false] at heq
    · obtain ⟨rfl, rfl, heq, -⟩ := heq
      obtain rfl := Act.unsubscribe.inj heq
      exact List.mem_filterMap.2 ⟨(start {} true, .subscribe "a" () {}), List.mem_cons_self, rfl⟩
    · obtain ⟨-, -, -, -, -, heq⟩ := heq
      exact absurd heq (by simp)
  have hlog : ((start {} true).step (.subscribe "a" () {}), .request "b" .null {}) ∈
      (start {} true).trace acts := .tail _ (.head _)
  obtain ⟨t, hopen⟩ : ∃ t, (((start {} true).step (.subscribe "a" () {})).bus.openRequest 0 "b"
      .null {}).1 = .ok t := ⟨_, rfl⟩
  have hwaiting : ((start {} true).run acts).calls.waiting = [] := rfl
  obtain ⟨-, -, hforgotten, -⟩ := no_leak {} true acts own
  refine ⟨own, _, t, hlog, hopen, hforgotten _ "b" .null {} t hlog hopen ?_⟩
  rw [hwaiting]
  exact fun _ hx => absurd hx List.not_mem_nil

end Switchboard.Bus.Session
