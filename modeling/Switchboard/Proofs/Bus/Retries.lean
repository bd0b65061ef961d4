import Switchboard.Proofs.Bus.Effort
import Switchboard.Proofs.Bus.Tries

/-
  The retry law — how often a message is delivered to whom.

  A subscription that fails for `f` times on a message that may be sent back for
  `n` times is tried `min f n + 1` times, and accepts the message at last if
  `f ≤ n`.  The message is sent back as long as somebody fails and a retry is
  left, and has failed if somebody still fails then.

  * `run_retried`: the count of retries is that of messages sent back;
  * `Tally.Within` and `Tally.Complete`: what the tally of a message says at every
    moment, and when the message has departed;
  * `Bounded` and `Concluded`: what the host was asked to run on it, and what came
    of that;
  * `Standing.fails`, `result_of_failed`: why a message fails, and what the
    request is told that waits for it;
  * `retry_law`: all of this, for every run.
-/

namespace Switchboard.Bus.Session

variable {H : Type}

/-! ## Counting -/

/-- Every retry that is counted is a message that was sent back. -/
theorem run_retried (config : BusConfig) (hosted : Bool) (acts : List (Act H)) :
    ((start config hosted).run acts).bus.counters.retried =
      (sentBack ((start config hosted).trace acts)).length := by
  induction acts using List.reverseRecOn with
  | nil => rfl
  | append_singleton acts a ih =>
    rw [run_concat, trace_concat]
    rcases step_posts ((start config hosted).run acts) a with ⟨hnone, hposts⟩ | ⟨pass, hback⟩
    · rw [hposts.retried, ih]
      simp [sentBack, hnone]
    · obtain rfl := hback.act
      rw [hback.retried, ih]
      simp [sentBack, hback.sentBack?]

/-! ## The tally of a message -/

section Messages

variable {i : String} {S : List String} {f : String → Nat} {n : Nat} {t : Tally}
  {log : List (Session H × Act H)} {s : Session H}

/-- Whatever has been done with a message so far. -/
structure Tally.Within (t : Tally) (S : List String) (f : String → Nat) (n : Nat) : Prop where
  outcomes : ∀ id ∈ S, (t.outcomes id).length ≤ t.invoked id
  invoked : ∀ id ∈ S, t.invoked id ≤ min (f id) n + 1
  sentBack : t.sentBack ≤ min (S.toFinset.sup f) n

theorem After.within {k : Nat} (h : After S f t k) (hk : k ≤ n + 1)
    (hback : t.sentBack ≤ min (S.toFinset.sup f) n) : t.Within S f n where
  outcomes id hid := by rw [(h id hid).1, (h id hid).2]
  invoked id hid := by rw [(h id hid).1]; omega
  sentBack := hback

theorem Round.within {pass : Pass H} {done : List String} (h : Round S f t pass done)
    (hc : Counted S f n t pass.parcel.message) : t.Within S f n := by
  have hwithin := hc.within
  have hturned {k : Nat} {id : String} (hid : Turned f t pass.parcel.accepted k id)
      (hk : k ≤ n + 1) :
      (t.outcomes id).length ≤ t.invoked id ∧ t.invoked id ≤ min (f id) n + 1 := by
    rw [hid.invoked, hid.outcomes]
    omega
  have hall : ∀ id ∈ S, (t.outcomes id).length ≤ t.invoked id ∧
      t.invoked id ≤ min (f id) n + 1 := by
    intro id hid
    rw [h.split] at hid
    rcases List.mem_append.1 hid with hid | hid
    · exact hturned (h.turned id hid) (by omega)
    rcases List.mem_append.1 hid with hid | hid
    · obtain ⟨sub, hsub, rfl⟩ := List.mem_map.1 hid
      obtain ⟨hinvoked, houtcomes, -, hfails⟩ := h.turning sub (Option.mem_toList.1 hsub)
      rw [hinvoked, houtcomes]
      omega
    · exact hturned (h.ahead id hid) (by omega)
  exact ⟨fun id hid => (hall id hid).1, fun id hid => (hall id hid).2, hc.sentBack ▸ hwithin⟩

/-- The bounds hold wherever the message is. -/
theorem Standing.within (h : Standing i S f n log s) (hbooks : Books log s) :
    (tally log i).Within S f n := by
  by_cases harrived : ∀ m ∈ arrived log, m.id ≠ i
  · rw [h.ahead harrived]
    exact ⟨fun _ _ => Nat.zero_le _, fun _ _ => Nat.zero_le _, Nat.zero_le _⟩
  obtain ⟨m, hm, rfl⟩ : ∃ m ∈ arrived log, m.id = i := by simpa using harrived
  by_cases hflight : ∀ m' ∈ s.bus.flight, m'.id ≠ m.id
  · obtain ⟨fate, hfate⟩ := hbooks.exists_fate hm hflight
    cases h.gone fate (by simp [hfate]) with
    | processed k hback hk _ hafter =>
      exact hafter.within (Nat.succ_le_succ (hk.trans (Nat.min_le_right _ _))) (hback ▸ hk)
    | failed hback hfails hafter =>
      obtain ⟨id, hid, hlt⟩ := hfails
      have hsup : f id ≤ S.toFinset.sup f := Finset.le_sup (List.mem_toFinset.2 hid)
      exact hafter.within (Nat.le_refl _) (by omega)
    | discarded k hback hk hafter =>
      exact hafter.within (Nat.le_succ_of_le (hk.trans (Nat.min_le_right _ _))) (hback ▸ hk)
  obtain ⟨m', hm', hid⟩ : ∃ m' ∈ s.bus.flight, m'.id = m.id := by simpa using hflight
  rcases flight_cases hm' with ⟨pass, hpass, rfl⟩ | ⟨p, hp, rfl⟩
  · obtain ⟨hcounted, done, hround⟩ := h.underway pass hpass hid
    exact hround.within hcounted
  · obtain ⟨hcounted, hturned⟩ := h.queued p hp hid
    have hwithin := hcounted.within
    exact (Turned.after hturned).within (by omega) (hcounted.sentBack ▸ hwithin)

/-- Who has accepted a message is not invoked on it again. -/
theorem Tally.Within.invoked_of_accepted {log' log'' : List (Session H × Act H)}
    (h : (tally log i).Within S f n) (hcut : log' = log ++ log'')
    (h' : (tally log' i).Within S f n) (hb : Behaves S f (tally log i)) {id : String}
    (hid : id ∈ S) (hnone : none ∈ (tally log i).outcomes id) :
    (tally log' i).invoked id = (tally log i).invoked id := by
  obtain ⟨k, hk⟩ := List.mem_iff_getElem?.1 hnone
  have hle : f id ≤ k := (hb id hid k none hk).1 rfl
  have hlt : k < ((tally log i).outcomes id).length := (List.getElem?_eq_some_iff.1 hk).1
  have htold := h.outcomes id hid
  have hmost := h'.invoked id hid
  rw [hcut, tally_append] at hmost ⊢
  dsimp only at hmost ⊢
  omega

/-- Who has failed in the pass after the last retry is not invoked again. -/
theorem Tally.Within.outcomes_of_failed {log' log'' : List (Session H × Act H)}
    (h' : (tally log' i).Within S f n) (hcut : log' = log ++ log'') {id : String} (hid : id ∈ S)
    (hlength : ((tally log i).outcomes id).length = n + 1) :
    (tally log' i).outcomes id = (tally log i).outcomes id := by
  have hle := (h'.outcomes id hid).trans (h'.invoked id hid)
  rw [hcut, tally_append] at hle ⊢
  dsimp only at hle ⊢
  rw [List.length_append] at hle
  have hnil : ((tally log'' i).outcomes id).length = 0 := by omega
  rw [List.eq_nil_of_length_eq_zero hnil, List.append_nil]

/-- All that is done with a message. -/
structure Tally.Complete (t : Tally) (S : List String) (f : String → Nat) (n : Nat) : Prop where
  invoked : ∀ id ∈ S, t.invoked id = min (f id) n + 1
  outcomes : ∀ id ∈ S, (t.outcomes id).length = min (f id) n + 1
  sentBack : t.sentBack = min (S.toFinset.sup f) n

theorem Over.complete {fate : Fate} (h : Over S f n t fate) (hfate : fate ≠ .discarded) :
    t.Complete S f n ∧ fate = if S.toFinset.sup f ≤ n then .processed else .failed := by
  cases h with
  | processed k hback hk hle hafter =>
    have hsup : S.toFinset.sup f ≤ k := Finset.sup_le fun id hid => hle id (List.mem_toFinset.1 hid)
    have hmin : ∀ id ∈ S, min (f id + 1) (k + 1) = min (f id) n + 1 := fun id hid => by
      have := hle id hid
      omega
    refine ⟨?_, by rw [if_pos (by omega)]⟩
    exact
      { invoked := fun id hid => (hafter id hid).1.trans (hmin id hid)
        outcomes := fun id hid => (hafter id hid).2.trans (hmin id hid)
        sentBack := by omega }
  | failed hback hfails hafter =>
    obtain ⟨id, hid, hlt⟩ := hfails
    have hsup : f id ≤ S.toFinset.sup f := Finset.le_sup (List.mem_toFinset.2 hid)
    have hmin (id : String) : min (f id + 1) (n + 1) = min (f id) n + 1 := by omega
    refine ⟨?_, by rw [if_neg (by omega)]⟩
    exact
      { invoked := fun id hid => (hafter id hid).1.trans (hmin id)
        outcomes := fun id hid => (hafter id hid).2.trans (hmin id)
        sentBack := by omega }
  | discarded => exact absurd rfl hfate

/-- Who was invoked as often as allowed has accepted the message once, or never. -/
theorem accepted_of_length (h : Behaves S f t) {id : String} (hid : id ∈ S)
    (hlength : (t.outcomes id).length = min (f id) n + 1) :
    (t.outcomes id).countP (·.isNone) = if f id ≤ n then 1 else 0 := by
  have hlt : f id < min (f id) n + 1 ↔ f id ≤ n := by omega
  rw [List.countP_isNone (h id hid) (by omega), hlength]
  simp only [hlt]

/-- **A message fails** because the first of those that still fail has failed in
    the last pass. -/
theorem Standing.fails (h : Standing i S f n log s) (hn : n < 2 ^ 32 - 1) {a : Act H} {m : Message}
    (hleft : (.failed, m) ∈ (s.traffic a).left) (hid : m.id = i) :
    ∃ id e, S.find? (fun id => n < f id) = some id ∧
      ((tally log i).outcomes id).length = n + 1 ∧
      ((tally log i).outcomes id).getLast? = some (some e) ∧
      a = .turn ∧ s.bus.verdict? m .failed = some (.handler e) := by
  cases leaves hleft with
  | failed pass e hd hrun hrest hf hretry hm =>
    have hpid : pass.parcel.message.id = i := by rw [← hid, hm]; rfl
    obtain ⟨hcounted, done, hround⟩ := h.underway pass (pass?_eq_some.2 hd) hpid
    have hlast := hcounted.last hn hretry
    obtain ⟨id, hfind, he⟩ := hround.broken hrun hrest hf
    have hended := hround.ended hrun hrest id (List.mem_of_find?_eq_some hfind)
    rw [hlast] at hfind hended
    have hlt : n < f id := by simpa using List.find?_some hfind
    exact ⟨id, e, hfind, hended.outcomes.trans (by omega), he, rfl, verdict?_failed m hd hf⟩

/-- A request that waits for a message that fails is told so. -/
theorem result_of_failed (hinOrder : InOrder s.calls s.bus.desk s.bus.mint) {m : Message}
    (hleft : (.failed, m) ∈ (s.traffic .turn).left) {e : HandlerFault}
    (hverdict : s.bus.verdict? m .failed = some (.handler e)) {t : Ticket}
    (hawaited : m.awaited? = some t.correlation) (hpending : s.bus.hasPending t.correlation = true) :
    (s.step .turn).bus.hasPending t.correlation = false ∧
      (s.step .turn).bus.result? t = some (.error (.handler e)) := by
  have horders : s.orders .turn = [(t.correlation, .error (.handler e))] := by
    rw [orders_of_left hleft (by simp), hverdict]
    simp [orderOf, hawaited]
  have hdesk : (s.step .turn).bus.desk = s.bus.desk.settleAll (s.orders .turn) := by
    rw [step_turn_bus]
    exact (s.bus.turn_turns s.now).effect.desk
  rw [horders, Desk.settleAll_cons, Desk.settleAll_nil] at hdesk
  have hwaits : s.bus.desk.waits t.correlation = true := hpending
  have hsettled : (t.correlation, .error (.handler e)) ∈ (s.bus.desk.settle _).settled :=
    Desk.settled_settle_of_waits hwaits
  rw [← hdesk] at hsettled
  have hkeys := (step_inOrder hinOrder .turn).nodup_keys
  refine ⟨?_, List.lookup_of_mem hkeys.of_append_right hsettled⟩
  rw [← desk_waits, hdesk]
  exact Desk.not_waits_settle _ (t.correlation, .error (.handler e))

end Messages

/-! ## What the host was asked to run -/

section Tries

variable {S : List (Subscription (Listener H))} {f : String → Nat} {m : Message}
  {log : List (Session H × Act H)} {s : Session H}

/-- At every moment: each subscription was tried in the first passes, `min f n + 1`
    of them at most, and has said something in all of them but perhaps the last; the
    host was asked nothing else. -/
structure Bounded (S : List (Subscription (Listener H))) (f : String → Nat) (m : Message)
    (log : List (Session H × Act H)) : Prop where
  tried : ∀ sub ∈ S, ∃ k ≤ min (f sub.id) m.maxRetries.toNat + 1,
    handed log m.id sub.id = sub.tries m k ∧ ((tally log m.id).outcomes sub.id).length ≤ k
  others : ∀ id ∉ S.map (·.id), handed log m.id id = []
  sentBack : (tally log m.id).sentBack ≤
    min ((S.map (·.id)).toFinset.sup f) m.maxRetries.toNat

theorem Handing.bounded (h : Handing m S log s)
    (ht : (tally log m.id).Within (S.map (·.id)) f m.maxRetries.toNat) : Bounded S f m log where
  tried sub hsub := by
    have hid : sub.id ∈ S.map (·.id) := List.mem_map_of_mem hsub
    exact ⟨_, ht.invoked _ hid, h.tries sub hsub, ht.outcomes _ hid⟩
  others := h.others
  sentBack := ht.sentBack

/-- How it ends for a message, and with which fates: each subscription was tried in
    the first `min f n + 1` passes, and has accepted the message once if it had
    stopped failing by then, and else never. -/
structure Concluded (S : List (Subscription (Listener H))) (f : String → Nat) (m : Message)
    (log : List (Session H × Act H)) : Prop where
  tried : ∀ sub ∈ S, handed log m.id sub.id = sub.tries m (min (f sub.id) m.maxRetries.toNat + 1)
  /-- that is how often the host was asked for a subscription that needs it -/
  times : ∀ sub ∈ S, (sub.handler.call? m).isSome →
    (handed log m.id sub.id).length = min (f sub.id) m.maxRetries.toNat + 1
  told : ∀ sub ∈ S, ((tally log m.id).outcomes sub.id).length =
    min (f sub.id) m.maxRetries.toNat + 1
  accepted : ∀ sub ∈ S, ((tally log m.id).outcomes sub.id).countP (·.isNone) =
    if f sub.id ≤ m.maxRetries.toNat then 1 else 0
  sentBack : (tally log m.id).sentBack =
    min ((S.map (·.id)).toFinset.sup f) m.maxRetries.toNat
  fate : fates log m.id =
    [if (S.map (·.id)).toFinset.sup f ≤ m.maxRetries.toNat then .processed else .failed]

theorem Handing.concluded (h : Handing m S log s)
    (ht : (tally log m.id).Complete (S.map (·.id)) f m.maxRetries.toNat)
    (hb : Behaves (S.map (·.id)) f (tally log m.id))
    (hfate : fates log m.id =
      [if (S.map (·.id)).toFinset.sup f ≤ m.maxRetries.toNat then .processed else .failed]) :
    Concluded S f m log := by
  have hid {sub : Subscription (Listener H)} (hsub : sub ∈ S) : sub.id ∈ S.map (·.id) :=
    List.mem_map_of_mem hsub
  have htried : ∀ sub ∈ S,
      handed log m.id sub.id = sub.tries m (min (f sub.id) m.maxRetries.toNat + 1) :=
    fun sub hsub => by rw [h.tries sub hsub, ht.invoked _ (hid hsub)]
  exact
    { tried := htried
      times := fun sub hsub hcall => by rw [htried sub hsub, sub.length_tries, if_pos hcall]
      told := fun sub hsub => ht.outcomes _ (hid hsub)
      accepted := fun sub hsub => accepted_of_length hb (hid hsub) (ht.outcomes _ (hid hsub))
      sentBack := ht.sentBack
      fate := hfate }

end Tries

/-! ## Runs -/

/-- What is known of a message at every moment of a run. -/
structure Passage (m : Message) (S : List (Subscription (Listener H))) (f : String → Nat)
    (log : List (Session H × Act H)) (s : Session H) : Prop where
  standing : Standing m.id (S.map (·.id)) f m.maxRetries.toNat log s
  behaved : Behaves (S.map (·.id)) f (tally log m.id)
  within : (tally log m.id).Within (S.map (·.id)) f m.maxRetries.toNat
  handing : Handing m S log s

theorem run_passage (config : BusConfig) (hosted : Bool) {acts before after : List (Act H)}
    {m : Message} {S : List (Subscription (Listener H))} {f : String → Nat}
    (hacts : acts = before ++ after) (hm : m ∈ arrived ((start config hosted).trace acts))
    (hn : m.maxRetries.toNat < 2 ^ 32 - 1)
    (hsteady : Steady m.id S f ((start config hosted).trace acts)) :
    Passage m S f ((start config hosted).trace before) ((start config hosted).run before) := by
  have hdistinct := (run_books config hosted acts).distinct
  rw [hacts, trace_append] at hm hsteady hdistinct
  have hsame : ∀ m' ∈ arrived ((start config hosted).trace before), m'.id = m.id → m' = m := by
    intro m' hm' hid
    have hlater := arrived_subset _ (((start config hosted).run before).trace after) hm'
    exact List.inj_on_of_nodup_map hdistinct hlater hm hid
  have hstanding := run_standing config hosted before hsteady.before
    (fun m' hm' hid => by rw [hsame m' hm' hid]) hn
  exact
    { standing := hstanding
      behaved := hsteady.before.behaved
      within := hstanding.within (run_books config hosted before)
      handing := run_handing config hosted before hn hsame hsteady.before }

/-- **The retry law.**  Consider a message that may be sent back for `n` times,
    neither expires nor is evicted, and is found in every pass by the same
    subscriptions, each of which fails for `f` times and then succeeds.

    At every moment of a run, the host was asked to run the handler of each in the
    first passes over the message, in at most `min f n + 1` of them, and never again
    after it had accepted the message; and the message was sent back as often as
    this was counted.  The drainer is at work while the message is in flight, and
    spends at most two acts on each subscription and two more in each pass.  Once
    the message has departed, other than by a shutdown, the host was asked exactly
    that often for each, which has accepted the message once, if at all; and it was
    processed, or has failed if somebody had not succeeded by then.  A request that
    waits when it fails is told of the last failure of the first of those. -/
theorem retry_law (config : BusConfig) (hosted : Bool) (acts : List (Act H)) (m : Message)
    (S : List (Subscription (Listener H))) (f : String → Nat)
    (hm : m ∈ arrived ((start config hosted).trace acts))
    (hn : m.maxRetries.toNat < 2 ^ 32 - 1)
    (hsteady : Steady m.id S f ((start config hosted).trace acts)) :
    let s := (start config hosted).run acts
    let log := (start config hosted).trace acts
    let n := m.maxRetries.toNat
    Bounded S f m log ∧
      effort log m.id ≤ (min ((S.map (·.id)).toFinset.sup f) n + 1) * (2 * S.length + 2) ∧
      ((∃ m' ∈ s.bus.flight, m'.id = m.id) → s.bus.drainer ≠ .idle) ∧
      (∀ sub ∈ S, ∀ before after, acts = before ++ after →
        none ∈ (tally ((start config hosted).trace before) m.id).outcomes sub.id →
        handed log m.id sub.id = handed ((start config hosted).trace before) m.id sub.id) ∧
      s.bus.counters.retried = (sentBack log).length ∧
      ((∀ m' ∈ s.bus.flight, m'.id ≠ m.id) → .discarded ∉ fates log m.id →
        Concluded S f m log) ∧
      ∀ s₁ a ticket, (s₁, a) ∈ log → (.failed, m) ∈ (s₁.traffic a).left →
        m.awaited? = some ticket.correlation → s₁.bus.hasPending ticket.correlation = true →
        ∃ sub e, S.find? (fun sub => n < f sub.id) = some sub ∧
          ((tally log m.id).outcomes sub.id).getLast? = some (some e) ∧
          (s₁.step a).bus.hasPending ticket.correlation = false ∧
          (s₁.step a).bus.result? ticket = some (.error (.handler e)) := by
  intro s log n
  have hpassage := run_passage config hosted (List.append_nil acts).symm hm hn hsteady
  have hcut {before after : List (Act H)} (hacts : acts = before ++ after) :
      log = (start config hosted).trace before ++
        ((start config hosted).run before).trace after := by
    rw [← trace_append, ← hacts]
  refine ⟨hpassage.handing.bounded hpassage.within, ?_, ?_, ?_, run_retried config hosted acts,
    ?_, ?_⟩
  · have hpasses := Nat.add_le_add_right hpassage.within.sentBack 1
    exact (run_paced config hosted acts hsteady).bounded.trans (Nat.mul_le_mul_right _ hpasses)
  · rintro ⟨m', hm', -⟩
    exact run_awake config hosted acts (List.ne_nil_of_mem hm')
  · intro sub hsub before after hacts hnone
    have hpassage' := run_passage config hosted hacts hm hn hsteady
    have hinvoked := hpassage'.within.invoked_of_accepted (hcut hacts) hpassage.within
      hpassage'.behaved (List.mem_map_of_mem hsub) hnone
    rw [hpassage.handing.tries sub hsub, hpassage'.handing.tries sub hsub, hinvoked]
  · intro hflight hdiscarded
    obtain ⟨fate, hfate⟩ : ∃ fate, fates log m.id = [fate] :=
      (run_books config hosted acts).exists_fate hm hflight
    have hmem : fate ∈ fates log m.id := hfate ▸ List.mem_singleton_self fate
    obtain ⟨hcomplete, rfl⟩ :=
      (hpassage.standing.gone fate hmem).complete fun heq => hdiscarded (heq ▸ hmem)
    exact hpassage.handing.concluded hcomplete hpassage.behaved hfate
  · intro s₁ a ticket hlog hleft hawaited hpending
    obtain ⟨before, after, hacts, rfl⟩ := mem_trace hlog
    have hpassage' := run_passage config hosted hacts hm hn hsteady
    obtain ⟨id, e, hfind, hlength, hlast, rfl, hverdict⟩ :=
      hpassage'.standing.fails hn hleft rfl
    rw [List.find?_map] at hfind
    obtain ⟨sub, hsub, rfl⟩ := Option.map_eq_some_iff.1 hfind
    have hid := List.mem_map_of_mem (f := (·.id)) (List.mem_of_find?_eq_some hsub)
    have hsame := hpassage.within.outcomes_of_failed (hcut hacts) hid hlength
    obtain ⟨hpending', hresult⟩ :=
      result_of_failed (run_inOrder config hosted before) hleft hverdict hawaited hpending
    exact ⟨sub, e, hsub, hsame ▸ hlast, hpending', hresult⟩

/-- One of two subscriptions fails once, the other twice, and one retry is
    allowed: the host is asked twice for each, the request is sent back once and
    fails, and is told what the other has said at last. -/
theorem retry_law_failed :
    let before : List (Act Unit) :=
      [.subscribe "a" () {}, .subscribe "a" () {}, .request "a" .null { maxRetries := some 1 },
        .turn, .turn, .finish (.failed (.plain "one")), .turn, .finish (.failed (.plain "two")),
        .turn, .turn, .turn, .finish (.returned .null), .turn, .finish (.failed (.plain "three"))]
    let s := (start {} true).run before
    let log := (start {} true).trace (before ++ [.turn])
    let S : List (Subscription (Listener Unit)) :=
      [⟨Mint.grouped 1 0, .exact "a", .subscriber (), {}⟩,
        ⟨Mint.grouped 1 1, .exact "a", .subscriber (), {}⟩]
    let f := fun id => if id = Mint.grouped 1 0 then 1 else 2
    ∃ m ∈ arrived log, m.maxRetries.toNat < 2 ^ 32 - 1 ∧ Steady m.id S f log ∧
      Concluded S f m log ∧ fates log m.id = [.failed] ∧
      (∀ sub ∈ S, handed log m.id sub.id =
        [⟨(), { m with attempts := 0 }, false⟩, ⟨(), { m with attempts := 1 }, false⟩]) ∧
      ∃ t, s.bus.hasPending t.correlation = true ∧
        (s.step .turn).bus.result? t = some (.error (.handler (.plain "three"))) := by
  intro before s log S f
  obtain ⟨m, t, hm, hid, hmax, hleft, ht, hawaited, hpending⟩ : ∃ m t, (arrived log)[0]? = some m ∧
      m.id = Mint.grouped 1 5 ∧ m.maxRetries = 1 ∧
      (s.traffic .turn).left[0]? = some (.failed, m) ∧ s.calls.opened[0]? = some (0, t) ∧
      m.awaited? = some t.correlation ∧ s.bus.hasPending t.correlation = true :=
    ⟨_, _, rfl, rfl, rfl, rfl, rfl, rfl, rfl⟩
  have hfound : found log = [(Mint.grouped 1 5, S), (Mint.grouped 1 5, S)] := rfl
  have hfates : fates log (Mint.grouped 1 5) = [.failed] := rfl
  have hflight : (s.step .turn).bus.flight = [] := rfl
  have hone : (tally log (Mint.grouped 1 5)).outcomes (Mint.grouped 1 0) =
      [some (.plain "one"), none] := rfl
  have htwo : (tally log (Mint.grouped 1 5)).outcomes (Mint.grouped 1 1) =
      [some (.plain "two"), some (.plain "three")] := rfl
  have hf : f (Mint.grouped 1 0) = 1 ∧ f (Mint.grouped 1 1) = 2 := ⟨rfl, rfl⟩
  have hids : S.map (·.id) = [Mint.grouped 1 0, Mint.grouped 1 1] := rfl
  have hn : m.maxRetries.toNat = 1 := by rw [hmax]; rfl
  have hbehaved : Behaves (S.map (·.id)) f (tally log m.id) := by
    rw [hid, hids]
    intro id hmem k r hk
    rcases List.mem_pair.1 hmem with rfl | rfl
    · rw [hone] at hk
      rw [hf.1]
      rcases k with _ | _ | k <;> simp at hk <;> simp [← hk]
    · rw [htwo] at hk
      rw [hf.2]
      rcases k with _ | _ | k <;> simp at hk <;> simp [← hk]
  have hsteady : Steady m.id S f log :=
    { nonempty := List.cons_ne_nil _ _
      found := fun subs hsubs => by
        rw [hid, hfound] at hsubs
        simpa using hsubs
      behaved := hbehaved
      unexpired := by simp [hid, hfates]
      unevicted := by simp [hid, hfates] }
  have hmem := List.mem_of_getElem? hm
  have hlimit : m.maxRetries.toNat < 2 ^ 32 - 1 := by rw [hn]; decide
  obtain ⟨-, -, -, -, -, hconcluded, hrejected⟩ :=
    retry_law {} true (before ++ [.turn]) m S f hmem hlimit hsteady
  have hdone : Concluded S f m log :=
    hconcluded (by rw [run_concat, hflight]; simp) fun hfate => by
      have hfate' : .discarded ∈ fates log m.id := hfate
      simp [hid, hfates] at hfate'
  have htried : ∀ sub ∈ S, handed log m.id sub.id =
      [⟨(), { m with attempts := 0 }, false⟩, ⟨(), { m with attempts := 1 }, false⟩] := by
    intro sub hsub
    have htwice : min (f sub.id) m.maxRetries.toNat + 1 = 2 := by
      rw [hn]
      rcases List.mem_pair.1 hsub with rfl | rfl <;> rfl
    rw [hdone.tried sub hsub, htwice]
    rcases List.mem_pair.1 hsub with rfl | rfl <;> rfl
  have hlog : (s, .turn) ∈ log := by
    simp only [log, trace_concat]
    exact List.mem_concat_self
  obtain ⟨sub, e, hfind, hlast, -, hresult⟩ :=
    hrejected s .turn t hlog (List.mem_of_getElem? hleft) hawaited hpending
  have hsub : sub.id = Mint.grouped 1 1 := by
    simpa [S, hn, hf, eq_comm] using congrArg (Option.map (·.id)) hfind
  have he : e = .plain "three" := by
    have hlast' : ((tally log m.id).outcomes sub.id).getLast? = some (some e) := hlast
    rw [hid, hsub, htwo] at hlast'
    exact (Option.some.inj (Option.some.inj hlast')).symm
  exact ⟨m, hmem, hlimit, hsteady, hdone, hid ▸ hfates, htried, t, hpending, he ▸ hresult⟩

end Switchboard.Bus.Session
