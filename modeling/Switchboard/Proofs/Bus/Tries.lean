import Switchboard.Proofs.Bus.Calling

/-
  Tries — what the host is asked to run on one message.

  Who does not accept a message is tried again in the next pass over it, on the
  same message but for the count of passes.  So what the host is asked to run for
  a subscription is known beforehand, up to how often it is asked.

  * `Subscription.tries` is what the host has to run in the first passes;
  * `asked?` is what it is asked to run in an act, and for which subscription;
    `handed` collects that for one message and one subscription;
  * `Handing`: it is asked for the tries of the subscriptions that a message
    finds, one for each time that they are invoked; `run_handing`.
-/

namespace Switchboard

variable {H : Type}

/-- What the host has to run for a subscription in the first `k` passes over a
    message. -/
def Subscription.tries (sub : Subscription (Listener H)) (m : Message) (k : Nat) :
    List (Invocation H) :=
  (List.range k).filterMap fun n => sub.handler.call? { m with attempts := UInt32.ofNat n }

theorem Subscription.tries_succ (sub : Subscription (Listener H)) (m : Message) (k : Nat) :
    sub.tries m (k + 1) =
      sub.tries m k ++ (sub.handler.call? { m with attempts := UInt32.ofNat k }).toList := by
  rw [tries, List.range_succ, List.filterMap_concat]
  rfl

/-- Whether a listener needs the host does not depend on the count of passes. -/
theorem Listener.isSome_call? (l : Listener H) (m : Message) (n : UInt32) :
    (l.call? { m with attempts := n }).isSome = (l.call? m).isSome := by
  have hrequest : Message.isRequest { m with attempts := n } = m.isRequest := rfl
  cases l with
  | subscriber h => rfl
  | responder h =>
    simp only [call?, hrequest]
    split <;> rfl
  | reply c => rfl

/-- One try in each pass, if the listener needs the host at all. -/
theorem Subscription.length_tries (sub : Subscription (Listener H)) (m : Message) (k : Nat) :
    (sub.tries m k).length = if (sub.handler.call? m).isSome then k else 0 := by
  induction k with
  | zero => simp [tries]
  | succ k ih =>
    have hlast := sub.handler.isSome_call? m (UInt32.ofNat k)
    rw [tries_succ, List.length_append, ih, Option.length_toList, hlast]
    split <;> rfl

namespace Bus.Session

/-! ## One act -/

/-- What the host is asked to run in an act, with the subscription whose handler
    it is. -/
def asked? (s : Session H) (a : Act H) : Option (String × Invocation H) :=
  (s.handled? a).bind fun call => (s.step a).bus.running?.map fun sub => (sub.id, call)

/-- What the host was asked to run on the message with an id for one subscription. -/
def handed (log : List (Session H × Act H)) (i id : String) : List (Invocation H) :=
  log.filterMap fun x => (x.1.asked? x.2).bind fun (id', call) =>
    if id' = id ∧ call.message.id = i then some call else none

section Acts

variable {log : List (Session H × Act H)} {s : Session H} {a : Act H} {pass pass' : Pass H}
  {sub : Subscription (Listener H)} {i id : String}

/-- Whoever is called is the next one in the pass, and has not accepted the message
    before. -/
theorem next_of_called (hp : s.bus.pass? = some pass) (h : s.called? a = some sub) :
    a = .turn ∧ pass.running = none ∧ (∃ rest, pass.rest = sub :: rest) ∧
      sub.id ∉ pass.parcel.accepted := by
  have hd := pass?_eq_some.1 hp
  cases a with
  | turn =>
    simp only [called?, hd] at h
    split at h
    · next sub' rest hrun hrest =>
      split at h
      · cases h
      · next hid =>
        obtain rfl := Option.some.inj h
        exact ⟨rfl, hrun, ⟨rest, hrest⟩, hid⟩
    · cases h
  | _ => cases h

/-- Whose handler the host is asked to run, is running then. -/
theorem running?_of_called (hp : s.bus.pass? = some pass) (h : s.called? a = some sub)
    {call : Invocation H} (hcall : sub.handler.call? pass.parcel.message = some call) :
    (s.step a).bus.running? = some sub := by
  have hd := pass?_eq_some.1 hp
  obtain ⟨rfl, hrun, ⟨rest, hrest⟩, hid⟩ := next_of_called hp h
  have hturn : s.bus.turn s.now = s.bus.deliver { pass with rest } sub := by
    simp [turn, hd, hrun, hrest, hid]
  have hbus : (s.step .turn).bus = (s.bus.deliver { pass with rest } sub).1 := by
    rw [← hturn, step_turn_bus]
  rw [hbus]
  unfold Listener.call? at hcall
  unfold deliver
  split at hcall
  · next h hh => simp [hh, running?]
  · next h hh =>
    split at hcall
    · next hm => simp [hh, hm, running?]
    · cases hcall
  · cases hcall

/-- **What the host is asked to run** is the handler of the one who is called, on
    the message that is delivered. -/
theorem asked?_eq (hp : s.bus.pass? = some pass) (a : Act H) :
    s.asked? a = (s.called? a).bind fun sub =>
      (sub.handler.call? pass.parcel.message).map (sub.id, ·) := by
  rw [asked?, handled?_eq hp]
  rcases hcalled : s.called? a with _ | sub
  · rfl
  · rcases hcall : sub.handler.call? pass.parcel.message with _ | call
    · simp [hcall]
    · simp [hcall, running?_of_called hp hcalled hcall]

theorem handed_concat (log : List (Session H × Act H)) (s : Session H) (a : Act H) (i id : String) :
    handed (log ++ [(s, a)]) i id = handed log i id ++ ((s.asked? a).bind fun (id', call) =>
      if id' = id ∧ call.message.id = i then some call else none).toList := List.filterMap_concat ..

/-- The host is asked nothing on a message that is not being delivered. -/
theorem handed_of_not_delivered
    (h : ∀ pass, s.bus.pass? = some pass → pass.parcel.message.id ≠ i) :
    handed (log ++ [(s, a)]) i id = handed log i id := by
  rw [handed_concat]
  rcases hp : s.bus.pass? with _ | pass
  · simp [asked?, handled?_of_not_delivered hp]
  · rw [asked?_eq hp]
    rcases s.called? a with _ | sub
    · simp
    · rcases hcall : sub.handler.call? pass.parcel.message with _ | call
      · simp [hcall]
      · have hne : call.message.id ≠ i := by
          rw [Listener.message_of_call hcall]
          exact h pass hp
        simp [hcall, hne]

/-- Amid a delivery, whoever is called is handed to the host, if they need it. -/
theorem handed_of_delivered (log : List (Session H × Act H)) (hp : s.bus.pass? = some pass)
    (a : Act H) (id : String) :
    handed (log ++ [(s, a)]) pass.parcel.message.id id =
      handed log pass.parcel.message.id id ++
        ((s.called? a).bind fun sub =>
          if sub.id = id then sub.handler.call? pass.parcel.message else none).toList := by
  rw [handed_concat, asked?_eq hp]
  rcases s.called? a with _ | sub
  · rfl
  · rcases hcall : sub.handler.call? pass.parcel.message with _ | call
    · simp [hcall]
    · simp [hcall, Listener.message_of_call hcall]

theorem Goes.rest_subset {t t' : Tally} (h : Goes t pass t' pass') : pass'.rest ⊆ pass.rest := by
  cases h with
  | skipped sub rest _ hrest => exact hrest ▸ List.subset_cons_self ..
  | passed sub rest _ hrest => exact hrest ▸ List.subset_cons_self ..
  | invoked sub rest _ hrest => exact hrest ▸ List.subset_cons_self ..
  | accepted => exact List.Subset.refl _
  | rejected => exact List.Subset.refl _

/-- Who has not accepted the message was invoked in every pass. -/
theorem Turned.invoked_of_notMem {f : String → Nat} {t : Tally} {accepted : List String} {k : Nat}
    (h : Turned f t accepted k id) (hid : id ∉ accepted) : t.invoked id = k := by
  have hle : k ≤ f id := Nat.le_of_not_lt fun hlt => hid (h.accepted.2 hlt)
  rw [h.invoked]
  omega

end Acts

/-! ## Runs -/

/-- What the host was asked to run on a message that the same subscriptions are
    found for in every pass. -/
structure Handing (m : Message) (S : List (Subscription (Listener H)))
    (log : List (Session H × Act H)) (s : Session H) : Prop where
  /-- nobody else has a turn -/
  ahead : ∀ pass, s.bus.pass? = some pass → pass.parcel.message.id = m.id → pass.rest ⊆ S
  tries : ∀ sub ∈ S, handed log m.id sub.id = sub.tries m ((tally log m.id).invoked sub.id)
  others : ∀ id ∉ S.map (·.id), handed log m.id id = []

section Steps

variable {m : Message} {S : List (Subscription (Listener H))} {f : String → Nat} {n : Nat}
  {log : List (Session H × Act H)} {s : Session H} {a : Act H} {pass : Pass H}

theorem Handing.step_ahead (h : Handing m S log s) (hsteady : Steady m.id S f (log ++ [(s, a)]))
    {pass' : Pass H} (hpass : (s.step a).bus.pass? = some pass')
    (hid : pass'.parcel.message.id = m.id) : pass'.rest ⊆ S := by
  rcases pass_origin hpass with ⟨pass, hp, hsame⟩ | ⟨rfl, hd, p, queue, hpop, rfl⟩
  · have hrest := h.ahead pass hp (hsame.symm.trans hid)
    rcases (course log hp a).goes_on hpass with ⟨rfl, -, -⟩ | hg
    · exact hrest
    · exact List.Subset.trans hg.rest_subset hrest
  · have hfound : s.bus.index.matching p.message.topic = S := hsteady.served hd hpop hid
    exact hfound ▸ List.Subset.refl _

/-- The message that is delivered is the one that has arrived, but for the count of
    passes. -/
theorem message_of_delivered (hbooks : Books log s) (hp : s.bus.pass? = some pass)
    (hsame : ∀ m' ∈ arrived log, m'.id = m.id → m' = m) (hid : pass.parcel.message.id = m.id) :
    { m with attempts := pass.parcel.message.attempts } = pass.parcel.message := by
  have hstamp := hsame _ (hbooks.arrived_of_flight (mem_flight_of_pass hp)) hid
  rw [← hstamp]
  rfl

/-- Whose turn it is, is tried once more, on the message as it is now. -/
theorem Handing.step_called (h : Handing m S log s) (hbooks : Books log s)
    (hstanding : Standing m.id (S.map (·.id)) f n log s)
    (hsame : ∀ m' ∈ arrived log, m'.id = m.id → m' = m) (hp : s.bus.pass? = some pass)
    (hid : pass.parcel.message.id = m.id) {sub : Subscription (Listener H)}
    (hcalled : s.called? a = some sub) :
    sub ∈ S ∧ handed log m.id sub.id ++ (sub.handler.call? pass.parcel.message).toList =
      sub.tries m ((tally log m.id).invoked sub.id + 1) := by
  obtain ⟨-, -, ⟨rest, hrest⟩, hnew⟩ := next_of_called hp hcalled
  have hmem : sub ∈ S := h.ahead pass hp hid (hrest ▸ List.mem_cons_self)
  obtain ⟨-, done, hround⟩ := hstanding.underway pass hp hid
  have hinvoked : (tally log m.id).invoked sub.id = pass.parcel.message.attempts.toNat :=
    (hround.ahead sub.id (by simp [hrest])).invoked_of_notMem hnew
  have hmessage := message_of_delivered hbooks hp hsame hid
  refine ⟨hmem, ?_⟩
  rw [Subscription.tries_succ, ← h.tries sub hmem, hinvoked, UInt32.ofNat_toNat, hmessage]

theorem Handing.step_delivered (h : Handing m S log s) (hbooks : Books log s)
    (hstanding : Standing m.id (S.map (·.id)) f n log s)
    (hsame : ∀ m' ∈ arrived log, m'.id = m.id → m' = m) (hp : s.bus.pass? = some pass)
    (hid : pass.parcel.message.id = m.id) :
    (∀ sub ∈ S, handed (log ++ [(s, a)]) m.id sub.id =
      sub.tries m ((tally (log ++ [(s, a)]) m.id).invoked sub.id)) ∧
    ∀ id ∉ S.map (·.id), handed (log ++ [(s, a)]) m.id id = [] := by
  have hhanded (id : String) := handed_of_delivered log hp a id
  have hinvoked (id : String) : (tally (log ++ [(s, a)]) m.id).invoked id =
      (tally log m.id).invoked id + if s.invocation? a = some (m.id, id) then 1 else 0 := by
    rw [tally_concat]
  rw [hid] at hhanded
  simp only [hhanded, hinvoked, invocation?_eq hp]
  rcases hcalled : s.called? a with _ | sub
  · simpa using ⟨h.tries, by simpa using h.others⟩
  obtain ⟨hmem, htry⟩ := h.step_called hbooks hstanding hsame hp hid hcalled
  obtain ⟨-, done, hround⟩ := hstanding.underway pass hp hid
  constructor
  · intro sub' hsub'
    by_cases heq : sub.id = sub'.id
    · obtain rfl := List.inj_on_of_nodup_map hround.nodup hmem hsub' heq
      simpa [Subscription.key, hid] using htry
    · simpa [Subscription.key, heq] using h.tries sub' hsub'
  · intro id hnot
    have hne : sub.id ≠ id := fun heq => hnot (heq ▸ List.mem_map_of_mem hmem)
    simpa [hne] using h.others id hnot

/-- **One act** asks the host for what it has to run, and for nothing else. -/
theorem Handing.step (h : Handing m S log s) (hbooks : Books log s)
    (hstanding : Standing m.id (S.map (·.id)) f n log s)
    (hsame : ∀ m' ∈ arrived log, m'.id = m.id → m' = m)
    (hsteady : Steady m.id S f (log ++ [(s, a)])) : Handing m S (log ++ [(s, a)]) (s.step a) := by
  have hahead : ∀ pass', (s.step a).bus.pass? = some pass' →
      pass'.parcel.message.id = m.id → pass'.rest ⊆ S :=
    fun _ hpass hid => h.step_ahead hsteady hpass hid
  by_cases hdelivered : ∃ pass, s.bus.pass? = some pass ∧ pass.parcel.message.id = m.id
  · obtain ⟨pass, hp, hid⟩ := hdelivered
    obtain ⟨htries, hothers⟩ := h.step_delivered (a := a) hbooks hstanding hsame hp hid
    exact ⟨hahead, htries, hothers⟩
  · have hnot : ∀ pass, s.bus.pass? = some pass → pass.parcel.message.id ≠ m.id :=
      fun pass hp hid => hdelivered ⟨pass, hp, hid⟩
    refine ⟨hahead, fun sub hsub => ?_, fun id hid => ?_⟩
    · rw [handed_of_not_delivered hnot, tally_of_not_delivered hnot]
      exact h.tries sub hsub
    · rw [handed_of_not_delivered hnot]
      exact h.others id hid

end Steps

/-- **What the host is asked to run** on a message, in every run. -/
theorem run_handing (config : BusConfig) (hosted : Bool) (acts : List (Act H)) {m : Message}
    {S : List (Subscription (Listener H))} {f : String → Nat} (hn : m.maxRetries.toNat < 2 ^ 32 - 1)
    (hsame : ∀ m' ∈ arrived ((start config hosted).trace acts), m'.id = m.id → m' = m)
    (hsteady : Steady m.id S f ((start config hosted).trace acts)) :
    Handing m S ((start config hosted).trace acts) ((start config hosted).run acts) := by
  induction acts using List.reverseRecOn with
  | nil =>
    exact
      { ahead := fun pass hp => by cases hp
        tries := fun _ _ => rfl
        others := fun _ _ => rfl }
  | append_singleton acts a ih =>
    rw [run_concat]
    rw [trace_concat] at hsame hsteady ⊢
    have hsame' : ∀ m' ∈ arrived ((start config hosted).trace acts), m'.id = m.id → m' = m :=
      fun m' hm' => hsame m' (arrived_subset _ _ hm')
    have hstanding := run_standing config hosted acts hsteady.before
      (fun m' hm' hid => by rw [hsame' m' hm' hid]) hn
    exact (ih hsame' hsteady.before).step (run_books config hosted acts) hstanding hsame' hsteady

end Bus.Session

end Switchboard
