import Mathlib.Data.Finset.Dedup
import Mathlib.Data.Finset.Lattice.Fold
import Mathlib.Order.Lattice.Nat
import Switchboard.Proofs.Bus.Rounds

/-
  The passage of one message through a bus, from the act in which it enters to
  the one in which it leaves.

  * `arrived` and `departed` are the messages that entered and left in a run,
    `fates` the fates of those with one id; `Books` relates them to the bus;
  * `queued_origin` and `pass_origin` tell where a parcel that waits and the
    delivery under way come from;
  * `Steady`: a message is found by the same subscriptions in every pass, and
    each of them fails for so many times;
  * `Standing`: what is known of such a message wherever it is, `run_standing`.
-/

namespace Switchboard.Bus.Session

variable {H : Type}

/-! ## What a run has carried -/

/-- The messages that entered. -/
def arrived (log : List (Session H × Act H)) : List Message :=
  log.flatMap fun x => (x.1.traffic x.2).entered

/-- The messages that left, with their fates. -/
def departed (log : List (Session H × Act H)) : List (Fate × Message) :=
  log.flatMap fun x => (x.1.traffic x.2).left

/-- The fates of the messages with an id. -/
def fates (log : List (Session H × Act H)) (i : String) : List Fate :=
  (departed log).filterMap fun d => if d.2.id = i then some d.1 else none

theorem arrived_concat (log : List (Session H × Act H)) (s : Session H) (a : Act H) :
    arrived (log ++ [(s, a)]) = arrived log ++ (s.traffic a).entered := by simp [arrived]

theorem departed_concat (log : List (Session H × Act H)) (s : Session H) (a : Act H) :
    departed (log ++ [(s, a)]) = departed log ++ (s.traffic a).left := by simp [departed]

theorem mem_fates {log : List (Session H × Act H)} {i : String} {fate : Fate} :
    fate ∈ fates log i ↔ ∃ m, (fate, m) ∈ departed log ∧ m.id = i := by
  simp [fates]

theorem arrived_subset (log log' : List (Session H × Act H)) :
    arrived log ⊆ arrived (log ++ log') := by
  simp only [arrived, List.flatMap_append]
  exact List.subset_append_left _ _

theorem fates_subset (log log' : List (Session H × Act H)) (i : String) :
    fates log i ⊆ fates (log ++ log') i := by
  simp only [fates, departed, List.flatMap_append, List.filterMap_append]
  exact List.subset_append_left _ _

/-- The traffic of a run, act by act. -/
theorem history_eq (s : Session H) (acts : List (Act H)) :
    (s.history acts).entered = arrived (s.trace acts) ∧
      (s.history acts).left = departed (s.trace acts) := by
  induction acts generalizing s with
  | nil => exact ⟨rfl, rfl⟩
  | cons a acts ih =>
    obtain ⟨hentered, hleft⟩ := ih (s.step a)
    exact ⟨congrArg ((s.traffic a).entered ++ ·) hentered,
      congrArg ((s.traffic a).left ++ ·) hleft⟩

/-- The books of a run: what has arrived is in flight or has departed, and no two
    messages have the same id. -/
structure Books (log : List (Session H × Act H)) (s : Session H) : Prop where
  conserved : (arrived log).Perm (s.bus.flight ++ (departed log).map (·.2))
  distinct : ((arrived log).map (·.id)).Nodup

theorem run_books (config : BusConfig) (hosted : Bool) (acts : List (Act H)) :
    Books ((start config hosted).trace acts) ((start config hosted).run acts) := by
  have h := run_accounts (start config hosted : Session H) acts
  obtain ⟨hentered, hleft⟩ := history_eq (start config hosted : Session H) acts
  have hflight := h.flight
  have honce := h.once
  rw [hentered, hleft] at hflight
  rw [hentered] at honce
  exact ⟨hflight, honce⟩

section Ledgers

variable {log : List (Session H × Act H)} {s : Session H} {i : String}

theorem mem_flight_of_pass {pass : Pass H} (hp : s.bus.pass? = some pass) :
    pass.parcel.stamp ∈ s.bus.flight :=
  List.mem_append_left _ (by simp [hp])

theorem mem_flight_of_queue {p : Parcel} (hp : p ∈ s.bus.queue.toList) : p.stamp ∈ s.bus.flight :=
  List.mem_append_right _ (List.mem_map_of_mem hp)

/-- What is in flight is being delivered, or waits. -/
theorem flight_cases {m : Message} (hm : m ∈ s.bus.flight) :
    (∃ pass, s.bus.pass? = some pass ∧ pass.parcel.stamp = m) ∨
      ∃ p ∈ s.bus.queue.toList, p.stamp = m := by
  rcases List.mem_append.1 hm with hm | hm
  · exact Or.inl (Option.map_eq_some_iff.1 (Option.mem_toList.1 hm))
  · exact Or.inr (List.mem_map.1 hm)

namespace Books

/-- A message is in one place. -/
theorem apart (h : Books log s) :
    (s.bus.flight.map (·.id) ++ (departed log).map (·.2.id)).Nodup := by
  have hids := (h.conserved.map (·.id)).nodup_iff.1 h.distinct
  rw [List.map_append, List.map_map] at hids
  exact hids

theorem arrived_of_flight (h : Books log s) {m : Message} (hm : m ∈ s.bus.flight) :
    m ∈ arrived log := h.conserved.mem_iff.2 (List.mem_append_left _ hm)

/-- The message that is being delivered does not wait. -/
theorem ne_of_queue (h : Books log s) {pass : Pass H} (hpass : s.bus.pass? = some pass) {p : Parcel}
    (hp : p ∈ s.bus.queue.toList) : pass.parcel.message.id ≠ p.message.id := by
  have hflight := h.apart.of_append_left
  rw [flight_of_delivering (pass?_eq_some.1 hpass), List.map_cons, List.map_map] at hflight
  intro heq
  exact (List.nodup_cons.1 hflight).1 (List.mem_map.2 ⟨p, hp, heq.symm⟩)

/-- Messages that wait have different ids. -/
theorem queue_inj (h : Books log s) {p p' : Parcel} (hp : p ∈ s.bus.queue.toList)
    (hp' : p' ∈ s.bus.queue.toList) (heq : p.message.id = p'.message.id) : p = p' := by
  have hqueue := h.apart.of_append_left
  rw [Bus.flight, List.map_append, List.map_map] at hqueue
  exact List.inj_on_of_nodup_map hqueue.of_append_right hp hp' heq

/-- A message that has departed is not in flight. -/
theorem not_flight (h : Books log s) {fate : Fate} (hfate : fate ∈ fates log i) :
    ∀ m ∈ s.bus.flight, m.id ≠ i := by
  obtain ⟨m', hm', rfl⟩ := mem_fates.1 hfate
  intro m hm heq
  exact List.disjoint_of_nodup_append h.apart (List.mem_map.2 ⟨m, hm, heq⟩)
    (List.mem_map.2 ⟨(fate, m'), hm', rfl⟩)

/-- A message departs once. -/
theorem fates_length (h : Books log s) (i : String) : (fates log i).length ≤ 1 := by
  have hcount : ((departed log).map (·.2.id)).count i ≤ 1 :=
    List.nodup_iff_count_le_one.1 h.apart.of_append_right i
  have hlength : ∀ ds : List (Fate × Message),
      (ds.filterMap fun d => if d.2.id = i then some d.1 else none).length =
        (ds.map (·.2.id)).count i := by
    intro ds
    induction ds with
    | nil => rfl
    | cons d ds ih => by_cases hd : d.2.id = i <;> simp [hd, ih]
  exact (hlength _).trans_le hcount

/-- A message that has arrived and is not in flight has departed. -/
theorem exists_fate (h : Books log s) {m : Message} (hm : m ∈ arrived log)
    (hflight : ∀ m' ∈ s.bus.flight, m'.id ≠ m.id) : ∃ fate, fates log m.id = [fate] := by
  have hdeparted : m ∈ (departed log).map (·.2) :=
    (List.mem_append.1 (h.conserved.mem_iff.1 hm)).resolve_left fun hm => hflight m hm rfl
  obtain ⟨⟨fate, m⟩, hd, rfl⟩ := List.mem_map.1 hdeparted
  have hfate : fate ∈ fates log m.id := mem_fates.2 ⟨m, hd, rfl⟩
  have hlength := h.fates_length m.id
  rcases hl : fates log m.id with _ | ⟨fate', _ | ⟨fate'', fs⟩⟩
  · rw [hl] at hfate
    cases hfate
  · exact ⟨fate', rfl⟩
  · rw [hl] at hlength
    simp at hlength

/-- A message that enters is new. -/
theorem fresh {a : Act H} (h : Books (log ++ [(s, a)]) (s.step a)) {m : Message}
    (hm : m ∈ (s.traffic a).entered) : ∀ m' ∈ arrived log, m'.id ≠ m.id := by
  have hdistinct := h.distinct
  rw [arrived_concat, List.map_append] at hdistinct
  intro m' hm' heq
  exact List.disjoint_of_nodup_append hdistinct (List.mem_map.2 ⟨m', hm', heq⟩)
    (List.mem_map_of_mem hm)

/-- Nothing is done with a message that waits. -/
theorem tally_of_queue (h : Books log s) {p : Parcel} (hp : p ∈ s.bus.queue.toList)
    (hid : p.message.id = i) (a : Act H) : tally (log ++ [(s, a)]) i = tally log i :=
  tally_of_not_delivered fun _ hpass => hid ▸ h.ne_of_queue hpass hp

end Books

/-- Nothing is done with a message that is not in flight. -/
theorem tally_of_not_flight (hflight : ∀ m ∈ s.bus.flight, m.id ≠ i) (a : Act H) :
    tally (log ++ [(s, a)]) i = tally log i :=
  tally_of_not_delivered fun pass hpass => hflight pass.parcel.stamp (mem_flight_of_pass hpass)

end Ledgers

/-- No pass has failed yet on a message that enters. -/
theorem entered_attempts {s : Session H} {a : Act H} {m : Message}
    (h : m ∈ (s.traffic a).entered) : m.attempts = 0 := by
  have hcarries := carries s a
  generalize s.traffic a = t at h hcarries
  cases hcarries with
  | nothing => cases h
  | published a topic payload o =>
    obtain ⟨id, rfl⟩ := publishTraffic_entered h
    rfl
  | requested topic payload o t m' _ hm' =>
    obtain rfl := List.mem_singleton.1 h
    rw [hm']
    rfl
  | turned t os b hturn => cases hturn <;> cases h
  | shut => cases h

/-- A delivery that begins is that of the parcel that is served next. -/
theorem begun_origin {s : Session H} {a : Act H} {pass : Pass H} (hnone : s.bus.pass? = none)
    (hpass : (s.step a).bus.pass? = some pass) :
    a = .turn ∧ s.bus.drainer = .ready ∧ ∃ p queue, s.bus.queue.pop? = some (p, queue) ∧
      pass = ⟨p, s.bus.index.matching p.message.topic, none, none⟩ := by
  have hnever {p : Pass H} (hd : s.bus.drainer = .delivering p) : False := by
    rw [pass?_eq_some.2 hd] at hnone
    cases hnone
  by_cases hturn : a = .turn
  · subst hturn
    have hturn := s.bus.turn_turns s.now
    rw [← step_turn_bus] at hturn
    generalize s.bus.turnTraffic s.now = t at hturn
    generalize s.bus.handedOver = os at hturn
    have hdrainer := pass?_eq_some.1 hpass
    generalize (s.step .turn).bus = b at hturn hdrainer
    cases hturn with
    | idle hd => rw [hd] at hdrainer; cases hdrainer
    | rested hd => cases hdrainer
    | expired p queue hd => rw [show _ = _ from hd] at hdrainer; cases hdrainer
    | unheard p queue counters hd =>
      rw [(settleMessage_atDesk _ _ _).drainer, show _ = _ from hd] at hdrainer
      cases hdrainer
    | begun p queue hd hp => exact ⟨rfl, hd, p, queue, hp, (Drainer.delivering.inj hdrainer).symm⟩
    | _ => exact (hnever ‹s.bus.drainer = .delivering _›).elim
  · exfalso
    by_cases hfinish : ∃ ending, a = .finish ending
    · obtain ⟨ending, rfl⟩ := hfinish
      have hfinish := s.bus.finish_finishes s.now ending
      have hbus : (s.step (.finish ending)).bus = s.bus.finish s.now ending := rfl
      rw [hbus] at hpass
      generalize s.bus.finishTraffic s.now ending = t at hfinish
      generalize s.bus.finish s.now ending = b at hfinish hpass
      cases hfinish with
      | idle => rw [hnone] at hpass; cases hpass
      | rejected _ _ _ hd => exact hnever hd
      | accepted _ _ hd => exact hnever hd
      | answered _ _ _ hd => exact hnever hd
    · rw [step_pass? s hturn fun ending h => hfinish ⟨ending, h⟩, hnone] at hpass
      cases hpass

/-- The delivery under way goes on, or begins. -/
theorem pass_origin {s : Session H} {a : Act H} {pass' : Pass H}
    (hpass : (s.step a).bus.pass? = some pass') :
    (∃ pass, s.bus.pass? = some pass ∧ pass'.parcel.message.id = pass.parcel.message.id) ∨
      a = .turn ∧ s.bus.drainer = .ready ∧ ∃ p queue, s.bus.queue.pop? = some (p, queue) ∧
        pass' = ⟨p, s.bus.index.matching p.message.topic, none, none⟩ := by
  rcases hp : s.bus.pass? with _ | pass
  · exact Or.inr (begun_origin hp hpass)
  refine Or.inl ⟨pass, rfl, ?_⟩
  rcases (course [] hp a).goes_on hpass with ⟨rfl, -⟩ | hg
  · rfl
  · rw [hg.frame.1]

/-- A parcel that waits has waited, is new, or is that of the message that is sent
    back. -/
theorem queued_origin {s : Session H} {a : Act H} {p : Parcel}
    (hp : p ∈ (s.step a).bus.queue.toList) :
    p ∈ s.bus.queue.toList ∨ (∃ m ∈ (s.traffic a).entered, p = .fresh m) ∨
      ∃ pass, SendsBack s a pass ∧ p = { pass.parcel with message := pass.again } := by
  rcases step_posts s a with ⟨-, hposts⟩ | ⟨pass, hback⟩
  · exact (hposts.queue p hp).imp_right Or.inl
  · exact (hback.queue p hp).imp_right fun heq => Or.inr ⟨pass, hback, heq⟩

/-! ## A message and those that listen to it -/

/-- The message that is served in an act, and the subscriptions that it finds. -/
def found? (s : Session H) : Act H → Option (String × List (Subscription (Listener H)))
  | .turn =>
    match s.bus.drainer with
    | .ready => s.bus.queue.pop?.map fun x =>
      (x.1.message.id, s.bus.index.matching x.1.message.topic)
    | _ => none
  | _ => none

/-- The messages that are served in a run, each with the subscriptions that it
    finds. -/
def found (log : List (Session H × Act H)) :
    List (String × List (Subscription (Listener H))) :=
  log.filterMap fun x => x.1.found? x.2

/-- The message with an id finds the same subscriptions in every pass, each of
    which fails for so many times and then succeeds; it neither expires nor is
    evicted. -/
structure Steady (i : String) (S : List (Subscription (Listener H))) (f : String → Nat)
    (log : List (Session H × Act H)) : Prop where
  nonempty : S ≠ []
  found : ∀ subs, (i, subs) ∈ found log → subs = S
  behaved : Behaves (S.map (·.id)) f (tally log i)
  unexpired : .expired ∉ fates log i
  unevicted : .overflowed ∉ fates log i

theorem Steady.before {i : String} {S : List (Subscription (Listener H))} {f : String → Nat}
    {log log' : List (Session H × Act H)} (h : Steady i S f (log ++ log')) : Steady i S f log where
  nonempty := h.nonempty
  found subs hsubs := h.found subs (by
    rw [Session.found, List.filterMap_append]
    exact List.mem_append_left _ hsubs)
  behaved id hid k r hk := by
    refine h.behaved id hid k r ?_
    rw [tally_append]
    exact List.getElem?_append_left (List.getElem?_eq_some_iff.1 hk).1 ▸ hk
  unexpired hfate := h.unexpired (fates_subset log log' i hfate)
  unevicted hfate := h.unevicted (fates_subset log log' i hfate)

/-- What is served finds the subscriptions that it always finds. -/
theorem Steady.served {i : String} {S : List (Subscription (Listener H))} {f : String → Nat}
    {log : List (Session H × Act H)} {s : Session H} (h : Steady i S f (log ++ [(s, .turn)]))
    {p : Parcel} {queue : Queue} (hd : s.bus.drainer = .ready)
    (hpop : s.bus.queue.pop? = some (p, queue)) (hid : p.message.id = i) :
    s.bus.index.matching p.message.topic = S := by
  refine h.found _ (List.mem_filterMap.2 ⟨(s, .turn), List.mem_concat_self, ?_⟩)
  simp [found?, hd, hpop, hid]

/-- What is known of the message of a parcel, at most `n` retries being allowed:
    passes are counted, each but the first because somebody was still failing. -/
structure Counted (S : List String) (f : String → Nat) (n : Nat) (t : Tally) (m : Message) :
    Prop where
  limit : m.maxRetries.toNat = n
  within : m.attempts.toNat ≤ min (S.toFinset.sup f) n
  sentBack : t.sentBack = m.attempts.toNat

/-- After `k` passes, each subscription was invoked until it accepted. -/
def After (S : List String) (f : String → Nat) (t : Tally) (k : Nat) : Prop :=
  ∀ id ∈ S, t.invoked id = min (f id + 1) k ∧ (t.outcomes id).length = min (f id + 1) k

/-- What is known of a message that has departed. -/
inductive Over (S : List String) (f : String → Nat) (n : Nat) (t : Tally) : Fate → Prop
  /-- all have accepted it in the pass after the last retry -/
  | processed (k) : t.sentBack = k → k ≤ min (S.toFinset.sup f) n → (∀ id ∈ S, f id ≤ k) →
      After S f t (k + 1) → Over S f n t .processed
  /-- somebody still failed when no retry was left -/
  | failed : t.sentBack = n → (∃ id ∈ S, n < f id) → After S f t (n + 1) → Over S f n t .failed
  | discarded (k) : t.sentBack = k → k ≤ min (S.toFinset.sup f) n → After S f t k →
      Over S f n t .discarded

/-- Where the message with an id is, and what is known of it there. -/
structure Standing (i : String) (S : List String) (f : String → Nat) (n : Nat)
    (log : List (Session H × Act H)) (s : Session H) : Prop where
  ahead : (∀ m ∈ arrived log, m.id ≠ i) → tally log i = .blank
  queued : ∀ p ∈ s.bus.queue.toList, p.message.id = i →
    Counted S f n (tally log i) p.message ∧
      ∀ id ∈ S, Turned f (tally log i) p.accepted p.message.attempts.toNat id
  underway : ∀ pass, s.bus.pass? = some pass → pass.parcel.message.id = i →
    Counted S f n (tally log i) pass.parcel.message ∧ ∃ done, Round S f (tally log i) pass done
  gone : ∀ fate ∈ fates log i, Over S f n (tally log i) fate

/-! ### One pass -/

section Passes

variable {S : List String} {f : String → Nat} {t t' : Tally} {pass pass' : Pass H} {n : Nat}
  {done : List String}

theorem Turned.after {accepted : List String} {k : Nat}
    (h : ∀ id ∈ S, Turned f t accepted k id) : After S f t k :=
  fun id hid => ⟨(h id hid).invoked, (h id hid).outcomes⟩

theorem Round.all (h : Round S f t pass done) (hrun : pass.running = none)
    (hrest : pass.rest = []) : done = S := by
  have hsplit := h.split
  rw [hrun, hrest] at hsplit
  simpa using hsplit.symm

/-- In the end all had their turn. -/
theorem Round.ended (h : Round S f t pass done) (hrun : pass.running = none)
    (hrest : pass.rest = []) :
    ∀ id ∈ S, Turned f t pass.parcel.accepted (pass.parcel.message.attempts.toNat + 1) id :=
  h.all hrun hrest ▸ h.turned

/-- Where a pass comes to no failure, nobody fails any more. -/
theorem Round.succeeded (h : Round S f t pass done) (hrun : pass.running = none)
    (hrest : pass.rest = []) (hfailure : pass.failure = none) :
    ∀ id ∈ S, f id ≤ pass.parcel.message.attempts.toNat := by
  have hfirst := h.first
  rw [h.all hrun hrest, First, hfailure] at hfirst
  intro id hid
  split at hfirst
  · next hnone => simpa using List.find?_eq_none.1 hnone id hid
  · obtain ⟨e, he, -⟩ := hfirst
    cases he

/-- Where a pass comes to a failure, it is the last one of the first subscription
    that still fails. -/
theorem Round.broken (h : Round S f t pass done) (hrun : pass.running = none)
    (hrest : pass.rest = []) {e : HandlerFault} (hfailure : pass.failure = some e) :
    ∃ id, S.find? (fun id => pass.parcel.message.attempts.toNat < f id) = some id ∧
      (t.outcomes id).getLast? = some (some e) := by
  have hfirst := h.first
  rw [h.all hrun hrest, First, hfailure] at hfirst
  split at hfirst
  · cases hfirst
  · next id hid =>
    obtain ⟨e', he, hlast⟩ := hfirst
    exact ⟨id, hid, Option.some.inj he ▸ hlast⟩

theorem Round.begin (hnodup : S.Nodup) {p : Parcel} {found : List (Subscription (Listener H))}
    (hfound : found.map (·.id) = S)
    (hturned : ∀ id ∈ S, Turned f t p.accepted p.message.attempts.toNat id) :
    Round S f t ⟨p, found, none, none⟩ [] where
  split := hfound.symm
  nodup := hnodup
  turned id hid := by cases hid
  turning sub hsub := by cases hsub
  ahead id hid := hturned id (hfound ▸ hid)
  first := rfl

theorem Counted.goes (h : Counted S f n t pass.parcel.message) (hg : Goes t pass t' pass') :
    Counted S f n t' pass'.parcel.message := by
  obtain ⟨hmessage, hback⟩ := hg.frame
  rw [hmessage]
  exact ⟨h.limit, h.within, hback.trans h.sentBack⟩

/-- The count of passes does not run over. -/
theorem Counted.again (h : Counted S f n t pass.parcel.message) (hn : n < 2 ^ 32 - 1) :
    pass.again.attempts.toNat = pass.parcel.message.attempts.toNat + 1 := by
  have hle := h.within.trans (Nat.min_le_right _ _)
  have hadd : pass.again.attempts.toNat = (pass.parcel.message.attempts.toNat + 1) % 2 ^ 32 :=
    UInt32.toNat_add _ _
  rw [hadd]
  exact Nat.mod_eq_of_lt (by omega)

/-- Another pass may follow while there were fewer retries than allowed. -/
theorem Counted.canRetry_iff (h : Counted S f n t pass.parcel.message) (hn : n < 2 ^ 32 - 1) :
    pass.again.canRetry = true ↔ pass.parcel.message.attempts.toNat + 1 ≤ n := by
  have hlimit : pass.again.maxRetries.toNat = n := h.limit
  rw [Message.canRetry, decide_eq_true_iff, UInt32.le_iff_toNat_le, h.again hn, hlimit]

/-- Where no pass may follow, no retry is left. -/
theorem Counted.last (h : Counted S f n t pass.parcel.message) (hn : n < 2 ^ 32 - 1)
    (hretry : pass.again.canRetry = false) : pass.parcel.message.attempts.toNat = n := by
  have hle := h.within
  have hlt := mt (h.canRetry_iff hn).2 (Bool.eq_false_iff.1 hretry)
  omega

/-- A message that is sent back was sent back for a reason. -/
theorem Counted.back (h : Counted S f n t pass.parcel.message) (hn : n < 2 ^ 32 - 1)
    (hretry : pass.again.canRetry = true)
    (hfails : ∃ id ∈ S, pass.parcel.message.attempts.toNat < f id) :
    Counted S f n t.back pass.again where
  limit := h.limit
  within := by
    obtain ⟨id, hid, hlt⟩ := hfails
    have hsup : f id ≤ S.toFinset.sup f := Finset.le_sup (List.mem_toFinset.2 hid)
    have hle := (h.canRetry_iff hn).1 hretry
    rw [h.again hn]
    omega
  sentBack := by rw [h.again hn, ← h.sentBack]; rfl

end Passes

/-! ### One act -/

section Steps

variable {i : String} {ids : List String} {S : List (Subscription (Listener H))}
  {f : String → Nat} {n : Nat}
  {log : List (Session H × Act H)} {s : Session H} {a : Act H}

/-- A message that waits is left alone. -/
theorem Standing.waits (h : Standing i ids f n log s) (hbooks : Books log s) {p : Parcel}
    (hp : p ∈ s.bus.queue.toList) (hid : p.message.id = i) :
    Counted ids f n (tally (log ++ [(s, a)]) i) p.message ∧
      ∀ id ∈ ids, Turned f (tally (log ++ [(s, a)]) i) p.accepted p.message.attempts.toNat id := by
  rw [hbooks.tally_of_queue hp hid a]
  exact h.queued p hp hid

/-- Nothing has been done with a message that enters. -/
theorem Standing.enters (h : Standing i ids f n log s) (hbooks : Books log s)
    (hbooks' : Books (log ++ [(s, a)]) (s.step a))
    (hlimit : ∀ m ∈ arrived (log ++ [(s, a)]), m.id = i → m.maxRetries.toNat = n) {m : Message}
    (hm : m ∈ (s.traffic a).entered) (hid : m.id = i) :
    Counted ids f n (tally (log ++ [(s, a)]) i) m ∧
      ∀ id ∈ ids, Turned f (tally (log ++ [(s, a)]) i) [] m.attempts.toNat id := by
  have hnew : ∀ m' ∈ arrived log, m'.id ≠ i := hid ▸ hbooks'.fresh hm
  have hblank : tally (log ++ [(s, a)]) i = .blank :=
    (tally_of_not_flight (fun m' hm' => hnew m' (hbooks.arrived_of_flight hm')) a).trans
      (h.ahead hnew)
  have hlimit' := hlimit m (by rw [arrived_concat]; exact List.mem_append_right _ hm) hid
  rw [hblank, entered_attempts hm]
  exact ⟨⟨hlimit', by simp [entered_attempts hm], by simp [entered_attempts hm, Tally.blank]⟩,
    fun id _ => ⟨by simp [Tally.blank], by simp [Tally.blank], by simp⟩⟩

theorem Standing.step_queued (h : Standing i ids f n log s) (hbooks : Books log s)
    (hbooks' : Books (log ++ [(s, a)]) (s.step a))
    (hlimit : ∀ m ∈ arrived (log ++ [(s, a)]), m.id = i → m.maxRetries.toNat = n)
    (hn : n < 2 ^ 32 - 1) {p : Parcel} (hp : p ∈ (s.step a).bus.queue.toList)
    (hid : p.message.id = i) :
    Counted ids f n (tally (log ++ [(s, a)]) i) p.message ∧
      ∀ id ∈ ids, Turned f (tally (log ++ [(s, a)]) i) p.accepted p.message.attempts.toNat id := by
  rcases queued_origin hp with hp | ⟨m, hm, rfl⟩ | ⟨pass, hback, rfl⟩
  · exact h.waits hbooks hp hid
  · exact h.enters hbooks hbooks' hlimit hm hid
  · have hid' : pass.parcel.message.id = i := hid
    obtain ⟨hcounted, done, hround⟩ := h.underway pass (pass?_eq_some.2 hback.drainer) hid'
    obtain ⟨e, he⟩ := Option.ne_none_iff_exists'.1 hback.failure
    obtain ⟨id, hfind, -⟩ := hround.broken hback.running hback.rest he
    have hfails : ∃ id ∈ ids, pass.parcel.message.attempts.toNat < f id :=
      ⟨id, List.mem_of_find?_eq_some hfind, by simpa using List.find?_some hfind⟩
    rw [← hid', hback.tally, hid']
    refine ⟨hcounted.back hn hback.canRetry hfails, fun id hid => ?_⟩
    obtain ⟨hinvoked, houtcomes, haccepted⟩ := hround.ended hback.running hback.rest id hid
    rw [hcounted.again hn]
    exact ⟨hinvoked, houtcomes, haccepted⟩

theorem Standing.step_underway (h : Standing i (S.map (·.id)) f n log s) (hnamed : Named s.bus)
    (hsteady : Steady i S f (log ++ [(s, a)])) {pass' : Pass H}
    (hpass : (s.step a).bus.pass? = some pass') (hid : pass'.parcel.message.id = i) :
    Counted (S.map (·.id)) f n (tally (log ++ [(s, a)]) i) pass'.parcel.message ∧
      ∃ done, Round (S.map (·.id)) f (tally (log ++ [(s, a)]) i) pass' done := by
  rcases pass_origin hpass with ⟨pass, hp, hsame⟩ | ⟨rfl, hd, p, queue, hpop, rfl⟩
  · have hid' : pass.parcel.message.id = i := hsame.symm.trans hid
    obtain ⟨hcounted, done, hround⟩ := h.underway pass hp hid'
    have hgoes := (course log hp a).goes_on hpass
    rw [hid'] at hgoes
    rcases hgoes with ⟨rfl, hquiet, -⟩ | hg
    · rw [hquiet]
      exact ⟨hcounted, done, hround⟩
    · exact ⟨hcounted.goes hg, hg.round hround hsteady.behaved⟩
  · have hmem : p ∈ s.bus.queue.toList := Queue.toList_pop hpop ▸ List.mem_cons_self
    have hquiet : tally (log ++ [(s, .turn)]) i = tally log i :=
      tally_of_not_delivered fun pass hp => by rw [pass?, hd] at hp; cases hp
    obtain ⟨hcounted, hturned⟩ := h.queued p hmem hid
    have hfound := hsteady.served hd hpop hid
    have hnodup := hfound ▸ hnamed.matching p.message.topic
    rw [hquiet]
    exact ⟨hcounted, [], .begin hnodup (congrArg _ hfound) hturned⟩

/-- What is known of a message when it departs. -/
theorem Standing.departs (h : Standing i (S.map (·.id)) f n log s) (hn : n < 2 ^ 32 - 1)
    (hsteady : Steady i S f (log ++ [(s, a)])) {fate : Fate} {m : Message}
    (hleft : (fate, m) ∈ (s.traffic a).left) (hid : m.id = i) :
    Over (S.map (·.id)) f n (tally (log ++ [(s, a)]) i) fate := by
  have hfate : fate ∈ fates (log ++ [(s, a)]) i :=
    mem_fates.2 ⟨m, by rw [departed_concat]; exact List.mem_append_right _ hleft, hid⟩
  cases leaves hleft with
  | expired => exact absurd hfate hsteady.unexpired
  | overflowed => exact absurd hfate hsteady.unevicted
  | unheard p queue hd hpop hnil hm =>
    have hpid : p.message.id = i := by rw [← hid, hm]; rfl
    have htopic : m.topic = p.message.topic := by rw [hm]; rfl
    have hfound := hsteady.served hd hpop hpid
    rw [← htopic, hnil] at hfound
    exact absurd hfound.symm hsteady.nonempty
  | processed pass hd hrun hrest hf hm =>
    have hpid : pass.parcel.message.id = i := by rw [← hid, hm]; rfl
    obtain ⟨hcounted, done, hround⟩ := h.underway pass (pass?_eq_some.2 hd) hpid
    rw [tally_of_ended log i hd hrun hrest (by simp [sentBack?, hd, hrun, hrest, hf])]
    exact .processed _ hcounted.sentBack hcounted.within (hround.succeeded hrun hrest hf)
      (Turned.after (hround.ended hrun hrest))
  | failed pass e hd hrun hrest hf hretry hm =>
    have hpid : pass.parcel.message.id = i := by rw [← hid, hm]; rfl
    obtain ⟨hcounted, done, hround⟩ := h.underway pass (pass?_eq_some.2 hd) hpid
    have hlast := hcounted.last hn hretry
    obtain ⟨id, hfind, -⟩ := hround.broken hrun hrest hf
    have hended := Turned.after (hround.ended hrun hrest)
    rw [hlast] at hfind hended
    rw [tally_of_ended log i hd hrun hrest (by simp [sentBack?, hd, hrun, hrest, hf, hretry])]
    exact .failed (hcounted.sentBack.trans hlast)
      ⟨id, List.mem_of_find?_eq_some hfind, by simpa using List.find?_some hfind⟩ hended
  | discarded hclosed =>
    obtain ⟨p, hp, rfl⟩ : ∃ p ∈ s.bus.queue.toList, p.stamp = m := by
      simpa [traffic, shutdownTraffic, hclosed] using hleft
    obtain ⟨hcounted, hturned⟩ := h.queued p hp hid
    rw [tally_silent (by simp [invocation?]) (by simp [outcome?]) (by simp [sentBack?])]
    exact .discarded _ hcounted.sentBack hcounted.within (Turned.after hturned)

/-- **One act** keeps the books of a message. -/
theorem Standing.step (h : Standing i (S.map (·.id)) f n log s) (hbooks : Books log s)
    (hbooks' : Books (log ++ [(s, a)]) (s.step a)) (hnamed : Named s.bus)
    (hsteady : Steady i S f (log ++ [(s, a)]))
    (hlimit : ∀ m ∈ arrived (log ++ [(s, a)]), m.id = i → m.maxRetries.toNat = n)
    (hn : n < 2 ^ 32 - 1) : Standing i (S.map (·.id)) f n (log ++ [(s, a)]) (s.step a) where
  ahead hnone := by
    have hnew : ∀ m ∈ arrived log, m.id ≠ i := fun m hm =>
      hnone m (by rw [arrived_concat]; exact List.mem_append_left _ hm)
    exact (tally_of_not_flight (fun m hm => hnew m (hbooks.arrived_of_flight hm)) a).trans
      (h.ahead hnew)
  queued p hp hid := h.step_queued hbooks hbooks' hlimit hn hp hid
  underway pass hpass hid := h.step_underway hnamed hsteady hpass hid
  gone fate hfate := by
    obtain ⟨m, hm, hid⟩ := mem_fates.1 hfate
    rw [departed_concat] at hm
    rcases List.mem_append.1 hm with hm | hm
    · have hold : fate ∈ fates log i := mem_fates.2 ⟨m, hm, hid⟩
      rw [tally_of_not_flight (hbooks.not_flight hold) a]
      exact h.gone fate hold
    · exact h.departs hn hsteady hm hid

end Steps

/-- The books of a message are kept in every run. -/
theorem run_standing (config : BusConfig) (hosted : Bool) (acts : List (Act H)) {i : String}
    {S : List (Subscription (Listener H))} {f : String → Nat} {n : Nat}
    (hsteady : Steady i S f ((start config hosted).trace acts))
    (hlimit : ∀ m ∈ arrived ((start config hosted).trace acts), m.id = i → m.maxRetries.toNat = n)
    (hn : n < 2 ^ 32 - 1) :
    Standing i (S.map (·.id)) f n ((start config hosted).trace acts) ((start config hosted).run acts) := by
  induction acts using List.reverseRecOn with
  | nil =>
    exact
      { ahead := fun _ => rfl
        queued := fun p hp => by cases hp
        underway := fun pass hp => by cases hp
        gone := fun fate hfate => by cases hfate }
  | append_singleton acts a ih =>
    have hbooks := run_books config hosted acts
    have hbooks' := run_books config hosted (acts ++ [a])
    rw [run_concat, trace_concat] at hbooks' ⊢
    rw [trace_concat] at hsteady hlimit
    have hstanding := ih hsteady.before fun m hm =>
      hlimit m (by rw [arrived_concat]; exact List.mem_append_left _ hm)
    exact hstanding.step hbooks hbooks' (run_named config hosted acts) hsteady hlimit hn

end Switchboard.Bus.Session
