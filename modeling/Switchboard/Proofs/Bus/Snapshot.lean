import Switchboard.Proofs.Bus.Catalogue
import Switchboard.Proofs.Bus.Effort
import Switchboard.Proofs.Bus.Successes

/-
  The snapshot of a delivery — who is called on a message is settled when the
  message is taken from the queue, whatever happens while handlers run.

  * `passLog` is the part of a run in which a delivery is under way, `callees`,
    `errands`, `reports` and `putBack` are what was done in it;
  * `Amid`: how far a pass has come, of those that were found at its beginning;
    `Amid.run`: whoever is due is called before it is over;
  * `uncalled_of_departed`: nobody is called on what has left;
  * `delivery_pass`: what becomes of a message that is taken from the queue.
-/

namespace Switchboard.Bus.Session

variable {H : Type}

/-! ## A whole pass -/

/-- The subscriptions that are called in a run. -/
def callees (log : List (Session H × Act H)) : List (Subscription (Listener H)) :=
  log.filterMap fun x => x.1.called? x.2

/-- The handlers that the host is asked to run. -/
def errands (log : List (Session H × Act H)) : List (Invocation H) :=
  log.filterMap fun x => x.1.handled? x.2

/-- The invocations that have come out, with a failure or not. -/
def reports (log : List (Session H × Act H)) : List (String × String) :=
  log.filterMap fun x => (x.1.outcome? x.2).map (·.1)

/-- The parcels that the drainer has put back into the queue. -/
def putBack (log : List (Session H × Act H)) : List Parcel :=
  log.flatMap fun x => x.1.posted x.2

/-- The part of a run that is done while the delivery at its beginning is under
    way. -/
def passLog (s : Session H) (acts : List (Act H)) : List (Session H × Act H) :=
  (s.trace acts).takeWhile fun x => x.1.bus.pass?.isSome

/-- Who is due when these are found: they have not accepted the message before. -/
def due (p : Parcel) (found : List (Subscription (Listener H))) : List (Subscription (Listener H)) :=
  found.filter (·.id ∉ p.accepted)

/-- What becomes of a parcel, as far as a run has come, when these are found on its
    topic and `n` deliveries were counted before. -/
structure Delivery (p : Parcel) (found : List (Subscription (Listener H))) (n : Nat)
    (log : List (Session H × Act H)) (s : Session H) : Prop where
  called : callees log <+: due p found
  handled : errands log = (callees log).filterMap (·.handler.call? p.message)
  told : reports log <+: (callees log).map (·.key p.message)
  /-- nobody is called before the one before has come out -/
  single : (callees log).length ≤ (reports log).length + 1
  delivered : s.bus.counters.delivered = n + (succeeded log).length
  accepted : ∀ pass, s.bus.pass? = some pass →
    pass.parcel = { p with accepted := p.accepted ++ (succeeded log).map (·.2) }
  returned : ∀ p' ∈ putBack log, p' =
    { message := { p.message with attempts := p.message.attempts + 1 }
      accepted := p.accepted ++ (succeeded log).map (·.2) }
  complete : s.bus.pass? = none →
    callees log = due p found ∧ reports log = (due p found).map (·.key p.message)
  /-- the pass does not go on for ever -/
  effort : effort log p.message.id ≤ 2 * found.length + 1

/-- How far a pass has come: these were found at its beginning, and those before
    the `rest` had their turn. -/
structure Amid (found : List (Subscription (Listener H))) (p : Parcel)
    (log : List (Session H × Act H)) (pass : Pass H) : Prop where
  called : ∃ done, found = done ++ pass.rest ∧ callees log = due p done
  handled : errands log = (callees log).filterMap (·.handler.call? p.message)
  told : (callees log).map (·.key p.message) =
    reports log ++ pass.running.toList.map (·.key p.message)
  parcel : pass.parcel = { p with accepted := p.accepted ++ (succeeded log).map (·.2) }
  returned : putBack log = []
  effort : effort log p.message.id + pass.work ≤ 2 * found.length + 1

section Passes

variable {found : List (Subscription (Listener H))} {p : Parcel} {n : Nat}
  {log : List (Session H × Act H)} {s : Session H} {a : Act H} {pass pass' : Pass H}

theorem callees_concat (log : List (Session H × Act H)) (s : Session H) (a : Act H) :
    callees (log ++ [(s, a)]) = callees log ++ (s.called? a).toList := List.filterMap_concat ..

theorem errands_concat (log : List (Session H × Act H)) (s : Session H) (a : Act H) :
    errands (log ++ [(s, a)]) = errands log ++ (s.handled? a).toList := List.filterMap_concat ..

theorem reports_concat (log : List (Session H × Act H)) (s : Session H) (a : Act H) :
    reports (log ++ [(s, a)]) = reports log ++ ((s.outcome? a).map (·.1)).toList :=
  List.filterMap_concat ..

theorem putBack_concat (log : List (Session H × Act H)) (s : Session H) (a : Act H) :
    putBack (log ++ [(s, a)]) = putBack log ++ s.posted a := by simp [putBack]

/-- Whatever is spent on a pass brings it nearer to its end. -/
theorem effort_step (log : List (Session H × Act H)) (hp : s.bus.pass? = some pass)
    (hp' : (s.step a).bus.pass? = some pass') (i : String) :
    effort (log ++ [(s, a)]) i + pass'.work ≤ effort log i + pass.work := by
  rcases (course [] hp a).goes_on hp' with ⟨rfl, -, hspent⟩ | hg
  · rw [effort_of_not_spent (by simp [hspent])]
  · have hmore := effort_le log s a i
    have hless := hg.work
    omega

theorem report_of_succeeded {key : String × String} (h : key ∈ succeeded log) : key ∈ reports log := by
  obtain ⟨x, hx, hsuccess⟩ := List.mem_filterMap.1 h
  refine List.mem_filterMap.2 ⟨x, hx, ?_⟩
  rw [outcome_of_success hsuccess]
  rfl

/-- Whoever has accepted the message in this pass is not still to be reached. -/
theorem Amid.fresh (h : Amid found p log pass) (hids : (found.map (·.id)).Nodup)
    {sub : Subscription (Listener H)} (hsub : sub ∈ pass.rest) :
    sub.id ∈ pass.parcel.accepted ↔ sub.id ∈ p.accepted := by
  obtain ⟨done, hfound, hcallees⟩ := h.called
  rw [h.parcel]
  simp only [List.mem_append, or_iff_left_iff_imp]
  intro hid
  obtain ⟨key, hkey, heq⟩ := List.mem_map.1 hid
  have hmem : key ∈ (callees log).map (·.key p.message) := by
    rw [h.told]
    exact List.mem_append_left _ (report_of_succeeded hkey)
  obtain ⟨sub', hsub', rfl⟩ := List.mem_map.1 hmem
  rw [hcallees] at hsub'
  rw [hfound, List.map_append] at hids
  exact (List.disjoint_of_nodup_append hids
    (List.mem_map_of_mem (List.mem_filter.1 hsub').1) (List.mem_map.2 ⟨sub, hsub, heq.symm⟩)).elim

/-- **A pass keeps its books** as it goes on. -/
theorem Amid.step (h : Amid found p log pass) (hids : (found.map (·.id)).Nodup)
    (hp : s.bus.pass? = some pass) (hproceeds : Proceeds pass (s.called? a) (s.outcome? a) pass')
    (hp' : (s.step a).bus.pass? = some pass') (hposted : s.posted a = []) :
    Amid found p (log ++ [(s, a)]) pass' := by
  have hmessage : pass.parcel.message = p.message := by rw [h.parcel]
  have hparcel : pass'.parcel =
      { p with accepted := p.accepted ++ (succeeded (log ++ [(s, a)])).map (·.2) } := by
    rw [hproceeds.parcel, h.parcel, succeeded_concat, List.map_append, List.append_assoc]
  have hhandled : errands (log ++ [(s, a)]) =
      (callees (log ++ [(s, a)])).filterMap (·.handler.call? p.message) := by
    rw [errands_concat, callees_concat, List.filterMap_append, h.handled, handled?_eq hp, hmessage]
    rcases s.called? a with _ | sub
    · rfl
    · rcases hcall : sub.handler.call? p.message with _ | call <;> simp [hcall]
  have hreturned : putBack (log ++ [(s, a)]) = [] := by
    rw [putBack_concat, h.returned, hposted, List.append_nil]
  have hcalled : ∃ done, found = done ++ pass'.rest ∧
      callees (log ++ [(s, a)]) = due p done := by
    obtain ⟨done, hfound, hcallees⟩ := h.called
    obtain ⟨turns, hrest, hturns⟩ := hproceeds.called
    refine ⟨done ++ turns, by rw [hfound, hrest, List.append_assoc], ?_⟩
    rw [callees_concat, hcallees, hturns, due, due, List.filter_append]
    refine congrArg _ (List.filter_congr fun sub hsub => ?_)
    simp only [h.fresh hids (by rw [hrest]; exact List.mem_append_left _ hsub)]
  have htold : (callees (log ++ [(s, a)])).map (·.key p.message) =
      reports (log ++ [(s, a)]) ++ pass'.running.toList.map (·.key p.message) := by
    have hnext := hproceeds.told
    rw [hmessage, List.map_append] at hnext
    rw [callees_concat, reports_concat, List.map_append, h.told, List.append_assoc, hnext,
      List.append_assoc]
  have heffort := (effort_step log hp hp' p.message.id).trans h.effort
  exact ⟨hcalled, hhandled, htold, hparcel, hreturned, heffort⟩

/-- Where nobody is due, nothing is done. -/
theorem Delivery.none (hended : s.bus.pass? = none) (hcount : s.bus.counters.delivered = n) :
    Delivery p [] n [] s where
  called := List.prefix_rfl
  handled := rfl
  told := List.prefix_rfl
  single := Nat.zero_le _
  delivered := hcount
  accepted pass hp := by
    rw [hended] at hp
    cases hp
  returned p' hp' := by cases hp'
  complete _ := ⟨rfl, rfl⟩
  effort := Nat.zero_le _

theorem Amid.begin (p : Parcel) (found : List (Subscription (Listener H))) :
    Amid found p [] ⟨p, found, none, none⟩ where
  called := ⟨[], rfl, rfl⟩
  handled := rfl
  told := rfl
  parcel := by simp [succeeded]
  returned := rfl
  effort := (Nat.zero_add _).le

/-- A pass amid its way is on the way it should go. -/
theorem Amid.delivery (h : Amid found p log pass) (hp : s.bus.pass? = some pass)
    (hcount : s.bus.counters.delivered = n + (succeeded log).length) :
    Delivery p found n log s where
  called := by
    obtain ⟨done, hfound, hcallees⟩ := h.called
    rw [hcallees, hfound, due, due, List.filter_append]
    exact List.prefix_append _ _
  handled := h.handled
  told := by
    rw [h.told]
    exact List.prefix_append _ _
  single := by
    have hlength := congrArg List.length h.told
    rw [List.length_append, List.length_map, List.length_map] at hlength
    have hone : pass.running.toList.length ≤ 1 := by cases pass.running <;> simp
    omega
  delivered := hcount
  accepted pass' hp' := by
    obtain rfl := Option.some.inj (hp.symm.trans hp')
    exact h.parcel
  returned p' hp' := by
    rw [h.returned] at hp'
    cases hp'
  complete hended := by
    rw [hp] at hended
    cases hended
  effort := (Nat.le_add_right _ _).trans h.effort

/-- A pass that is over has been where it should go. -/
theorem Amid.ends (h : Amid found p log pass) (hp : s.bus.pass? = some pass)
    (hcloses : Closes s a pass) (hcount : s.bus.counters.delivered = n + (succeeded log).length) :
    Delivery p found n (log ++ [(s, a)]) (s.step a) := by
  have hact := hcloses.act
  obtain ⟨hinvocation, houtcome⟩ :=
    silent_of_ended (pass?_eq_some.1 hp) hcloses.running hcloses.rest
  rw [← hact] at hinvocation houtcome
  have hnone : s.called? a = none := by simpa [invocation?_eq hp] using hinvocation
  have hsuccess : s.success? a = none := by rw [success?, houtcome]; rfl
  have hcallees : callees (log ++ [(s, a)]) = callees log := by
    rw [callees_concat, hnone]
    exact List.append_nil _
  have hreports : reports (log ++ [(s, a)]) = reports log := by
    rw [reports_concat, houtcome]
    exact List.append_nil _
  have hsucceeded : succeeded (log ++ [(s, a)]) = succeeded log := by
    rw [succeeded_concat, hsuccess]
    exact List.append_nil _
  have herrands : errands (log ++ [(s, a)]) = errands log := by
    rw [errands_concat, handled?_eq hp, hnone]
    exact List.append_nil _
  obtain ⟨done, hfound, hdone⟩ := h.called
  rw [hcloses.rest, List.append_nil] at hfound
  have hall : callees log = due p found := hfound ▸ hdone
  have htold : reports log = (callees log).map (·.key p.message) := by
    have htold := h.told
    rw [hcloses.running] at htold
    simpa using htold.symm
  exact
    { called := by rw [hcallees, hall]
      handled := by rw [herrands, hcallees, h.handled]
      told := by rw [hreports, hcallees, htold]
      single := by
        rw [hreports, hcallees, htold, List.length_map]
        exact Nat.le_succ _
      delivered := by rw [hcloses.delivered, hcount, hsucceeded]
      accepted := fun pass' hp' => by
        rw [hcloses.ended] at hp'
        cases hp'
      returned := fun p' hp' => by
        rw [putBack_concat, h.returned] at hp'
        rw [hsucceeded, posted_of_closes hp hcloses hp', h.parcel, Pass.again, h.parcel]
      complete := fun _ => by
        rw [hcallees, hreports, htold, hall]
        exact ⟨rfl, rfl⟩
      effort := by
        have hmore := effort_le log s a p.message.id
        have hwork := h.effort
        unfold Pass.work at hwork
        omega }

/-- **A whole pass**: whoever is due is called, in whatever way the run goes on. -/
theorem Amid.run (h : Amid found p log pass) (hids : (found.map (·.id)).Nodup)
    (hp : s.bus.pass? = some pass) (hcount : s.bus.counters.delivered = n + (succeeded log).length)
    (acts : List (Act H)) :
    Delivery p found n (log ++ s.passLog acts)
      (s.run (acts.take (s.passLog acts).length)) := by
  induction acts generalizing s log pass with
  | nil =>
    have hnil : s.passLog [] = [] := rfl
    rw [hnil, List.append_nil]
    exact h.delivery hp hcount
  | cons a acts ih =>
    have hcons : s.passLog (a :: acts) = (s, a) :: (s.step a).passLog acts := by
      simp [passLog, trace, hp]
    rw [hcons, List.length_cons, List.take_succ_cons, run_cons, List.append_cons]
    rcases step_proceeds hp a with ⟨pass', hpass', hproceeds, hposted⟩ | hcloses
    · refine ih (h.step hids hp hproceeds hpass' hposted) hpass' ?_
      rw [step_delivered, hcount, succeeded_concat, List.length_append, Nat.add_assoc]
    · have hnil : (s.step a).passLog acts = [] := by
        cases acts <;> simp [passLog, trace, hcloses.ended]
      rw [hnil, List.append_nil]
      exact h.ends hp hcloses hcount

end Passes

/-! ## A message that is taken from the queue -/

/-- Taking a message from the queue counts nothing as delivered. -/
theorem taken_delivered {s : Session H} (hd : s.bus.drainer = .ready) :
    (s.step .turn).bus.counters.delivered = s.bus.counters.delivered := by
  have hnone : s.bus.pass? = none := by simp [pass?, hd]
  rw [step_delivered, success_of_not_delivered hnone]
  rfl

/-- Nobody is called on a message that has departed, whatever happens later. -/
theorem uncalled_of_departed (config : BusConfig) (hosted : Bool) {acts : List (Act H)} {i : String}
    {fate : Fate} (hfate : fate ∈ fates ((start config hosted).trace acts) i)
    (later : List (Act H)) :
    ∀ x ∈ ((start config hosted).run acts).trace later,
      (∀ id, x.1.invocation? x.2 ≠ some (i, id)) ∧
        ∀ call, x.1.handled? x.2 = some call → call.message.id ≠ i := by
  rintro ⟨s, a⟩ hx
  obtain ⟨sofar, rest, rfl, rfl⟩ := mem_trace hx
  have hbooks := run_books config hosted (acts ++ sofar)
  rw [trace_append, run_append] at hbooks
  have hgone := hbooks.not_flight (fates_subset _ _ _ hfate)
  refine ⟨fun id hcall => ?_, fun call hcall => ?_⟩
  · obtain ⟨pass, hp, hid⟩ := delivered_of_invocation hcall
    exact hgone pass.parcel.stamp (mem_flight_of_pass hp) hid
  · rcases hp : (((start config hosted).run acts).run sofar).bus.pass? with _ | pass
    · rw [handled?_of_not_delivered hp] at hcall
      cases hcall
    · have hmessage : call.message = pass.parcel.message := by
        rw [handled?_eq hp] at hcall
        obtain ⟨sub, -, hsub⟩ := Option.bind_eq_some_iff.1 hcall
        exact Listener.message_of_call hsub
      rw [hmessage]
      exact hgone pass.parcel.stamp (mem_flight_of_pass hp)

/-- **The delivery of a message.**  Whenever the drainer takes a message from the
    queue, the subscriptions that are live at this moment decide who is called on
    it: if it has expired nobody, now or later, and else those whose pattern
    accepts its topic, in match order, without those that have accepted it before.
    Each of them is called once and after the one before has come out, whatever
    else happens in the meantime and however they end, and none is left out when
    the pass is over.  Those that succeed are counted, as those before them were, and
    added to the parcel. -/
theorem delivery_pass (config : BusConfig) (hosted : Bool) (before : List (Act H)) {p : Parcel}
    {queue : Queue} (hd : ((start config hosted).run before).bus.drainer = .ready)
    (hpop : ((start config hosted).run before).bus.queue.pop? = some (p, queue)) :
    let s := (start config hosted).run before
    let next := s.step .turn
    ∃ live : List (Subscription (Listener H)),
      s.bus.index.entries.Perm live ∧
      s.bus.patterns = live.map (fun sub => (sub.id, sub.pattern.text)) ∧
      (live.map (·.id)).Nodup ∧
      p.accepted = accepters ((start config hosted).trace before) p.message.id ∧
      s.bus.counters.delivered = (succeeded ((start config hosted).trace before)).length ∧
      (p.message.isExpiredAt s.now = true → next.bus.pass? = none ∧
        ∀ later, ∀ x ∈ next.trace later,
          (∀ id, x.1.invocation? x.2 ≠ some (p.message.id, id)) ∧
            ∀ call, x.1.handled? x.2 = some call → call.message.id ≠ p.message.id) ∧
      (p.message.isExpiredAt s.now = false → ∀ later,
        let found := (live.filter (·.pattern.accepts p.message.topic)).mergeSort
          fun sub sub' => sub.pattern.rank ≤ sub'.pattern.rank
        let log := next.passLog later
        Delivery p found s.bus.counters.delivered log (next.run (later.take log.length))) := by
  intro s next
  obtain ⟨-, live, hshelved, -⟩ := run_stems (start_shelved config hosted).stems before
  have hmatching := hshelved.index.matching_eq p.message.topic
  have hids := (run_named config hosted before).matching p.message.topic
  refine ⟨live, hshelved.index.entries_perm, hshelved.patterns, hshelved.ids, ?_, ?_, ?_, ?_⟩
  · have hqueued : p ∈ s.bus.queue.toList := Queue.toList_pop hpop ▸ List.mem_cons_self
    exact (run_receipted config hosted before).queued p hqueued
  · exact (run_delivered (start config hosted) before).trans (Nat.zero_add _)
  · intro hexpired
    rcases taken hd hpop with ⟨-, hended, hleft⟩ | ⟨hfresh, -⟩
    · have hfate : .expired ∈ fates ((start config hosted).trace (before ++ [.turn])) p.message.id := by
        rw [trace_concat]
        exact mem_fates.2 ⟨p.stamp,
          by rw [departed_concat]; exact List.mem_append_right _ hleft, rfl⟩
      have hlater := uncalled_of_departed config hosted hfate
      rw [run_concat] at hlater
      exact ⟨hended, hlater⟩
    · rw [hexpired] at hfresh
      cases hfresh
  · intro hfresh later found log
    have hfound : found = s.bus.index.matching p.message.topic := hmatching.symm
    have hcount : next.bus.counters.delivered = s.bus.counters.delivered := taken_delivered hd
    rcases taken hd hpop with ⟨hexpired, -⟩ | ⟨-, ⟨hnil, hended, -⟩ | hbegun⟩
    · rw [hexpired] at hfresh
      cases hfresh
    · have hlog : log = [] := by
        cases later <;> simp [log, passLog, trace, next, s, hended]
      rw [hlog, hfound, hnil]
      exact Delivery.none hended hcount
    · exact (Amid.begin p found).run (hfound ▸ hids) (hfound ▸ hbegun) hcount later

/-- The second pass over a message: who has accepted it in the first one is left
    out, and who unsubscribed before their turn is called nevertheless, although the
    bus was shut down and the one before has failed. -/
theorem delivery_pass_unsubscribed :
    let before : List (Act Unit) :=
      [.subscribe "a.b" () {}, .subscribe "a.b" () {}, .publish "a.b" .null {}, .turn, .turn,
        .finish (.returned .null), .turn, .finish (.failed (.plain "one")), .turn,
        .subscribePattern "a.*" () {}]
    let later : List (Act Unit) :=
      [.turn, .turn, .unsubscribe (Mint.grouped 1 3), .shutdown, .finish (.failed (.plain "two")),
        .turn, .finish (.returned .null), .turn]
    let s := (start {} true).run before
    let log := (s.step .turn).passLog later
    ∃ p queue found, s.bus.drainer = .ready ∧ s.bus.queue.pop? = some (p, queue) ∧
      p.accepted = [Mint.grouped 1 0] ∧ p.message.isExpiredAt s.now = false ∧
      Delivery p found 1 log ((s.step .turn).run later) ∧
      (due p found).map (·.id) = [Mint.grouped 1 1, Mint.grouped 1 3] ∧
      ((s.step .turn).run later).bus.pass?.isNone = true := by
  intro before later s log
  obtain ⟨p, queue, hd, hpop, haccepted, hfresh⟩ : ∃ p queue, s.bus.drainer = .ready ∧
      s.bus.queue.pop? = some (p, queue) ∧ p.accepted = [Mint.grouped 1 0] ∧
      p.message.isExpiredAt s.now = false :=
    ⟨_, _, rfl, rfl, rfl, rfl⟩
  have hcount : s.bus.counters.delivered = 1 := by decide +kernel +zetaReduce
  have hlength : log.length = 8 := by decide +kernel +zetaReduce
  have hended : ((s.step .turn).run later).bus.pass?.isNone = true := by
    decide +kernel +zetaReduce
  have hcallees : (callees log).map (·.id) = [Mint.grouped 1 1, Mint.grouped 1 3] := by
    decide +kernel +zetaReduce
  obtain ⟨live, -, -, -, -, -, -, hdelivery⟩ := delivery_pass {} true before hd hpop
  have hpass : Delivery p _ s.bus.counters.delivered log
      ((s.step .turn).run (later.take log.length)) := hdelivery hfresh later
  have htake : later.take 8 = later := rfl
  rw [hcount, hlength, htake] at hpass
  have hdue := (hpass.complete (Option.isNone_iff_eq_none.1 hended)).1
  exact ⟨p, queue, _, hd, hpop, haccepted, hfresh, hpass, hdue ▸ hcallees, hended⟩

end Switchboard.Bus.Session
