import Switchboard.Proofs.Bus.Parcels

/-
  Rounds — a message is delivered once, or again and again until its retries are
  used up.

  * `invocation?` and `outcome?` are what an act does with the message that is
    being delivered, `spentOn?` is the message that it is spent on; `Tally` counts
    what is done with one message;
  * `Course` lists what an act can do to the delivery under way and to the tally
    of its message, `course` says that the list is complete;
  * `Turned`: somebody has had their turn in so many passes; `Round`: how far a
    pass has come.  `Goes.round` says that a pass keeps its books.
-/

namespace Switchboard.Bus.Session

variable {H : Type}

/-! ## What is done with a message -/

/-- The message and the subscription that is invoked on it. -/
def invocation? (s : Session H) : Act H → Option (String × String)
  | .turn =>
    match s.bus.drainer with
    | .delivering pass =>
      match pass.running, pass.rest with
      | none, sub :: _ =>
        if sub.id ∈ pass.parcel.accepted then none else some (pass.parcel.message.id, sub.id)
      | _, _ => none
    | _ => none
  | _ => none

/-- How an invocation came out: with a failure, or not.  Whoever is invoked and
    does not run a handler has accepted the message at once. -/
def outcome? (s : Session H) : Act H → Option ((String × String) × Option HandlerFault)
  | .turn =>
    match (s.step .turn).bus.running? with
    | some _ => none
    | none => (s.invocation? .turn).map fun key => (key, none)
  | .finish ending =>
    match s.bus.drainer with
    | .delivering pass =>
      pass.running.map fun sub => ((pass.parcel.message.id, sub.id), faultOf sub ending)
    | _ => none
  | _ => none

/-- The message that an act of the drainer, or of the handler that is running, is
    spent on. -/
def spentOn? (s : Session H) : Act H → Option String
  | .turn =>
    match s.bus.drainer with
    | .idle => none
    | .ready => s.bus.queue.pop?.map (·.1.message.id)
    | .delivering pass =>
      match pass.running with
      | none => some pass.parcel.message.id
      | some _ => none
  | .finish _ =>
    match s.bus.drainer with
    | .delivering pass => pass.running.map fun _ => pass.parcel.message.id
    | _ => none
  | _ => none

/-- What has been done with one message: how often each subscription was
    invoked, how this came out, and how often the message was sent back. -/
@[ext]
structure Tally where
  invoked : String → Nat
  outcomes : String → List (Option HandlerFault)
  sentBack : Nat

namespace Tally

/-- Nothing has been done. -/
def blank : Tally := ⟨fun _ => 0, fun _ => [], 0⟩

/-- A subscription is invoked. -/
def invoke (t : Tally) (id : String) : Tally :=
  { t with invoked := fun id' => t.invoked id' + if id = id' then 1 else 0 }

/-- The invocation of a subscription comes out. -/
def tell (t : Tally) (id : String) (r : Option HandlerFault) : Tally :=
  { t with outcomes := fun id' => t.outcomes id' ++ if id = id' then [r] else [] }

/-- The message is sent back. -/
def back (t : Tally) : Tally := { t with sentBack := t.sentBack + 1 }

end Tally

/-- The messages that were sent back to their lines. -/
def sentBack (log : List (Session H × Act H)) : List String :=
  log.filterMap fun x => x.1.sentBack? x.2

/-- What has been done with the message with an id. -/
def tally (log : List (Session H × Act H)) (i : String) : Tally where
  invoked id := (log.filterMap fun x => x.1.invocation? x.2).count (i, id)
  outcomes id := (log.filterMap fun x => x.1.outcome? x.2).filterMap fun o =>
    if o.1 = (i, id) then some o.2 else none
  sentBack := (sentBack log).count i

theorem tally_append (log log' : List (Session H × Act H)) (i : String) :
    tally (log ++ log') i =
      { invoked := fun id => (tally log i).invoked id + (tally log' i).invoked id
        outcomes := fun id => (tally log i).outcomes id ++ (tally log' i).outcomes id
        sentBack := (tally log i).sentBack + (tally log' i).sentBack } := by
  simp only [tally, sentBack, List.filterMap_append, List.count_append]

theorem tally_concat (log : List (Session H × Act H)) (s : Session H) (a : Act H) (i : String) :
    tally (log ++ [(s, a)]) i =
      { invoked := fun id =>
          (tally log i).invoked id + if s.invocation? a = some (i, id) then 1 else 0
        outcomes := fun id => (tally log i).outcomes id ++
          ((s.outcome? a).bind fun o => if o.1 = (i, id) then some o.2 else none).toList
        sentBack := (tally log i).sentBack + if s.sentBack? a = some i then 1 else 0 } := by
  rw [tally_append]
  ext1
  · funext id
    exact congrArg _ (List.count_filterMap_singleton _ (s, a) (i, id))
  · funext id
    rcases h : s.outcome? a with _ | o
    · simp [tally, h]
    · by_cases ho : o.1 = (i, id) <;> simp [tally, h, ho]
  · exact congrArg ((tally log i).sentBack + ·) (List.count_filterMap_singleton _ (s, a) i)

section Tallies

variable {log : List (Session H × Act H)} {s : Session H} {a : Act H} {i id : String}

/-- An act that has nothing to do with a message leaves its tally alone. -/
theorem tally_silent (hinvocation : ∀ id, s.invocation? a ≠ some (i, id))
    (houtcome : ∀ id r, s.outcome? a ≠ some ((i, id), r)) (hback : s.sentBack? a ≠ some i) :
    tally (log ++ [(s, a)]) i = tally log i := by
  rw [tally_concat]
  ext1
  · simp [hinvocation]
  · funext id
    rcases h : s.outcome? a with _ | o
    · simp
    · have hne : o.1 ≠ (i, id) := fun heq => houtcome id o.2 (by rw [h, ← heq])
      simp [hne]
  · simp [hback]

theorem tally_invoke (hinvocation : s.invocation? a = some (i, id)) (houtcome : s.outcome? a = none)
    (hback : s.sentBack? a = none) : tally (log ++ [(s, a)]) i = (tally log i).invoke id := by
  rw [tally_concat, hinvocation, houtcome, hback]
  ext1 <;> simp [Tally.invoke]

theorem tally_pass (hinvocation : s.invocation? a = some (i, id))
    (houtcome : s.outcome? a = some ((i, id), none)) (hback : s.sentBack? a = none) :
    tally (log ++ [(s, a)]) i = ((tally log i).invoke id).tell id none := by
  rw [tally_concat, hinvocation, houtcome, hback]
  ext1
  · simp [Tally.invoke, Tally.tell]
  · funext id'
    by_cases hid : id = id' <;> simp [Tally.invoke, Tally.tell, hid]
  · simp [Tally.invoke, Tally.tell]

theorem tally_tell {r : Option HandlerFault} (hinvocation : s.invocation? a = none)
    (houtcome : s.outcome? a = some ((i, id), r)) (hback : s.sentBack? a = none) :
    tally (log ++ [(s, a)]) i = (tally log i).tell id r := by
  rw [tally_concat, hinvocation, houtcome, hback]
  ext1
  · simp [Tally.tell]
  · funext id'
    by_cases hid : id = id' <;> simp [Tally.tell, hid]
  · simp [Tally.tell]

theorem tally_back (hinvocation : s.invocation? a = none) (houtcome : s.outcome? a = none)
    (hback : s.sentBack? a = some i) : tally (log ++ [(s, a)]) i = (tally log i).back := by
  rw [tally_concat, hinvocation, houtcome, hback]
  ext1 <;> simp [Tally.back]

end Tallies

/-! ## What an act does to the delivery under way -/

/-- How the delivery of a message goes on, with the tally of the message. -/
inductive Goes (t : Tally) (pass : Pass H) : Tally → Pass H → Prop
  /-- the next subscription has accepted the message in an earlier pass -/
  | skipped (sub rest) : pass.running = none → pass.rest = sub :: rest →
      sub.id ∈ pass.parcel.accepted → Goes t pass t { pass with rest }
  /-- it accepts the message at once -/
  | passed (sub rest) : pass.running = none → pass.rest = sub :: rest →
      sub.id ∉ pass.parcel.accepted →
      Goes t pass ((t.invoke sub.id).tell sub.id none)
        { pass with
          rest, running := none
          parcel := { pass.parcel with accepted := pass.parcel.accepted ++ [sub.id] } }
  | invoked (sub rest) : pass.running = none → pass.rest = sub :: rest →
      sub.id ∉ pass.parcel.accepted →
      Goes t pass (t.invoke sub.id) { pass with rest, running := some sub }
  /-- the handler that is running succeeds -/
  | accepted (sub) : pass.running = some sub →
      Goes t pass (t.tell sub.id none)
        { pass with
          running := none
          parcel := { pass.parcel with accepted := pass.parcel.accepted ++ [sub.id] } }
  | rejected (sub e) : pass.running = some sub →
      Goes t pass (t.tell sub.id (some e))
        { pass with running := none, failure := pass.failure.or (some e) }

/-- What an act can do to the delivery under way. -/
inductive Course (s : Session H) (a : Act H) (pass : Pass H) (t : Tally) : Tally → Prop
  | kept : (s.step a).bus.pass? = some pass → s.spentOn? a = none → Course s a pass t t
  | goes (t' pass') : (s.step a).bus.pass? = some pass' → Goes t pass t' pass' →
      Course s a pass t t'
  | processed : pass.failure = none → (s.step a).bus.pass? = none → Course s a pass t t
  | sentBack : SendsBack s a pass → (s.step a).bus.pass? = none → Course s a pass t t.back
  | failed (e) : pass.failure = some e → pass.again.canRetry = false →
      (s.step a).bus.pass? = none → Course s a pass t t

/-- A delivery that is under way afterwards is the same, or goes on. -/
theorem Course.goes_on {s : Session H} {a : Act H} {pass pass' : Pass H} {t t' : Tally}
    (h : Course s a pass t t') (hpass : (s.step a).bus.pass? = some pass') :
    pass' = pass ∧ t' = t ∧ s.spentOn? a = none ∨ Goes t pass t' pass' := by
  cases h with
  | kept hkept hspent => exact Or.inl ⟨Option.some.inj (hpass.symm.trans hkept), rfl, hspent⟩
  | goes t' pass'' hgoes hg =>
    obtain rfl := Option.some.inj (hpass.symm.trans hgoes)
    exact Or.inr hg
  | processed _ hnone => rw [hnone] at hpass; cases hpass
  | sentBack _ hnone => rw [hnone] at hpass; cases hpass
  | failed _ _ _ hnone => rw [hnone] at hpass; cases hpass

/-- Where a pass ends, nobody is invoked. -/
theorem silent_of_ended {s : Session H} {pass : Pass H} (hd : s.bus.drainer = .delivering pass)
    (hrun : pass.running = none) (hrest : pass.rest = []) :
    s.invocation? .turn = none ∧ s.outcome? .turn = none := by
  have hinvocation : s.invocation? .turn = none := by simp [invocation?, hd, hrun, hrest]
  refine ⟨hinvocation, ?_⟩
  simp only [outcome?, hinvocation]
  split <;> rfl

/-- Where a pass ends for good, the tallies stay. -/
theorem tally_of_ended (log : List (Session H × Act H)) {s : Session H} {pass : Pass H} (i : String)
    (hd : s.bus.drainer = .delivering pass) (hrun : pass.running = none) (hrest : pass.rest = [])
    (hback : s.sentBack? .turn = none) : tally (log ++ [(s, .turn)]) i = tally log i := by
  obtain ⟨hinvocation, houtcome⟩ := silent_of_ended hd hrun hrest
  exact tally_silent (by simp [hinvocation]) (by simp [houtcome]) (by simp [hback])

theorem SendsBack.tally {s : Session H} {a : Act H} {pass : Pass H} (h : SendsBack s a pass)
    (log : List (Session H × Act H)) :
    tally (log ++ [(s, a)]) pass.parcel.message.id = (tally log pass.parcel.message.id).back := by
  have hback := h.sentBack?
  obtain rfl := h.act
  obtain ⟨hinvocation, houtcome⟩ := silent_of_ended h.drainer h.running h.rest
  exact tally_back hinvocation houtcome hback

/-- The message stays the same, and is not sent back. -/
theorem Goes.frame {t t' : Tally} {pass pass' : Pass H} (h : Goes t pass t' pass') :
    pass'.parcel.message = pass.parcel.message ∧ t'.sentBack = t.sentBack := by
  cases h <;> exact ⟨rfl, rfl⟩

/-- A step of the drainer amid a delivery. -/
theorem course_turn (log : List (Session H × Act H)) {s : Session H} {pass : Pass H}
    (hd : s.bus.drainer = .delivering pass) :
    Course s .turn pass (tally log pass.parcel.message.id)
      (tally (log ++ [(s, .turn)]) pass.parcel.message.id) := by
  have hturn := s.bus.turn_turns s.now
  rw [← step_turn_bus] at hturn
  generalize s.bus.turnTraffic s.now = t at hturn
  generalize s.bus.handedOver = os at hturn
  have houtcome : s.outcome? .turn = match (s.step .turn).bus.running? with
      | some _ => none
      | none => (s.invocation? .turn).map fun key => (key, none) := rfl
  generalize hb : (s.step .turn).bus = b at hturn houtcome
  have hsame {p : Pass H} (h : s.bus.drainer = .delivering p) : p = pass :=
    Drainer.delivering.inj (h.symm.trans hd)
  -- no invocation, and no outcome either
  have hsilent (hinvocation : s.invocation? .turn = none) (hback : s.sentBack? .turn = none) :
      tally (log ++ [(s, .turn)]) pass.parcel.message.id = tally log pass.parcel.message.id := by
    have hnone : s.outcome? .turn = none := by
      rw [houtcome, hinvocation]
      split <;> rfl
    exact tally_silent (by simp [hinvocation]) (by simp [hnone]) (by simp [hback])
  cases hturn with
  | idle h => rw [h] at hd; cases hd
  | rested h => rw [h] at hd; cases hd
  | expired p queue h => rw [h] at hd; cases hd
  | unheard p queue counters h => rw [h] at hd; cases hd
  | begun p queue h => rw [h] at hd; cases hd
  | busy p sub h hrun =>
    obtain rfl := hsame h
    rw [hsilent (by simp [invocation?, hd, hrun]) (by simp [sentBack?, hd, hrun])]
    exact .kept (by rw [hb]; exact pass?_eq_some.2 hd) (by simp [spentOn?, hd, hrun])
  | processed p h hrun hrest hf =>
    obtain rfl := hsame h
    rw [tally_of_ended log _ hd hrun hrest (by simp [sentBack?, hd, hrun, hrest, hf])]
    exact .processed hf (by rw [hb]; rfl)
  | retried p h hrun hrest hf hretry =>
    obtain rfl := hsame h
    obtain ⟨p', hback⟩ : ∃ p', SendsBack s .turn p' := by
      refine (turn_posts s).resolve_left fun hposts => ?_
      obtain ⟨e, he⟩ := Option.ne_none_iff_exists'.1 hf
      simp [sentBack?, hd, hrun, hrest, he, hretry] at hposts
    obtain rfl := hsame hback.drainer
    have hready := (enqueue_joins
      ({ s.bus with drainer := .ready }.count fun c => { c with retried := c.retried + 1 })
      { p'.parcel with message := p'.again }).drainer
    rw [hback.tally]
    refine .sentBack hback ?_
    rw [hb, pass?, hready]
    rfl
  | failed p e h hrun hrest hf hretry =>
    obtain rfl := hsame h
    have hready := (settleMessage_atDesk
      ({ s.bus with drainer := .ready }.count fun c => { c with failed := c.failed + 1 })
      p.again (.handler e)).drainer
    rw [tally_of_ended log _ hd hrun hrest (by simp [sentBack?, hd, hrun, hrest, hf, hretry])]
    refine .failed e hf hretry ?_
    rw [hb, pass?, hready]
    rfl
  | skipped p sub rest h hrun hrest hid =>
    obtain rfl := hsame h
    rw [hsilent (by simp [invocation?, hd, hrun, hrest, hid]) (by simp [sentBack?, hd, hrun, hrest])]
    exact .goes _ _ (by rw [hb]; exact pass?_eq_some.2 rfl) (.skipped sub rest hrun hrest hid)
  | replied p sub rest c h hrun hrest _ _ hid =>
    obtain rfl := hsame h
    have hinvocation : s.invocation? .turn = some (p.parcel.message.id, sub.id) := by
      simp [invocation?, hd, hrun, hrest, hid]
    rw [tally_pass hinvocation (by rw [houtcome, hinvocation]; rfl)
      (by simp [sentBack?, hd, hrun, hrest])]
    exact .goes _ _ (by rw [hb]; exact pass?_eq_some.2 rfl) (.passed sub rest hrun hrest hid)
  | passed p sub rest h hrun hrest hid =>
    obtain rfl := hsame h
    have hinvocation : s.invocation? .turn = some (p.parcel.message.id, sub.id) := by
      simp [invocation?, hd, hrun, hrest, hid]
    rw [tally_pass hinvocation (by rw [houtcome, hinvocation]; rfl)
      (by simp [sentBack?, hd, hrun, hrest])]
    exact .goes _ _ (by rw [hb]; exact pass?_eq_some.2 rfl) (.passed sub rest hrun hrest hid)
  | invoked p sub rest h hrun hrest hid =>
    obtain rfl := hsame h
    have hinvocation : s.invocation? .turn = some (p.parcel.message.id, sub.id) := by
      simp [invocation?, hd, hrun, hrest, hid]
    rw [tally_invoke hinvocation (by rw [houtcome]; rfl) (by simp [sentBack?, hd, hrun, hrest])]
    exact .goes _ _ (by rw [hb]; exact pass?_eq_some.2 rfl) (.invoked sub rest hrun hrest hid)

/-- The end of a handler. -/
theorem course_finish (log : List (Session H × Act H)) {s : Session H} {pass : Pass H}
    (ending : Ending) (hd : s.bus.drainer = .delivering pass) :
    Course s (.finish ending) pass (tally log pass.parcel.message.id)
      (tally (log ++ [(s, .finish ending)]) pass.parcel.message.id) := by
  have hfinish := s.bus.finish_finishes s.now ending
  generalize s.bus.finishTraffic s.now ending = t at hfinish
  have hbus : (s.step (.finish ending)).bus = s.bus.finish s.now ending := rfl
  generalize s.bus.finish s.now ending = b at hfinish hbus
  have hsame {p : Pass H} (h : s.bus.drainer = .delivering p) : p = pass :=
    Drainer.delivering.inj (h.symm.trans hd)
  have houtcome {sub : Subscription (Listener H)} (hrun : pass.running = some sub) :
      s.outcome? (.finish ending) =
        some ((pass.parcel.message.id, sub.id), faultOf sub ending) := by
    simp [outcome?, hd, hrun]
  cases hfinish with
  | idle hidle =>
    have hrun : pass.running = none := by simpa [running?, hd] using hidle
    have hnone : s.outcome? (.finish ending) = none := by simp [outcome?, hd, hrun]
    rw [tally_silent (by simp [invocation?]) (by simp [hnone]) (by simp [sentBack?])]
    exact .kept (by rw [hbus]; exact pass?_eq_some.2 hd) (by simp [spentOn?, hd, hrun])
  | rejected p sub e h hrun hfault =>
    obtain rfl := hsame h
    rw [tally_tell rfl (houtcome hrun) rfl, hfault]
    exact .goes _ _ (by rw [hbus]; exact pass?_eq_some.2 rfl) (.rejected sub e hrun)
  | accepted p sub h hrun hfault =>
    obtain rfl := hsame h
    rw [tally_tell rfl (houtcome hrun) rfl, hfault]
    exact .goes _ _ (by rw [hbus]; exact pass?_eq_some.2 rfl) (.accepted sub hrun)
  | answered p sub answer h hrun hfault =>
    obtain rfl := hsame h
    rw [tally_tell rfl (houtcome hrun) rfl, hfault]
    exact .goes _ _ (by rw [hbus]; exact pass?_eq_some.2 rfl) (.accepted sub hrun)

/-- **One act** amid a delivery. -/
theorem course (log : List (Session H × Act H)) {s : Session H} {pass : Pass H}
    (hp : s.bus.pass? = some pass) (a : Act H) :
    Course s a pass (tally log pass.parcel.message.id)
      (tally (log ++ [(s, a)]) pass.parcel.message.id) := by
  have hd := pass?_eq_some.1 hp
  by_cases hturn : a = .turn
  · rw [hturn]
    exact course_turn log hd
  by_cases hfinish : ∃ ending, a = .finish ending
  · obtain ⟨ending, rfl⟩ := hfinish
    exact course_finish log ending hd
  have hother : ∀ ending, a ≠ .finish ending := fun ending h => hfinish ⟨ending, h⟩
  have hsilent : s.invocation? a = none ∧ s.outcome? a = none ∧ s.sentBack? a = none ∧
      s.spentOn? a = none := by
    cases a with
    | turn => exact absurd rfl hturn
    | finish ending => exact absurd rfl (hother ending)
    | _ => exact ⟨rfl, rfl, rfl, rfl⟩
  obtain ⟨hinvocation, houtcome, hback, hspent⟩ := hsilent
  rw [tally_silent (by simp [hinvocation]) (by simp [houtcome]) (by simp [hback])]
  exact .kept ((step_pass? s hturn hother).trans hp) hspent

/-! ### Other messages -/

section Others

variable {log : List (Session H × Act H)} {s : Session H} {a : Act H} {i id : String}

theorem delivered_of_invocation (h : s.invocation? a = some (i, id)) :
    ∃ pass, s.bus.pass? = some pass ∧ pass.parcel.message.id = i := by
  cases a with
  | turn =>
    simp only [invocation?] at h
    split at h
    · next pass hd =>
      refine ⟨pass, pass?_eq_some.2 hd, ?_⟩
      split at h
      · split at h
        · cases h
        · exact (Prod.mk.inj (Option.some.inj h)).1
      · cases h
    · cases h
  | _ => cases h

theorem delivered_of_outcome {r : Option HandlerFault} (h : s.outcome? a = some ((i, id), r)) :
    ∃ pass, s.bus.pass? = some pass ∧ pass.parcel.message.id = i := by
  cases a with
  | turn =>
    simp only [outcome?] at h
    split at h
    · cases h
    · obtain ⟨key, hkey, heq⟩ := Option.map_eq_some_iff.1 h
      obtain ⟨rfl, -⟩ := Prod.mk.inj heq
      exact delivered_of_invocation hkey
  | finish ending =>
    simp only [outcome?] at h
    split at h
    · next pass hd =>
      obtain ⟨sub, -, heq⟩ := Option.map_eq_some_iff.1 h
      exact ⟨pass, pass?_eq_some.2 hd, (Prod.mk.inj (Prod.mk.inj heq).1).1⟩
    · cases h
  | _ => cases h

theorem delivered_of_sentBack (h : s.sentBack? a = some i) :
    ∃ pass, s.bus.pass? = some pass ∧ pass.parcel.message.id = i := by
  rcases step_posts s a with ⟨hnone, -⟩ | ⟨pass, hback⟩
  · rw [hnone] at h
    cases h
  · rw [hback.sentBack?] at h
    exact ⟨pass, pass?_eq_some.2 hback.drainer, Option.some.inj h⟩

/-- Nothing is done with a message that is not being delivered. -/
theorem tally_of_not_delivered (h : ∀ pass, s.bus.pass? = some pass → pass.parcel.message.id ≠ i) :
    tally (log ++ [(s, a)]) i = tally log i := by
  refine tally_silent (fun id heq => ?_) (fun id r heq => ?_) (fun heq => ?_)
  · obtain ⟨pass, hp, hid⟩ := delivered_of_invocation heq
    exact h pass hp hid
  · obtain ⟨pass, hp, hid⟩ := delivered_of_outcome heq
    exact h pass hp hid
  · obtain ⟨pass, hp, hid⟩ := delivered_of_sentBack heq
    exact h pass hp hid

end Others

/-! ## The books of a pass -/

/-- The `k`-th invocation of each of these fails as long as `k` is below `f`, and
    succeeds from then on. -/
def Behaves (S : List String) (f : String → Nat) (t : Tally) : Prop :=
  ∀ id ∈ S, ∀ k r, (t.outcomes id)[k]? = some r → (r = none ↔ f id ≤ k)

/-- A subscription has had its turn in `k` passes: it was invoked until it
    accepted the message. -/
structure Turned (f : String → Nat) (t : Tally) (accepted : List String) (k : Nat) (id : String) :
    Prop where
  invoked : t.invoked id = min (f id + 1) k
  outcomes : (t.outcomes id).length = min (f id + 1) k
  accepted : id ∈ accepted ↔ f id < k

/-- A subscription has had its turn in `k` passes, and is having it in one more. -/
structure Turning (f : String → Nat) (t : Tally) (accepted : List String) (k : Nat) (id : String) :
    Prop where
  invoked : t.invoked id = k + 1
  outcomes : (t.outcomes id).length = k
  accepted : id ∉ accepted
  fails : k ≤ f id

section Turns

variable {S : List String} {f : String → Nat} {t : Tally} {accepted : List String} {k : Nat}
  {id id' : String}

theorem Turned.invoke_other (h : Turned f t accepted k id) (hne : id' ≠ id) :
    Turned f (t.invoke id') accepted k id :=
  ⟨by simpa [Tally.invoke, hne] using h.invoked, h.outcomes, h.accepted⟩

theorem Turned.tell_other (h : Turned f t accepted k id) (hne : id' ≠ id)
    (r : Option HandlerFault) : Turned f (t.tell id' r) accepted k id :=
  ⟨h.invoked, by simpa [Tally.tell, hne] using h.outcomes, h.accepted⟩

theorem Turned.accept_other (h : Turned f t accepted k id) (hne : id' ≠ id) :
    Turned f t (accepted ++ [id']) k id :=
  ⟨h.invoked, h.outcomes, by simpa [Ne.symm hne] using h.accepted⟩

/-- Who has accepted the message is passed over. -/
theorem Turned.skip (h : Turned f t accepted k id) (hid : id ∈ accepted) :
    Turned f t accepted (k + 1) id := by
  have hlt := h.accepted.1 hid
  have hmin : min (f id + 1) (k + 1) = min (f id + 1) k := by omega
  exact ⟨hmin ▸ h.invoked, hmin ▸ h.outcomes, ⟨fun _ => by omega, fun _ => hid⟩⟩

/-- Who has not accepted the message is invoked. -/
theorem Turned.invoke (h : Turned f t accepted k id) (hid : id ∉ accepted) :
    Turning f (t.invoke id) accepted k id := by
  have hle : k ≤ f id := Nat.le_of_not_lt fun hlt => hid (h.accepted.2 hlt)
  have hmin : min (f id + 1) k = k := by omega
  refine ⟨?_, ?_, hid, hle⟩
  · simp [Tally.invoke, h.invoked, hmin]
  · rw [← hmin]
    exact h.outcomes

/-- What an invocation comes to stands behind what came before. -/
theorem Turning.told (h : Turning f t accepted k id) (hid : id ∈ S) {r : Option HandlerFault}
    (hb : Behaves S f (t.tell id r)) : r = none ↔ f id ≤ k := by
  refine hb id hid k r ?_
  have hlength := h.outcomes
  simp [Tally.tell, ← hlength]

theorem Turning.accept (h : Turning f t accepted k id) (hid : id ∈ S)
    (hb : Behaves S f (t.tell id none)) :
    Turned f (t.tell id none) (accepted ++ [id]) (k + 1) id := by
  have hle := (h.told hid hb).1 rfl
  have hmin : min (f id + 1) (k + 1) = k + 1 := by have := h.fails; omega
  refine ⟨?_, ?_, ?_⟩
  · rw [hmin]
    exact h.invoked
  · simp [Tally.tell, h.outcomes, hmin]
  · simp
    omega

theorem Turning.reject (h : Turning f t accepted k id) (hid : id ∈ S) {e : HandlerFault}
    (hb : Behaves S f (t.tell id (some e))) :
    k < f id ∧ Turned f (t.tell id (some e)) accepted (k + 1) id := by
  have hlt : k < f id := Nat.lt_of_not_le fun hle => by cases (h.told hid hb).2 hle
  have hmin : min (f id + 1) (k + 1) = k + 1 := by omega
  refine ⟨hlt, ?_, ?_, ?_⟩
  · rw [hmin]
    exact h.invoked
  · simp [Tally.tell, h.outcomes, hmin]
  · exact ⟨fun hmem => absurd hmem h.accepted, fun hlt' => by omega⟩

end Turns

/-- The first of those that had their turn to fail is the one whose failure
    counts. -/
def First (f : String → Nat) (t : Tally) (k : Nat) (done : List String)
    (failure : Option HandlerFault) : Prop :=
  match done.find? fun id => k < f id with
  | none => failure = none
  | some id => ∃ e, failure = some e ∧ (t.outcomes id).getLast? = some (some e)

section Firsts

variable {f : String → Nat} {t t' : Tally} {k : Nat} {done : List String}
  {failure : Option HandlerFault} {id : String}

theorem First.congr (h : First f t k done failure)
    (hsame : ∀ id ∈ done, t'.outcomes id = t.outcomes id) : First f t' k done failure := by
  unfold First at h ⊢
  split at h
  · exact h
  · next id hid =>
    rw [hsame id (List.mem_of_find?_eq_some hid)]
    exact h

theorem First.snoc_of_le (h : First f t k done failure) (hle : f id ≤ k) :
    First f t k (done ++ [id]) failure := by
  have hfind : (done ++ [id]).find? (fun id => k < f id) = done.find? fun id => k < f id := by
    simp [List.find?_append, Nat.not_lt.2 hle]
  rw [First, hfind]
  exact h

theorem First.snoc_of_lt (h : First f t k done failure) (hlt : k < f id) {e : HandlerFault}
    (hlast : (t.outcomes id).getLast? = some (some e)) :
    First f t k (done ++ [id]) (failure.or (some e)) := by
  unfold First at h ⊢
  rw [List.find?_append]
  split at h
  · next hnone =>
    rw [hnone, h]
    simpa [hlt] using hlast
  · next id' hid' =>
    obtain ⟨e', rfl, hlast'⟩ := h
    rw [hid']
    exact ⟨e', rfl, hlast'⟩

end Firsts

/-- How far a pass has come: those that are `done` had their turn in it, and the
    rest had it in the passes before. -/
structure Round (S : List String) (f : String → Nat) (t : Tally) (pass : Pass H)
    (done : List String) : Prop where
  split : S = done ++ (pass.running.toList.map (·.id) ++ pass.rest.map (·.id))
  nodup : S.Nodup
  turned : ∀ id ∈ done, Turned f t pass.parcel.accepted (pass.parcel.message.attempts.toNat + 1) id
  turning : ∀ sub, pass.running = some sub →
    Turning f t pass.parcel.accepted pass.parcel.message.attempts.toNat sub.id
  ahead : ∀ id ∈ pass.rest.map (·.id),
    Turned f t pass.parcel.accepted pass.parcel.message.attempts.toNat id
  first : First f t pass.parcel.message.attempts.toNat done pass.failure

section Rounds

variable {S : List String} {f : String → Nat} {t t' : Tally} {pass pass' : Pass H}
  {done : List String} {sub : Subscription (Listener H)} {rest : List (Subscription (Listener H))}

theorem Round.next (h : Round S f t pass done) (hrun : pass.running = none)
    (hrest : pass.rest = sub :: rest) : S = done ++ sub.id :: rest.map (·.id) := by
  rw [h.split, hrun, hrest]
  rfl

theorem Round.current (h : Round S f t pass done) (hrun : pass.running = some sub) :
    S = done ++ sub.id :: pass.rest.map (·.id) := by
  rw [h.split, hrun]
  rfl

/-- Whose turn it is has had their turn, and nothing changes for the others. -/
theorem Round.advance (h : Round S f t pass done) {id : String} {ids : List String}
    (hsplit : S = done ++ id :: ids)
    (hahead : ∀ x ∈ ids, Turned f t pass.parcel.accepted pass.parcel.message.attempts.toNat x)
    (hrun : pass'.running = none) (hrest : pass'.rest.map (·.id) = ids)
    (hmessage : pass'.parcel.message = pass.parcel.message)
    (hother : ∀ x k, id ≠ x → Turned f t pass.parcel.accepted k x →
      Turned f t' pass'.parcel.accepted k x)
    (hturned : Turned f t' pass'.parcel.accepted (pass.parcel.message.attempts.toNat + 1) id)
    (hfirst : First f t' pass.parcel.message.attempts.toNat (done ++ [id]) pass'.failure) :
    Round S f t' pass' (done ++ [id]) := by
  obtain ⟨hdone, hids⟩ := List.ne_of_split hsplit h.nodup
  exact
    { split := by simp [hsplit, hrun, hrest]
      nodup := h.nodup
      turned := hmessage ▸ List.forall_mem_append.2
        ⟨fun x hx => hother x _ (hdone x hx) (h.turned x hx), by simpa using hturned⟩
      turning := fun sub hsub => by
        rw [hrun] at hsub
        cases hsub
      ahead := fun x hx => by
        rw [hrest] at hx
        rw [hmessage]
        exact hother x _ (hids x hx) (hahead x hx)
      first := hmessage ▸ hfirst }

/-- **The books of a pass** are kept as it goes on. -/
theorem Goes.round (hg : Goes t pass t' pass') (h : Round S f t pass done)
    (hb : Behaves S f t') : ∃ done', Round S f t' pass' done' := by
  -- those whose turn is to come after the next one
  have hlater {sub : Subscription (Listener H)} {rest : List (Subscription (Listener H))}
      (hrest : pass.rest = sub :: rest) : ∀ x ∈ rest.map (·.id),
      Turned f t pass.parcel.accepted pass.parcel.message.attempts.toNat x :=
    fun x hx => h.ahead x (by rw [hrest]; exact List.mem_cons_of_mem _ hx)
  have hfirst {id : String} {ids : List String} {u : Tally} (hsplit : S = done ++ id :: ids)
      (hsame : ∀ x, id ≠ x → u.outcomes x = t.outcomes x) :
      First f u pass.parcel.message.attempts.toNat done pass.failure :=
    h.first.congr fun x hx => hsame x ((List.ne_of_split hsplit h.nodup).1 x hx)
  cases hg with
  | skipped sub rest hrun hrest hid =>
    have hturned := h.ahead sub.id (by simp [hrest])
    have hle := Nat.le_of_lt (hturned.accepted.1 hid)
    exact ⟨_, h.advance (h.next hrun hrest) (hlater hrest) hrun rfl rfl (fun _ _ _ h => h)
      (hturned.skip hid) (h.first.snoc_of_le hle)⟩
  | passed sub rest hrun hrest hid =>
    have hsplit := h.next hrun hrest
    have hmem : sub.id ∈ S := by simp [hsplit]
    have hturning := (h.ahead sub.id (by simp [hrest])).invoke hid
    have hdone := hfirst hsplit (u := (t.invoke sub.id).tell sub.id none) fun x hx => by
      simp [Tally.tell, Tally.invoke, hx]
    exact ⟨_, h.advance hsplit (hlater hrest) rfl rfl rfl
      (fun _ _ hne h => ((h.invoke_other hne).tell_other hne none).accept_other hne)
      (hturning.accept hmem hb) (hdone.snoc_of_le ((hturning.told hmem hb).1 rfl))⟩
  | invoked sub rest hrun hrest hid =>
    have hsplit := h.next hrun hrest
    obtain ⟨hdone, hahead⟩ := List.ne_of_split hsplit h.nodup
    have hturning := (h.ahead sub.id (by simp [hrest])).invoke hid
    exact ⟨done,
      { split := by simp [hsplit]
        nodup := h.nodup
        turned := fun x hx => (h.turned x hx).invoke_other (hdone x hx)
        turning := fun sub' hsub => by
          obtain rfl := Option.some.inj hsub
          exact hturning
        ahead := fun x hx => (hlater hrest x hx).invoke_other (hahead x hx)
        first := h.first.congr fun _ _ => rfl }⟩
  | accepted sub hrun =>
    have hsplit := h.current hrun
    have hmem : sub.id ∈ S := by simp [hsplit]
    have hturning := h.turning sub hrun
    have hdone := hfirst hsplit (u := t.tell sub.id none) fun x hx => by simp [Tally.tell, hx]
    exact ⟨_, h.advance hsplit h.ahead rfl rfl rfl
      (fun _ _ hne h => (h.tell_other hne none).accept_other hne)
      (hturning.accept hmem hb) (hdone.snoc_of_le ((hturning.told hmem hb).1 rfl))⟩
  | rejected sub e hrun =>
    have hsplit := h.current hrun
    have hmem : sub.id ∈ S := by simp [hsplit]
    obtain ⟨hlt, hturned⟩ := (h.turning sub hrun).reject hmem hb
    have hdone := hfirst hsplit (u := t.tell sub.id (some e)) fun x hx => by simp [Tally.tell, hx]
    exact ⟨_, h.advance hsplit h.ahead rfl rfl rfl
      (fun _ _ hne h => h.tell_other hne (some e)) hturned
      (hdone.snoc_of_lt hlt (by simp [Tally.tell]))⟩

end Rounds

end Switchboard.Bus.Session
