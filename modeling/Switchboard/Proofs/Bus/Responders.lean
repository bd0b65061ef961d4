import Switchboard.Proofs.Bus.Passage
import Switchboard.Proofs.Bus.Replies

/-
  Responders — what they answer, and what becomes of the delivery.

  * `Conduct` is what the handler of a responder can do, `Conduct.result` what its
    caller is to be told;
  * `respond_entered`: one reply is published, or none if there is no way to;
  * `Accepts`: a subscription has accepted the message under way, for good:
    `accepts_lasts`;
  * `Culprit`: a failure of a delivery is that of a handler, `run_blamed`;
  * `responder_law`: a responder is run on requests only, and whatever its handler
    comes to is answered and accepted; only one that panics before it has begun
    to run fails the delivery;
  * `responder_balks` is a request that is sent back for this, and not answered.
-/

namespace Switchboard

variable {H : Type}

namespace Bus

/-! ## What a responder does -/

/-- What the handler of a responder does when it is called. -/
inductive Conduct where
  | returns (value : Json)
  | fails (fault : HandlerFault)
  /-- it panics while it runs -/
  | panics (text : String)
  /-- it panics while it is called, before there is anything to run -/
  | balks (text : String)

namespace Conduct

/-- How the handler ends. -/
def ending : Conduct → Ending
  | returns v => .returned v
  | fails f => .failed f
  | panics text => .failed (.panicked text)
  | balks text => .broke (.panicked text)

/-- What its caller is to be told. -/
def result : Conduct → Except HandlerFault Json
  | returns v => .ok v
  | fails f => .error f
  | panics text | balks text => .error (.panicked text)

/-- The handler has begun to run. -/
def Runs (c : Conduct) : Prop := ∀ text, c ≠ .balks text

theorem Runs.ending_eq {c : Conduct} (h : c.Runs) : c.ending = endingOf c.result := by
  cases c with
  | balks text => exact absurd rfl (h text)
  | _ => rfl

end Conduct

/-! ## Replies -/

/-- The answer to a message can be published: the message says where, and as what,
    and the bus takes messages. -/
structure Repliable (b : Bus H) (m : Message) : Prop where
  opened : b.closed = false
  hosted : b.hosted = true
  correlation : m.correlation ≠ none
  address : ∃ replyTo, m.replyTo = some replyTo ∧ Address.topic replyTo = .ok ()

/-- A message that answers another one with a payload. -/
structure Answers (reply m : Message) (payload : Json) : Prop where
  topic : m.replyTo = some reply.topic
  correlation : reply.correlation = m.correlation
  priority : reply.priority = m.priority
  payload : reply.payload = payload

/-- **A responder** publishes one reply if there is a way to, and else none. -/
theorem respond_entered (b : Bus H) (now : Nat) (m : Message) (answer : Json) :
    (Repliable b m → ∃ reply, (b.respondTraffic now m answer).entered = [reply] ∧
      Answers reply m answer) ∧
    (¬Repliable b m → (b.respondTraffic now m answer).entered = []) := by
  rcases hreplyTo : m.replyTo with _ | replyTo
  · refine ⟨fun h => ?_, fun _ => by simp [respondTraffic, hreplyTo]⟩
    obtain ⟨replyTo, heq, -⟩ := h.address
    rw [hreplyTo] at heq
    cases heq
  · rcases hc : m.correlation with _ | c
    · exact ⟨fun h => absurd hc h.correlation, fun _ => by simp [respondTraffic, hreplyTo, hc]⟩
    · have htraffic : b.respondTraffic now m answer =
          b.publishTraffic now replyTo answer (replyOptions m c) := by
        simp only [respondTraffic, hreplyTo, hc]
      rw [htraffic]
      rcases b.publishTraffic_cases now replyTo answer (replyOptions m c) with
        ⟨hopened, hhosted, htopic, id, hentered⟩ | ⟨hcause, hentered⟩
      · have hrepliable : Repliable b m :=
          ⟨hopened, hhosted, by simp [hc], replyTo, hreplyTo, htopic⟩
        exact ⟨fun _ => ⟨_, hentered, hreplyTo, hc.symm, rfl, rfl⟩, fun h => absurd hrepliable h⟩
      · refine ⟨fun h => ?_, fun _ => hentered⟩
        obtain ⟨replyTo', heq, htopic⟩ := h.address
        obtain rfl := Option.some.inj (hreplyTo.symm.trans heq)
        rcases hcause with hclosed | hunhosted | hbad
        · rw [h.opened] at hclosed
          cases hclosed
        · rw [h.hosted] at hunhosted
          cases hunhosted
        · exact absurd htopic (hbad ())

/-! ## The delivery -/

/-- A subscription has accepted the message under way, and the delivery goes on
    as before. -/
def Accepted (pass : Pass H) (id : String) (b : Bus H) : Prop :=
  ∃ pass', b.pass? = some pass' ∧ pass'.running = none ∧ pass'.failure = pass.failure ∧
    pass'.parcel = { pass.parcel with accepted := pass.parcel.accepted ++ [id] }

theorem accepted_accept (b : Bus H) (pass pass' : Pass H) (id : String)
    (hparcel : pass'.parcel = pass.parcel) (hfailure : pass'.failure = pass.failure) :
    Accepted pass id (b.accept pass' id) :=
  ⟨_, pass?_eq_some.2 rfl, rfl, hfailure, by rw [← hparcel]⟩

namespace Session

variable {s : Session H} {pass : Pass H} {sub : Subscription (Listener H)} {h : H}

/-- **The turn of a responder** publishes nothing; it is invoked on a request,
    and accepts anything else as it is. -/
theorem turn_of_responder (hd : s.bus.drainer = .delivering pass) (hrun : pass.running = none)
    {rest : List (Subscription (Listener H))} (hrest : pass.rest = sub :: rest)
    (hs : sub.handler = .responder h) (hid : sub.id ∉ pass.parcel.accepted) :
    (s.traffic .turn).entered = [] ∧
      (pass.parcel.message.isRequest = true →
        (s.bus.turn s.now).2 = .invoke ⟨h, pass.parcel.message, true⟩ ∧
          (s.step .turn).bus.running? = some sub) ∧
      (pass.parcel.message.isRequest = false →
        (s.bus.turn s.now).2 = .again ∧ Accepted pass sub.id (s.step .turn).bus) := by
  have hturn : s.bus.turn s.now = s.bus.deliver { pass with rest } sub := by
    simp [turn, hd, hrun, hrest, hid]
  have hquiet : s.traffic .turn = {} := by
    simp only [traffic, turnTraffic, hd, hrun, hrest]
  rw [step_turn_bus, hturn, hquiet]
  refine ⟨rfl, fun hreq => ?_, fun hreq => ?_⟩
  · have hdeliver : s.bus.deliver { pass with rest } sub =
        ({ s.bus with drainer := .delivering { pass with rest, running := some sub } },
          .invoke ⟨h, pass.parcel.message, true⟩) := by
      simp only [deliver, hs, hreq, if_true]
    rw [hdeliver]
    exact ⟨rfl, rfl⟩
  · have hdeliver : s.bus.deliver { pass with rest } sub =
        (s.bus.accept { pass with rest } sub.id, .again) := by
      simp [deliver, hs, hreq]
    rw [hdeliver]
    exact ⟨rfl, accepted_accept _ _ _ _ rfl rfl⟩

/-- **The end of a responder** that has run: what it has come to is answered, and
    it has accepted the message. -/
theorem finish_of_runs (hd : s.bus.drainer = .delivering pass) (hrun : pass.running = some sub)
    (hs : sub.handler = .responder h) {c : Conduct} (hc : c.Runs) :
    Accepted pass sub.id (s.step (.finish c.ending)).bus ∧
      s.traffic (.finish c.ending) =
        s.bus.respondTraffic s.now pass.parcel.message (encoded c.result) := by
  rw [hc.ending_eq]
  constructor
  · have hbus : (s.step (.finish (endingOf c.result))).bus =
        (s.bus.respond s.now pass.parcel.message (encoded c.result)).accept pass sub.id := by
      rcases c.result with f | v <;> simp only [step, finish, hd, hrun, hs, endingOf, encoded]
    rw [hbus]
    exact accepted_accept _ _ _ _ rfl rfl
  · rcases c.result with f | v <;>
      simp only [traffic, finishTraffic, hd, hrun, hs, endingOf, encoded]

/-- One that has not even begun to run fails the delivery, and answers nothing. -/
theorem finish_of_balks (hd : s.bus.drainer = .delivering pass) (hrun : pass.running = some sub)
    (text : String) :
    let a : Act H := .finish (Conduct.balks text).ending
    s.traffic a = {} ∧ (s.step a).bus.pass? =
      some { pass with running := none, failure := pass.failure.or (some (.panicked text)) } := by
  intro a
  have hbus : (s.step a).bus = s.bus.reject pass (.panicked text) := by
    simp only [a, step, Conduct.ending, finish, hd, hrun]
  have htraffic : s.traffic a = {} := by
    rcases hs : sub.handler with _ | _ | _ <;>
      simp only [a, traffic, Conduct.ending, finishTraffic, hd, hrun, hs]
  exact ⟨htraffic, by rw [hbus]; rfl⟩

/-! ## Once and for all -/

/-- A message has an id that was handed out, and has been accepted by a
    subscription wherever it is. -/
structure Accepts (s : Session H) (i id : String) : Prop where
  issued : s.bus.mint.Issued i
  underway : ∀ pass, s.bus.pass? = some pass → pass.parcel.message.id = i →
    id ∈ pass.parcel.accepted
  queued : ∀ p ∈ s.bus.queue.toList, p.message.id = i → id ∈ p.accepted

/-- What has been accepted stays accepted while a delivery goes on. -/
theorem Goes.accepted_subset {t t' : Tally} {pass pass' : Pass H} (h : Goes t pass t' pass') :
    pass.parcel.accepted ⊆ pass'.parcel.accepted := by
  cases h with
  | skipped | invoked | rejected => exact List.Subset.refl _
  | passed | accepted => exact List.subset_append_left _ _

/-- **Whatever happens**, the message stays accepted. -/
theorem Accepts.step {i id : String} (h : Accepts s i id) (a : Act H) :
    Accepts (s.step a) i id where
  issued := (s.step_accounts a).mint.issued h.issued
  underway pass' hpass' hi := by
    rcases pass_origin hpass' with ⟨pass, hpass, hsame⟩ | ⟨-, -, p, queue, hp, rfl⟩
    · have hmem := h.underway pass hpass (hsame ▸ hi)
      rcases (course [] hpass a).goes_on hpass' with ⟨rfl, -⟩ | hg
      · exact hmem
      · exact hg.accepted_subset hmem
    · have hmem : p ∈ s.bus.queue.toList := Queue.toList_pop hp ▸ List.mem_cons_self
      exact h.queued p hmem hi
  queued p hp hi := by
    rcases queued_origin hp with hp | ⟨m, hm, rfl⟩ | ⟨pass, hback, rfl⟩
    · exact h.queued p hp hi
    · have hi' : m.id = i := hi
      exact absurd (hi' ▸ h.issued) ((s.step_accounts a).fresh m hm).1
    · exact h.underway pass (pass?_eq_some.2 hback.drainer) hi

theorem not_accepted_of_invocation {a : Act H} {i id : String}
    (h : s.invocation? a = some (i, id)) :
    ∃ pass, s.bus.pass? = some pass ∧ pass.parcel.message.id = i ∧ id ∉ pass.parcel.accepted := by
  cases a with
  | turn =>
    simp only [invocation?] at h
    split at h
    · next pass hd =>
      refine ⟨pass, pass?_eq_some.2 hd, ?_⟩
      split at h
      · split at h
        · cases h
        · next hid =>
          cases h
          exact ⟨rfl, hid⟩
      · cases h
    · cases h
  | _ => cases h

/-- Whoever has accepted a message is not invoked on it again. -/
theorem accepts_lasts {i id : String} (h : Accepts s i id) (later : List (Act H)) :
    ∀ x ∈ s.trace later, x.1.invocation? x.2 ≠ some (i, id) := by
  induction later generalizing s with
  | nil => exact fun x hx => absurd hx List.not_mem_nil
  | cons a later ih =>
    intro x hx
    rcases List.mem_cons.1 hx with rfl | hx
    · intro hinvocation
      obtain ⟨pass, hpass, hi, hid⟩ := not_accepted_of_invocation hinvocation
      exact hid (h.underway pass hpass hi)
    · exact ih (h.step a) x hx

/-- What a subscription has just accepted it has accepted wherever it is. -/
theorem accepts_of_accepted {config : BusConfig} {hosted : Bool} {acts : List (Act H)} {id : String}
    (h : Accepted pass id ((start config hosted).run acts).bus) :
    Accepts ((start config hosted).run acts) pass.parcel.message.id id := by
  obtain ⟨pass', hpass', -, -, hparcel⟩ := h
  have hbooks := run_books config hosted acts
  have hid : id ∈ pass'.parcel.accepted := hparcel ▸ List.mem_concat_self
  have hmessage : pass'.parcel.message = pass.parcel.message := by rw [hparcel]
  refine ⟨?_, fun pass'' hpass'' _ => ?_, fun p hp hi => ?_⟩
  · rw [← hmessage]
    exact flight_issued config hosted acts pass'.parcel.stamp (mem_flight_of_pass hpass')
  · obtain rfl := Option.some.inj (hpass'.symm.trans hpass'')
    exact hid
  · exact absurd (hi.trans (congrArg Message.id hmessage).symm) (Ne.symm (hbooks.ne_of_queue hpass' hp))

/-! ## Whose fault it is -/

/-- The delivery of a message has failed for a handler: that of a subscription that
    is no responder, or one that panicked before it had begun to run. -/
def Culprit (log : List (Session H × Act H)) (i : String) : Prop :=
  ∃ s₀ pass sub ending f, (s₀, .finish ending) ∈ log ∧ s₀.bus.pass? = some pass ∧
    pass.parcel.message.id = i ∧ pass.running = some sub ∧ faultOf sub ending = some f ∧
    ((∀ h, sub.handler ≠ .responder h) ∨ ending = .broke f)

theorem Culprit.mono {log log' : List (Session H × Act H)} {i : String} (h : Culprit log i)
    (hsub : log ⊆ log') : Culprit log' i := by
  obtain ⟨s₀, pass, sub, ending, f, hmem, hrest⟩ := h
  exact ⟨s₀, pass, sub, ending, f, hsub hmem, hrest⟩

/-- A responder fails a delivery only by not beginning to run. -/
theorem broke_of_faultOf {ending : Ending} {f : HandlerFault} (h : faultOf sub ending = some f) :
    (∀ h, sub.handler ≠ .responder h) ∨ ending = .broke f := by
  cases ending with
  | broke f' =>
    obtain rfl : f' = f := by simpa [faultOf] using h
    exact Or.inr rfl
  | returned v => cases h
  | failed f' =>
    refine Or.inl fun r hr => ?_
    simp [faultOf, hr] at h

theorem culprit_of_faultBy {ending : Ending} {x : String × HandlerFault}
    {xs : List (String × HandlerFault)} (h : s.bus.faultBy ending = x :: xs) :
    ∃ pass sub f, s.bus.pass? = some pass ∧ pass.running = some sub ∧
      faultOf sub ending = some f := by
  rcases hd : s.bus.drainer with _ | _ | pass
  · simp [faultBy, running?, hd] at h
  · simp [faultBy, running?, hd] at h
  · rcases hrun : pass.running with _ | sub
    · simp [faultBy, running?, hd, hrun] at h
    · rcases hf : faultOf sub ending with _ | f
      · simp [faultBy, running?, hd, hrun, hf] at h
      · exact ⟨pass, sub, f, pass?_eq_some.2 hd, hrun, hf⟩

/-- A delivery that has failures has a culprit. -/
def Blamed (log : List (Session H × Act H)) (s : Session H) : Prop :=
  ∀ pass, s.bus.pass? = some pass → s.faults ≠ [] → Culprit log pass.parcel.message.id

theorem step_blamed {log : List (Session H × Act H)} (h : Blamed log s) (a : Act H) :
    Blamed (log ++ [(s, a)]) (s.step a) := by
  have hsub : log ⊆ log ++ [(s, a)] := List.subset_append_left _ _
  intro pass' hpass' hfaults
  -- the failures are those of the delivery that was under way before
  have hold (hsame : (s.step a).faults = s.faults) (hready : a = .turn → s.bus.drainer ≠ .ready) :
      Culprit (log ++ [(s, a)]) pass'.parcel.message.id := by
    rcases pass_origin hpass' with ⟨pass, hpass, hid⟩ | ⟨hturn, hd, -⟩
    · rw [hid]
      exact (h pass hpass (hsame ▸ hfaults)).mono hsub
    · exact absurd hd (hready hturn)
  by_cases hturn : a = .turn
  · subst hturn
    by_cases hready : s.bus.drainer = .ready
    · exact absurd (memory_of_ready hready).2 hfaults
    · exact hold (memory_of_not_ready hready).2 fun _ => hready
  by_cases hfinish : ∃ ending, a = .finish ending
  · obtain ⟨ending, rfl⟩ := hfinish
    rcases hby : s.bus.faultBy ending with _ | ⟨x, xs⟩
    · have hsame : (s.step (.finish ending)).faults = s.faults ++ s.bus.faultBy ending := rfl
      rw [hby, List.append_nil] at hsame
      exact hold hsame fun heq => absurd heq hturn
    · obtain ⟨pass, sub, f, hpass, hrun, hf⟩ := culprit_of_faultBy hby
      rcases pass_origin hpass' with ⟨pass'', hpass'', hid⟩ | ⟨heq, -⟩
      · obtain rfl := Option.some.inj (hpass.symm.trans hpass'')
        exact ⟨s, pass, sub, ending, f, List.mem_concat_self, hpass, hid.symm, hrun, hf,
          broke_of_faultOf hf⟩
      · exact absurd heq hturn
  · exact hold (memory_of_other s hturn fun ending heq => hfinish ⟨ending, heq⟩).2
      fun heq => absurd heq hturn

theorem run_blamed (config : BusConfig) (hosted : Bool) (acts : List (Act H)) :
    Blamed ((start config hosted).trace acts) ((start config hosted).run acts) := by
  refine run_induction (P := fun acts s => Blamed ((start config hosted).trace acts) s)
    (fun pass hpass => by cases hpass) (fun acts a h => ?_) acts
  rw [trace_concat]
  exact step_blamed h a

/-- A pass that has failed has a culprit. -/
theorem culprit_of_failure {config : BusConfig} {hosted : Bool} {acts : List (Act H)}
    (hpass : ((start config hosted).run acts).bus.pass? = some pass) (hf : pass.failure ≠ none) :
    Culprit ((start config hosted).trace acts) pass.parcel.message.id := by
  refine run_blamed config hosted acts pass hpass fun hnil => hf ?_
  rw [(run_onRecord config hosted acts pass hpass).first, hnil]
  rfl

/-- **What is sent back, or fails,** has a culprit. -/
theorem culprit_of_setback {config : BusConfig} {hosted : Bool} {acts : List (Act H)} {a : Act H}
    {i : String}
    (h : ((start config hosted).run acts).sentBack? a = some i ∨
      ∃ m, (.failed, m) ∈ (((start config hosted).run acts).traffic a).left ∧ m.id = i) :
    Culprit ((start config hosted).trace acts) i := by
  rcases h with hback | ⟨m, hleft, rfl⟩
  · rcases step_posts ((start config hosted).run acts) a with ⟨hnone, -⟩ | ⟨pass, hsends⟩
    · rw [hnone] at hback
      cases hback
    · obtain rfl := Option.some.inj (hsends.sentBack?.symm.trans hback)
      exact culprit_of_failure (pass?_eq_some.2 hsends.drainer) hsends.failure
  · cases leaves hleft with
    | failed pass f hd _ _ hf _ hm =>
      have hculprit := culprit_of_failure (pass?_eq_some.2 hd) (by rw [hf]; exact Option.some_ne_none f)
      rw [hm]
      exact hculprit

/-! ## Runs -/

/-- **Responders.**  Whatever has happened before:

    A responder whose turn it is publishes nothing yet.  Its handler is run if the
    message is a request; any other message it accepts at once.

    When its handler has run and comes to an end, with a value, a failure or a
    panic, the responder has accepted the message, the delivery goes on as before,
    and the handler is never run on this message again.  If the answer can be
    published, it enters as one message that answers the request and holds the
    value, or the failure in an envelope; else nothing enters.

    A handler that panics before it has begun to run is the exception: it fails
    the delivery, and answers nothing.

    So whatever is sent back or fails has a culprit, and a responder is one only
    by this exception. -/
theorem responder_law (config : BusConfig) (hosted : Bool) (acts : List (Act H)) :
    let s := (start config hosted).run acts
    let log := (start config hosted).trace acts
    (∀ pass sub rest h, s.bus.drainer = .delivering pass → pass.running = none →
      pass.rest = sub :: rest → sub.handler = .responder h → sub.id ∉ pass.parcel.accepted →
      (s.traffic .turn).entered = [] ∧
      (pass.parcel.message.isRequest = true →
        (s.bus.turn s.now).2 = .invoke ⟨h, pass.parcel.message, true⟩ ∧
          (s.step .turn).bus.running? = some sub) ∧
      (pass.parcel.message.isRequest = false →
        (s.bus.turn s.now).2 = .again ∧ Accepted pass sub.id (s.step .turn).bus)) ∧
    (∀ pass sub h (c : Conduct), s.bus.drainer = .delivering pass → pass.running = some sub →
      sub.handler = .responder h →
      let m := pass.parcel.message
      let a : Act H := .finish c.ending
      (c.Runs → Accepted pass sub.id (s.step a).bus ∧
        (∀ later, ∀ x ∈ (s.step a).trace later, x.1.invocation? x.2 ≠ some (m.id, sub.id)) ∧
        (Repliable s.bus m → ∃ reply, (s.traffic a).entered = [reply] ∧
          Answers reply m (encoded c.result)) ∧
        (¬Repliable s.bus m → (s.traffic a).entered = [])) ∧
      ∀ text, c = .balks text → s.traffic a = {} ∧ (s.step a).bus.pass? =
        some { pass with running := none, failure := pass.failure.or (some (.panicked text)) }) ∧
    ∀ s₁ a i, (s₁, a) ∈ log →
      (s₁.sentBack? a = some i ∨ ∃ m, (.failed, m) ∈ (s₁.traffic a).left ∧ m.id = i) →
      Culprit log i := by
  intro s log
  refine ⟨fun pass sub rest h hd hrun hrest hs hid => turn_of_responder hd hrun hrest hs hid,
    fun pass sub h c hd hrun hs => ?_, fun s₁ a i hlog hsetback => ?_⟩
  · intro m a
    refine ⟨fun hc => ?_, fun text hc => ?_⟩
    · obtain ⟨haccepted, htraffic⟩ := finish_of_runs hd hrun hs hc
      obtain ⟨hreplied, hsilent⟩ := s.bus.respond_entered s.now m (encoded c.result)
      have hrun' : (start config hosted).run (acts ++ [a]) = s.step a := run_concat ..
      have haccepts : Accepts (s.step a) m.id sub.id :=
        hrun' ▸ accepts_of_accepted (hrun'.symm ▸ haccepted)
      refine ⟨haccepted, fun later => accepts_lasts haccepts later, ?_, ?_⟩
      · rw [htraffic]
        exact hreplied
      · rw [htraffic]
        exact hsilent
    · subst hc
      exact finish_of_balks hd hrun text
  · obtain ⟨before, after, hacts, rfl⟩ := mem_trace hlog
    have hsub : (start config hosted).trace before ⊆ log := by
      simp only [log, hacts, trace_append]
      exact List.subset_append_left _ _
    exact (culprit_of_setback hsetback).mono hsub

/-- A request is sent to a responder that panics while it runs. -/
def requested : List (Act Unit) := [.serve "svc" () {}, .request "svc" .null {}, .turn, .turn]

/-- It is told of the panic, and the delivery is none the worse for it. -/
theorem responder_law_panics :
    let s := (start {} true).run requested
    let a : Act Unit := .finish (Conduct.panics "boom").ending
    ∃ pass sub, s.bus.drainer = .delivering pass ∧ pass.running = some sub ∧
      Accepted pass sub.id (s.step a).bus ∧
      ∃ reply, (s.traffic a).entered = [reply] ∧
        Answers reply pass.parcel.message (envelope (.panicked "boom")) := by
  let replyTo := "_reply." ++ Mint.grouped 1 1 ++ "." ++ Mint.run 1 2
  obtain ⟨pass, sub, c, hd, hrun, hs, hc, hreplyTo⟩ : ∃ pass sub c,
      ((start {} true).run requested).bus.drainer = .delivering pass ∧ pass.running = some sub ∧
      sub.handler = .responder () ∧ pass.parcel.message.correlation = some c ∧
      pass.parcel.message.replyTo = some replyTo := ⟨_, _, _, rfl, rfl, rfl, rfl, rfl⟩
  have hdefect : topicDefect? ("_reply." ++ Mint.grouped 1 1 ++ "." ++ Mint.run 1 2) = none := by
    decide +kernel
  have hrepliable : Repliable ((start {} true).run requested).bus pass.parcel.message :=
    ⟨rfl, rfl, by simp [hc], replyTo, hreplyTo, topic_eq_ok.2 hdefect⟩
  obtain ⟨haccepted, -, hreplied, -⟩ :=
    ((responder_law {} true requested).2.1 pass sub () (.panics "boom") hd hrun hs).1 nofun
  exact ⟨pass, sub, hd, hrun, haccepted, hreplied hrepliable⟩

/-- A responder that panics before it has begun to run: the request is sent back
    twice, nothing is published in answer, and the request fails. -/
theorem responder_balks :
    let balk : Act Unit := .finish (Conduct.balks "boom").ending
    let acts := requested ++ [balk, .turn, .turn, .turn, balk, .turn, .turn, .turn, balk, .turn, .attend 0]
    let s := (start {} true).run acts
    let log := (start {} true).trace acts
    sentBack log = [Mint.grouped 1 4, Mint.grouped 1 4] ∧ s.bus.counters.published = 1 ∧
      s.bus.counters.delivered = 0 ∧
      s.calls.answers = [(0, .error (.handler (.panicked "boom")))] :=
  ⟨rfl, rfl, rfl, rfl⟩

end Session

end Bus

end Switchboard
