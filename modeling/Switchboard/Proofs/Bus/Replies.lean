import Switchboard.Caller
import Switchboard.Bus.Delivery
import Switchboard.Proofs.Fault.Envelope

/-
  Replies — what a responder says, and what its caller hears.

  A responder publishes the value it has found, or its failure in an envelope;
  nothing but its shape tells the one from the other.

  * `encoded` is the payload of a reply, `finish_encoded` says that it is what is
    published, `deliver_replyOf` that `replyOf` is what settles the request;
  * `reply_faithful`: failures arrive as they were, and so do values that are no
    envelopes; `reply_mistaken` is one that is.
-/

namespace Switchboard

variable {H : Type}

namespace Bus

/-! ## The way of a reply -/

/-- The payload that carries the result of a responder. -/
def encoded : Except HandlerFault Json → Json
  | .ok v => v
  | .error f => envelope f

/-- How a responder ends that has come to a result. -/
def endingOf : Except HandlerFault Json → Ending
  | .ok v => .returned v
  | .error f => .failed f

/-- **A responder** publishes its result on the reply topic of the request. -/
theorem finish_encoded {b : Bus H} {pass : Pass H} {sub : Subscription (Listener H)} {h : H}
    {replyTo c : String} (now : Nat) (result : Except HandlerFault Json)
    (hd : b.drainer = .delivering pass) (hrun : pass.running = some sub)
    (hs : sub.handler = .responder h) (hr : pass.parcel.message.replyTo = some replyTo)
    (hc : pass.parcel.message.correlation = some c) :
    b.finish now (endingOf result) =
      (b.publish now replyTo (encoded result) (replyOptions pass.parcel.message c)).2.accept pass
        sub.id := by
  cases result <;> simp only [finish, hd, hrun, hs, endingOf, respond, hr, hc, encoded]

/-- **A request** is settled with what the payload on its reply topic means. -/
theorem deliver_replyOf {pass : Pass H} {sub : Subscription (Listener H)} {c : String}
    (b : Bus H) (hs : sub.handler = .reply c) (hc : pass.parcel.message.correlation = some c) :
    (b.deliver pass sub).1 =
      (b.settle c (replyOf pass.parcel.message.payload)).accept pass sub.id := by
  simp only [deliver, hs, takeReply, hc, if_true]

theorem replyOf_of_tells {v : Json} {f : HandlerFault} (h : v.Tells f) :
    replyOf v = .error (.remote f) := by
  simp only [replyOf, openEnvelope?_eq_some.2 h]

theorem replyOf_eq_ok {v : Json} : replyOf v = .ok v ↔ ∀ f, ¬ v.Tells f := by
  constructor
  · intro h f hf
    rw [replyOf_of_tells hf] at h
    cases h
  · intro h
    have hnone : openEnvelope? v = none := by
      rcases hv : openEnvelope? v with _ | f
      · rfl
      · exact absurd (openEnvelope?_eq_some.1 hv) (h f)
    simp only [replyOf, hnone]

end Bus

/-! ## Codes -/

namespace CallFault

/-- A failure with the code and the message of another, and the flags of that code. -/
structure Restores (seen f : CallFault) : Prop where
  code : seen.code = f.code
  message : seen.message = f.message
  retriable : seen.retriable = f.code.isRetriable
  status : seen.status = f.code.status

theorem ofBus_restores (f : CallFault) (topic : String) :
    (ofBus (.remote f.toHandlerFault) topic).Restores f := ⟨rfl, rfl, rfl, rfl⟩

end CallFault

/-- A call that ends with a failure of the bus ends with what it is classified as. -/
theorem Caller.takeResult_done {c : Caller} {now draw : Nat} {call : Call} {fault : BusFault}
    {result : CallResult} (h : (c.takeResult now draw call (.error fault)).1 = .done result) :
    ∃ n, result = .error { CallFault.ofBus fault call.topic with attempts := n } := by
  unfold takeResult at h
  dsimp only at h
  split at h
  · cases h
  · cases h
    exact ⟨_, rfl⟩

namespace Bus

/-- **Replies are faithful.**  What a responder publishes is its value, or its
    failure in an envelope, and a request is settled with what the payload means.
    A value arrives as it is just if it does not read as a failure itself; else it
    is taken for that failure.  A failure arrives as it was; and one with a code
    and a message ends the call with this code, this message and the flags of the
    code. -/
theorem reply_faithful :
    (∀ (b : Bus H) (now : Nat) (result : Except HandlerFault Json) (pass : Pass H)
        (sub : Subscription (Listener H)) (h : H) (replyTo c : String),
      b.drainer = .delivering pass → pass.running = some sub → sub.handler = .responder h →
      pass.parcel.message.replyTo = some replyTo → pass.parcel.message.correlation = some c →
      b.finish now (endingOf result) =
        (b.publish now replyTo (encoded result) (replyOptions pass.parcel.message c)).2.accept pass
          sub.id) ∧
    (∀ (b : Bus H) (pass : Pass H) (sub : Subscription (Listener H)) (c : String),
      sub.handler = .reply c → pass.parcel.message.correlation = some c →
      (b.deliver pass sub).1 =
        (b.settle c (replyOf pass.parcel.message.payload)).accept pass sub.id) ∧
    (∀ v : Json, replyOf (encoded (.ok v)) = .ok v ↔ ∀ f, ¬ v.Tells f) ∧
    (∀ (v : Json) (f : HandlerFault), v.Tells f → replyOf v = .error (.remote f)) ∧
    (∀ f : HandlerFault, openEnvelope? (envelope f) = some f ∧
      replyOf (encoded (.error f)) = .error (.remote f)) ∧
    ∀ f : CallFault, ∃ fault, replyOf (encoded (.error f.toHandlerFault)) = .error fault ∧
      (∀ topic, (CallFault.ofBus fault topic).Restores f) ∧
      ∀ (c : Caller) (now : Nat) (call : Call) (result : CallResult),
        (c.takeResult now draw call (.error fault)).1 = .done result →
        ∃ seen, result = .error seen ∧ seen.Restores f := by
  have henvelope (f : HandlerFault) : replyOf (encoded (.error f)) = .error (.remote f) := by
    simp only [replyOf, encoded, openEnvelope?_envelope]
  refine ⟨fun b now result pass sub h replyTo c hd hrun hs hr hc =>
      finish_encoded now result hd hrun hs hr hc,
    fun b pass sub c hs hc => deliver_replyOf b hs hc, fun v => replyOf_eq_ok,
    fun v f => replyOf_of_tells, fun f => ⟨openEnvelope?_envelope f, henvelope f⟩, fun f => ?_⟩
  refine ⟨_, henvelope f.toHandlerFault, CallFault.ofBus_restores f,
    fun c now call result hdone => ?_⟩
  obtain ⟨n, rfl⟩ := Caller.takeResult_done hdone
  exact ⟨_, rfl, ⟨rfl, rfl, rfl, rfl⟩⟩

/-- A responder that has not found what it is asked for says so in its reply, and
    the call ends with that. -/
theorem reply_faithful_not_found :
    let f := CallFault.ofCode .notFound "missing"
    let asked : Message :=
      { Message.plain "m1" "svc" .null 0 with
        correlation := some "c1", replyTo := some "_reply.c1" }
    let told : Message :=
      { Message.plain "m2" "_reply.c1" (envelope f.toHandlerFault) 0 with correlation := some "c1" }
    let server : Subscription (Listener Unit) := ⟨"s1", .exact "svc", .responder (), {}⟩
    let waiting : Subscription (Listener Unit) := ⟨"s2", .exact "_reply.c1", .reply "c1", {}⟩
    let asking : Pass Unit := ⟨.fresh asked, [], some server, none⟩
    let telling : Pass Unit := ⟨.fresh told, [], none, none⟩
    let b : Bus Unit := { config := {}, drainer := .delivering asking }
    let call : Call := ⟨0, "svc", .null, .normal, 1000, 0, 0, .starting⟩
    let fault : BusFault := .remote f.toHandlerFault
    b.finish 0 (endingOf (.error f.toHandlerFault)) =
        (b.publish 0 "_reply.c1" told.payload (replyOptions asked "c1")).2.accept asking "s1" ∧
      (b.deliver telling waiting).1 = (b.settle "c1" (.error fault)).accept telling "s2" ∧
      replyOf (encoded (.ok (.str "found"))) = .ok (.str "found") ∧
      ∃ seen, ((Caller.create {}).takeResult 0 0 call (.error fault)).1 = .done (.error seen) ∧
        seen.Restores f := by
  intro f asked told server waiting asking telling b call fault
  obtain ⟨hfinish, hdeliver, hvalue, htold, -, hfault⟩ := reply_faithful (H := Unit)
  have htells : told.payload.Tells f.toHandlerFault :=
    openEnvelope?_eq_some.1 (openEnvelope?_envelope f.toHandlerFault)
  have hreply : replyOf told.payload = .error fault := htold _ _ htells
  refine ⟨hfinish b 0 _ asking server () "_reply.c1" "c1" rfl rfl rfl rfl rfl, ?_, ?_, ?_⟩
  · rw [← hreply]
    exact hdeliver b telling waiting "c1" rfl rfl
  · exact (hvalue _).2 fun g hg => by
      obtain ⟨ms, heq, -⟩ := hg
      cases heq
  · obtain ⟨fault', hread, -, hends⟩ := hfault f
    obtain rfl : fault' = fault := Except.error.inj (hread.symm.trans hreply)
    have hdone : ((Caller.create {}).takeResult 0 0 call (.error fault)).1 =
        .done (.error { CallFault.ofBus fault "svc" with attempts := 1 }) := rfl
    obtain ⟨seen, heq, hrestores⟩ := hends _ 0 call _ hdone
    exact ⟨seen, hdone.trans (congrArg Caller.CallStep.done heq), hrestores⟩

/-- A value that reads as a failure is taken for one. -/
theorem reply_mistaken :
    let v : Json := .obj [("error", .obj [("message", .str "x")])]
    replyOf (encoded (.ok v)) = .error (.remote (.plain "x")) ∧
      replyOf (encoded (.ok v)) ≠ .ok v := by
  intro v
  have hv : replyOf (encoded (.ok v)) = .error (.remote (.plain "x")) := rfl
  refine ⟨hv, ?_⟩
  rw [hv]
  exact nofun

end Bus

end Switchboard
