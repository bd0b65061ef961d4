import Switchboard.Proofs.Bus.Outside
import Switchboard.Proofs.Plugin.Permission

/-
  What the calls of plugins do.

  * `PluginCall` lists the calls of a plugin, `PluginContext.perform` makes one;
  * `PluginContext.Deed` lists what a call does that has passed its guard, and
    `Performs` what a call comes to; `perform_performs` says that the list is
    complete;
  * `Performs.keeps`, `of_subscribed`, `of_published`: what is seen of a call.
-/

namespace Switchboard

variable {H : Type}

/-! ## Calls -/

/-- A call of a plugin. -/
inductive PluginCall (H : Type) where
  | publish (now : Nat) (topic : String) (payload : Json) (options : PublishOptions)
  | subscribe (topic : String) (handler : H)
  | subscribePattern (pattern : String) (handler : H)
  | serve (topic : String) (handler : H)
  | unsubscribe (id : String)
  /-- `draws` says what is drawn for the pauses of the call -/
  | request (now : Nat) (draws : Nat → Nat) (topic : String) (payload : Json)
      (options : CallOptions)

/-- The answer to a call that was not refused. -/
inductive PluginAnswer where
  | published (outcome : PublishOutcome)
  | subscribed (id : String)
  | unsubscribed (live : Bool)
  | called (progress : Caller.CallProgress)

/-- What a call of a plugin comes to. -/
abbrev PluginResult := Except PluginFault PluginAnswer

namespace PluginCall

/-- The capability that a call needs. -/
def capability : PluginCall H → Capability
  | .publish .. => .publish
  | .subscribe .. | .subscribePattern .. | .unsubscribe .. => .subscribe
  | .serve .. => .serve
  | .request .. => .call

/-- The topic or pattern that a call names. -/
def name? : PluginCall H → Option String
  | .publish _ topic .. | .subscribe topic _ | .serve topic _ | .request _ _ topic .. => some topic
  | .subscribePattern pattern _ => some pattern
  | .unsubscribe _ => none

/-- The name that a call listens on. -/
def listens? : PluginCall H → Option String
  | .subscribe topic _ | .serve topic _ => some topic
  | .subscribePattern pattern _ => some pattern
  | .publish .. | .unsubscribe _ | .request .. => none

theorem name?_of_listens {call : PluginCall H} {name : String} (h : call.listens? = some name) :
    call.name? = some name := by
  cases call <;> first | exact h | cases h

end PluginCall

namespace PluginResult

/-- The guard has refused the call. -/
def Denied (r : PluginResult) : Prop :=
  ∃ plugin reason, r = .error (.permissionDenied plugin reason)

/-- The call has failed, or it has begun and failed at once. -/
def Failed : PluginResult → Prop
  | .error _ => True
  | .ok (.called (.finished (.error _))) => True
  | .ok _ => False

end PluginResult

namespace PluginContext

/-- Makes a call. -/
def perform (x : PluginContext) (s : Services H) :
    PluginCall H → PluginResult × PluginContext × Services H
  | .publish now topic payload o =>
    (x.publish s now topic payload o).map (·.map .published) id
  | .subscribe topic handler => (x.subscribe s topic handler).map (·.map .subscribed) id
  | .subscribePattern pattern handler =>
    (x.subscribePattern s pattern handler).map (·.map .subscribed) id
  | .serve topic handler => (x.serve s topic handler).map (·.map .subscribed) id
  | .unsubscribe id' => (x.unsubscribe s id').map (·.map .unsubscribed) id
  | .request now draws topic payload o =>
    (x.request s now draws topic payload o).map (·.map .called) id

end PluginContext

namespace Bus

/-- A message that is accepted is on a topic that may be published; one that is
    not accepted changes nothing. -/
theorem publish_spec (b : Bus H) (now : Nat) (topic : String) (payload : Json)
    (o : PublishOptions) :
    (∃ f, b.publish now topic payload o = (.error f, b)) ∨
      Pattern.parse topic = .ok (.exact topic) ∧
        ∃ outcome b', b.publish now topic payload o = (.ok outcome, b') := by
  unfold publish
  split
  · exact Or.inl ⟨_, rfl⟩
  · split
    · exact Or.inl ⟨_, rfl⟩
    · next htopic =>
      split
      · exact Or.inl ⟨_, rfl⟩
      · refine Or.inr ⟨parse_of_publishable htopic, ?_⟩
        dsimp only
        split
        · exact ⟨_, _, rfl⟩
        · exact ⟨_, _, rfl⟩

end Bus

/-! ## What a call does -/

namespace PluginContext

/-- What a call does that has passed its guard. -/
inductive Deed (x : PluginContext) (s : Services H) :
    PluginCall H → PluginResult × PluginContext × Services H → Prop
  /-- the bus refuses it -/
  | refused (call fault) : Deed x s call (.error (.bus fault), x, s)
  | published (now topic payload o outcome bus) :
      s.bus.publish now topic payload o = (.ok outcome, bus) →
      Deed x s (.publish now topic payload o) (.ok (.published outcome), x, { s with bus })
  | subscribed (call name p listener) : call.listens? = some name → Pattern.parse name = .ok p →
      Deed x s call
        (.ok (.subscribed s.bus.mint.take.1), { x with owned := x.owned ++ [s.bus.mint.take.1] },
          { s with bus := s.bus.enrol ⟨s.bus.mint.take.1, p, listener, x.metadata⟩ })
  | unsubscribed (id) : id ∈ x.owned →
      Deed x s (.unsubscribe id)
        (.ok (.unsubscribed (s.bus.unsubscribe id).1), { x with owned := x.owned.filter (· ≠ id) },
          { s with bus := (s.bus.unsubscribe id).2 })
  /-- the subscription is somebody else's -/
  | foreign (id) : id ∉ x.owned → Deed x s (.unsubscribe id) (.ok (.unsubscribed false), x, s)
  | called (now draws topic payload o progress caller bus) :
      s.caller.place s.bus now draws topic payload o = (progress, caller, bus) →
      Deed x s (.request now draws topic payload o)
        (.ok (.called progress), x, { s with bus, caller })

variable {x : PluginContext} {s : Services H}

/-- What a call comes to: it is denied, or it passes its guard and does a deed. -/
inductive Performs (x : PluginContext) (s : Services H) (call : PluginCall H) :
    PluginResult × PluginContext × Services H → Prop
  | denied (reason) :
      Performs x s call
        (.error (.permissionDenied x.plugin reason), x, { s with denied := s.denied + 1 })
  | made (r) : x.guard.bind (·.refusal? call.capability call.name?) = none → x.Deed s call r →
      Performs x s call r

theorem guarded_performs {α : Type} (call : PluginCall H) {answer : α → PluginAnswer}
    {act : Services H → Except PluginFault α × PluginContext × Services H}
    (h : x.Deed s call ((act s).map (·.map answer) id)) :
    x.Performs s call ((x.guarded s call.capability call.name? act).map (·.map answer) id) := by
  unfold guarded
  rcases hr : x.guard.bind (·.refusal? call.capability call.name?) with _ | reason
  · exact .made _ hr h
  · exact .denied reason

theorem own_deed (call : PluginCall H) {name : String} (hname : call.listens? = some name)
    {listener : Listener H} {r : Except BusFault String × Bus H}
    (hr : s.bus.Enrols name listener x.metadata r) :
    x.Deed s call ((x.own s r).map (·.map .subscribed) id) := by
  cases hr with
  | refused f => exact .refused call f
  | enrolled p hparse => exact .subscribed call name p listener hname hparse

/-- **The list is complete.** -/
theorem perform_performs (x : PluginContext) (s : Services H) (call : PluginCall H) :
    x.Performs s call (x.perform s call) := by
  cases call with
  | publish now topic payload o =>
    rw [perform, publish]
    refine guarded_performs (.publish now topic payload o) ?_
    rcases hb : s.bus.publish now topic payload o with ⟨f | outcome, bus⟩
    · obtain ⟨f', hsame⟩ | ⟨-, outcome, bus', hok⟩ := s.bus.publish_spec now topic payload o
      · rw [hb] at hsame
        obtain ⟨-, rfl⟩ := Prod.mk.inj hsame
        exact .refused _ f
      · rw [hb] at hok
        cases hok
    · exact .published now topic payload o outcome bus hb
  | subscribe topic handler =>
    rw [perform, subscribe]
    refine guarded_performs (.subscribe topic handler) ?_
    exact own_deed (.subscribe topic handler) rfl (s.bus.subscribe_enrols ..)
  | subscribePattern pattern handler =>
    rw [perform, subscribePattern]
    refine guarded_performs (.subscribePattern pattern handler) ?_
    exact own_deed (.subscribePattern pattern handler) rfl (s.bus.subscribePattern_enrols ..)
  | serve topic handler =>
    rw [perform, serve]
    refine guarded_performs (.serve topic handler) ?_
    exact own_deed (.serve topic handler) rfl (s.bus.subscribe_enrols ..)
  | unsubscribe id =>
    rw [perform, unsubscribe]
    refine guarded_performs (.unsubscribe id) ?_
    split
    · next howned => exact .unsubscribed id (List.contains_iff_mem.1 howned)
    · next howned => exact .foreign id fun hmem => howned (List.contains_iff_mem.2 hmem)
  | request now draws topic payload o =>
    rw [perform, request]
    refine guarded_performs (.request now draws topic payload o) ?_
    exact .called now draws topic payload o _ _ _ rfl

/-! ### What a call leaves behind -/

section

variable {call : PluginCall H} {r : PluginResult} {x' : PluginContext} {s' : Services H}

/-- A context stays that of its plugin, and its guard stays the same. -/
theorem Performs.keeps (h : x.Performs s call (r, x', s')) :
    x'.guard = x.guard ∧ x'.plugin = x.plugin := by
  cases h with
  | denied => exact ⟨rfl, rfl⟩
  | made _ _ hdeed => cases hdeed <;> exact ⟨rfl, rfl⟩

/-- What a call answers a new subscription for. -/
theorem Performs.of_subscribed {id : String}
    (h : x.Performs s call (.ok (.subscribed id), x', s')) :
    ∃ name p, ∃ listener : Listener H, call.name? = some name ∧ Pattern.parse name = .ok p ∧
      id = s.bus.mint.take.1 ∧ s'.bus = s.bus.enrol ⟨id, p, listener, x.metadata⟩ := by
  cases h with
  | made _ _ hdeed =>
    cases hdeed with
    | subscribed call name p listener hname hparse =>
      exact ⟨name, p, listener, PluginCall.name?_of_listens hname, hparse, rfl, rfl⟩

/-- What a call answers a message for. -/
theorem Performs.of_published {now : Nat} {topic : String} {payload : Json} {o : PublishOptions}
    {outcome : PublishOutcome}
    (h : x.Performs s (.publish now topic payload o) (.ok (.published outcome), x', s')) :
    s.bus.publish now topic payload o = (.ok outcome, s'.bus) := by
  cases h with
  | made _ _ hdeed =>
    cases hdeed with
    | published _ _ _ _ _ bus hpublish => exact hpublish

end

end PluginContext

end Switchboard
