import Switchboard.Proofs.Bus.Ledger

/-
  What lasts while a bus goes about its business.

  * `Lasting`: a property of what is filed and pending that outlives requests;
  * `Act.isRoutine`: an act in which nobody subscribes, asks or unsubscribes;
  * `Lasting.step`: what is lasting holds after every such act.
-/

namespace Switchboard.Bus

variable {H : Type}

/-- A property that looks at what is filed and pending only, allows for new
    identifiers, and holds when a request has got its result or is closed. -/
structure Lasting (P : Bus H → Prop) : Prop where
  congr : ∀ {b b' : Bus H}, P b → b'.index = b.index → b'.patterns = b.patterns →
    b'.pending = b.pending → b.mint.Reaches b'.mint → P b'
  settle : ∀ {b : Bus H}, P b → ∀ c r, P (b.settle c r)
  close : ∀ {b : Bus H}, P b → ∀ c, P (b.close c)

namespace Lasting

variable {P : Bus H → Prop} {b : Bus H}

/-! ## Messages -/

theorem settleMessage (hP : Lasting P) (h : P b) (m : Message) (f : BusFault) :
    P (b.settleMessage m f) := by
  unfold Bus.settleMessage
  split
  · exact hP.settle h _ _
  · exact h

theorem enqueue (hP : Lasting P) (h : P b) (p : Parcel) : P (b.enqueue p) := by
  unfold Bus.enqueue
  dsimp only
  split
  · exact hP.congr h rfl rfl rfl (.refl _)
  · refine hP.settleMessage ?_ _ _
    exact hP.congr h rfl rfl rfl (.refl _)

theorem wake (hP : Lasting P) (h : P b) : P b.wake := by
  unfold Bus.wake
  split
  · exact hP.congr h rfl rfl rfl (.refl _)
  · exact h

theorem publish (hP : Lasting P) (h : P b) (now : Nat) (topic : String) (payload : Json)
    (o : PublishOptions) : P (b.publish now topic payload o).2 := by
  have hentering : P b.entering := hP.congr h rfl rfl rfl b.mint.reaches_advance
  rcases b.publish_cases now topic payload o with ⟨f, -, heq⟩ | ⟨-, heq⟩ | ⟨-, heq⟩ <;> rw [heq]
  · exact h
  · exact hP.congr hentering rfl rfl rfl (.refl _)
  · exact hP.wake (hP.enqueue hentering _)

theorem accept (hP : Lasting P) (h : P b) (pass : Pass H) (id : String) : P (b.accept pass id) :=
  hP.congr h rfl rfl rfl (.refl _)

theorem respond (hP : Lasting P) (h : P b) (now : Nat) (m : Message) (answer : Json) :
    P (b.respond now m answer) := by
  rcases b.respond_cases now m answer with ⟨-, heq⟩ | ⟨replyTo, c, -, -, -, heq⟩ <;> rw [heq]
  · exact h
  · exact hP.publish h ..

/-! ## The drainer -/

theorem turn (hP : Lasting P) (h : P b) (now : Nat) : P (b.turn now).1 := by
  have hturn := b.turn_turns now
  generalize b.turnTraffic now = t at hturn
  generalize b.handedOver = os at hturn
  generalize (b.turn now).1 = b' at hturn ⊢
  have hsame {b' : Bus H} (hindex : b'.index = b.index) (hpatterns : b'.patterns = b.patterns)
      (hpending : b'.pending = b.pending) (hmint : b'.mint = b.mint) : P b' :=
    hP.congr h hindex hpatterns hpending (hmint ▸ .refl _)
  cases hturn with
  | idle => exact h
  | busy => exact h
  | unheard p queue counters =>
    refine hP.settleMessage ?_ _ _
    exact hsame rfl rfl rfl rfl
  | retried pass =>
    refine hP.enqueue ?_ _
    exact hsame rfl rfl rfl rfl
  | failed pass f =>
    refine hP.settleMessage ?_ _ _
    exact hsame rfl rfl rfl rfl
  | replied pass s rest c => exact hP.accept (hP.settle h _ _) _ _
  | _ => exact hsame rfl rfl rfl rfl

theorem finish (hP : Lasting P) (h : P b) (now : Nat) (ending : Ending) :
    P (b.finish now ending) := by
  have hfinish := b.finish_finishes now ending
  generalize b.finishTraffic now ending = t at hfinish
  generalize b.finish now ending = b' at hfinish ⊢
  cases hfinish with
  | idle => exact h
  | rejected pass s f => exact hP.congr h rfl rfl rfl (.refl _)
  | accepted pass s => exact hP.accept h _ _
  | answered pass s answer => exact hP.accept (hP.respond h ..) _ _

/-! ## Requests -/

theorem attend (hP : Lasting P) (h : P b) (now : Nat) (t : Ticket) : P (b.attend now t).2 := by
  rcases b.attend_cases now t with ⟨r, -, heq⟩ | ⟨-, -, heq⟩ | ⟨-, -, -, heq⟩ | ⟨-, -, heq⟩ <;>
    rw [heq]
  · exact hP.close h _
  · exact hP.close h _
  · refine hP.close ?_ _
    exact hP.congr h rfl rfl rfl (.refl _)
  · exact h

theorem sweepStale (hP : Lasting P) (h : P b) (now maxAge : Nat) :
    P (b.sweepStale now maxAge).2 := by
  refine sweepStale_keeps (fun b e h => hP.settle ?_ _ _) now h
  exact hP.congr h rfl rfl rfl (.refl _)

end Lasting

/-! ## Acts -/

/-- An act that goes on with what is there: nobody subscribes, asks, unsubscribes
    or shuts the bus down. -/
def Act.isRoutine : Act H → Bool
  | .subscribe .. | .subscribePattern .. | .serve .. | .unsubscribe _ | .unsubscribePlugin _
  | .request .. | .shutdown => false
  | _ => true

/-- **What is lasting** holds after an act of routine. -/
theorem Lasting.step {P : Bus H → Prop} (hP : Lasting P) {s : Session H} (h : P s.bus) {a : Act H}
    (ha : a.isRoutine = true) : P (s.step a).bus := by
  cases a with
  | publish topic payload o => exact hP.publish h ..
  | attend n =>
    rcases hn : s.calls.waiting.lookup n with _ | t
    · simpa only [Session.step, hn] using h
    · have hattend := hP.attend h s.now t
      rcases ht : s.bus.attend s.now t with ⟨_ | r, b⟩ <;> rw [ht] at hattend <;>
        simpa only [Session.step, hn, ht] using hattend
  | drop n =>
    rcases hn : s.calls.waiting.lookup n with _ | t
    · simpa only [Session.step, hn] using h
    · simpa only [Session.step, hn] using hP.close h t.correlation
  | sweep maxAge => exact hP.sweepStale h s.now maxAge
  | turn =>
    rw [Session.step_turn_bus]
    exact hP.turn h s.now
  | finish ending => exact hP.finish h s.now ending
  | wait ms => exact h
  | host present => exact hP.congr h rfl rfl rfl (.refl _)
  | _ => cases ha

end Switchboard.Bus
