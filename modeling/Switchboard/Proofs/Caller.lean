import Switchboard.Caller

/-
  What calls do to the bus.

  A call makes requests on the bus and looks after them, and does nothing else
  there.  So whatever opening and attending to a request keep is kept by
  `attempt`, `step`, `steps`, `poll` and `place`; giving a call up closes the
  request that waits.
-/

namespace Switchboard.Caller

variable {H : Type} {P : Bus H → Prop}
  (hopen : ∀ b now topic payload o, P b → P (b.openRequest now topic payload o).2)
  (hattend : ∀ b now t, P b → P (b.attend now t).2)

include hopen in
theorem attempt_keeps (c : Caller) {b : Bus H} (h : P b) (now draw : Nat) (call : Call) :
    P (c.attempt b now draw call).2.2 := by
  unfold attempt
  dsimp only
  split
  · have hrequest := hopen b now call.topic call.payload
      { timeoutMs := some call.timeoutMs, priority := call.priority, maxRetries := some 0 } h
    split
    · next ticket b' heq => rwa [heq] at hrequest
    · next fault b' heq => rwa [heq] at hrequest
  · exact h

include hopen hattend

theorem step_keeps (c : Caller) {b : Bus H} (h : P b) (now draw : Nat) (call : Call) :
    P (c.step b now draw call).2.2 := by
  unfold step
  split
  · exact attempt_keeps hopen c h now draw call
  · next ticket _ =>
    have hlook := hattend b now ticket h
    split
    · next b' heq => rwa [heq] at hlook
    · next r b' heq => rwa [heq] at hlook
  · split
    · exact attempt_keeps hopen c h now draw call
    · exact h

theorem steps_keeps (fuel : Nat) (c : Caller) {b : Bus H} (h : P b) (now : Nat)
    (draws : Nat → Nat) (call : Call) : P (steps fuel c b now draws call).2.2 := by
  induction fuel generalizing c b call with
  | zero => exact h
  | succ fuel ih =>
    have hstep := step_keeps hopen hattend c h now (draws call.attempts.toNat) call
    unfold steps
    split
    · next heq => rwa [heq] at hstep
    · next heq =>
      rw [heq] at hstep
      exact ih _ hstep _
    · next heq => rwa [heq] at hstep

theorem poll_keeps (c : Caller) {b : Bus H} (h : P b) (now : Nat) (draws : Nat → Nat)
    (call : Call) : P (c.poll b now draws call).2.2 :=
  steps_keeps hopen hattend _ c h now draws call

theorem place_keeps (c : Caller) {b : Bus H} (h : P b) (now : Nat) (draws : Nat → Nat)
    (topic : String) (payload : Json) (o : CallOptions) :
    P (c.place b now draws topic payload o).2.2 := by
  unfold place
  split
  · exact h
  · exact poll_keeps hopen hattend _ h now draws _

omit hopen hattend in
theorem abandon_keeps (hclose : ∀ b c, P b → P (b.close c)) (c : Caller) {b : Bus H} (h : P b)
    (call : Call) : P (c.abandon b call).2 := by
  unfold abandon
  dsimp only
  split
  · exact hclose _ _ h
  · exact h

end Switchboard.Caller
