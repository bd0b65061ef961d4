import Switchboard.Caller

/-
  What a call does, step by step.

  A step of a call asks the circuit of its topic, makes a request, hears the
  result of one and reports it to the circuit, pauses, or ends the call.  These
  are its deeds; the answers of the circuit and of the bus are part of them.

  * `deeds` is what one step of a call does, in order;
  * `step_goes` lists the ways a step can go, with the deeds of each;
  * `step_performs`: the caller after a step is the caller with the deeds of the
    step performed on it, so circuits and counters know of nothing else.
-/

namespace Switchboard
namespace Caller

variable {H : Type} {c : Caller} {b : Bus H} {now draw : Nat} {call : Call}

/-! ## Deeds -/

/-- Something a call does. -/
inductive Deed where
  /-- asks the circuit of its topic, and is let through or not -/
  | ask (admitted : Bool)
  /-- makes a request on the bus -/
  | send
  /-- takes in the result of its request -/
  | hear (reply : Reply)
  /-- reports a success or a failure to the circuit -/
  | report (success : Bool)
  | pause (ms : Nat)
  | finish (result : CallResult)

/-- How the requests of a call are made: the bus is not to retry them. -/
def requestOf (call : Call) : RequestOptions :=
  { timeoutMs := some call.timeoutMs, priority := call.priority, maxRetries := some 0 }

/-- Whether a call asks the circuit when it goes on. -/
def isReady (now : Nat) (call : Call) : Bool :=
  match call.phase with
  | .starting => true
  | .asking _ => false
  | .pausing wake => wake ≤ now

/-- The answer of the circuit to a call. -/
def admits (c : Caller) (now : Nat) (call : Call) : Bool := (c.circuits.acquire now call.topic).1

/-- The result of an attempt that a step takes in. -/
def hears? (c : Caller) (b : Bus H) (now : Nat) (call : Call) : Option Reply :=
  match call.phase with
  | .asking ticket => (b.attend now ticket).1
  | _ =>
    if isReady now call && c.admits now call then
      match (b.openRequest now call.topic call.payload (requestOf call)).1 with
      | .ok _ => none
      | .error fault => some (.error fault)
    else none

/-- What a call does first in a step: it asks, makes a request and takes in a
    result, as far as it gets. -/
def opening (c : Caller) (b : Bus H) (now : Nat) (call : Call) : List Deed :=
  (if isReady now call then
    if c.admits now call then [.ask true, .send] else [.ask false]
  else []) ++
  (c.hears? b now call).elim [] fun r => [.hear r, .report r.isOk]

/-- What a call does last in a step that came to `s`. -/
def closing (now : Nat) : CallStep → List Deed
  | .stuck => []
  | .moved call =>
    match call.phase with
    | .pausing wake => [.pause (wake - now)]
    | _ => []
  | .done r => [.finish r]

/-- **What a step of a call does.** -/
def deeds (c : Caller) (b : Bus H) (now draw : Nat) (call : Call) : List Deed :=
  c.opening b now call ++ closing now (c.step b now draw call).1

/-! ## The branches of a step -/

/-- The failure of a call on a topic with its attempt number `n`. -/
def failure (topic : String) (fault : BusFault) (n : Nat) : CallFault :=
  { CallFault.ofBus fault topic with attempts := n }

/-- The failure of a call that the circuit refused after `n` attempts. -/
def refusal (topic : String) (n : Nat) : CallFault :=
  { CallFault.circuitOpen topic with attempts := n }

/-- The caller after a call has asked the circuit. -/
def asked (c : Caller) (now : Nat) (call : Call) : Caller :=
  { c with circuits := (c.circuits.acquire now call.topic).2 }

/-- The branches of a step of a call: what is done first, what it comes to, and
    caller and bus afterwards. -/
inductive Branches (c : Caller) (b : Bus H) (now draw : Nat) (call : Call) :
    List Deed → CallStep × Caller × Bus H → Prop where
  | waits (ticket : Ticket) (b' : Bus H) (hphase : call.phase = .asking ticket)
      (hbus : b.attend now ticket = (none, b')) :
    Branches c b now draw call [] (.stuck, c, b')
  | rests (wake : Nat) (hphase : call.phase = .pausing wake) (hearly : now < wake) :
    Branches c b now draw call [] (.stuck, c, b)
  | refused (hready : isReady now call = true) (hask : c.admits now call = false) :
    Branches c b now draw call [.ask false]
      (.done (.error (refusal call.topic call.attempts.toNat)),
        (c.asked now call).count fun n =>
          { n with refusals := n.refusals + 1, failures := n.failures + 1 }, b)
  | asks (ticket : Ticket) (b' : Bus H) (hready : isReady now call = true)
      (hask : c.admits now call = true)
      (hbus : b.openRequest now call.topic call.payload (requestOf call) = (.ok ticket, b')) :
    Branches c b now draw call [.ask true, .send]
      (.moved { call with phase := .asking ticket }, c.asked now call, b')
  | barred (fault : BusFault) (b' : Bus H) (hready : isReady now call = true)
      (hask : c.admits now call = true)
      (hbus : b.openRequest now call.topic call.payload (requestOf call) = (.error fault, b')) :
    Branches c b now draw call [.ask true, .send, .hear (.error fault), .report false]
      (((c.asked now call).takeResult now draw call (.error fault)).1,
        ((c.asked now call).takeResult now draw call (.error fault)).2, b')
  | hears (ticket : Ticket) (r : Reply) (b' : Bus H) (hphase : call.phase = .asking ticket)
      (hbus : b.attend now ticket = (some r, b')) :
    Branches c b now draw call [.hear r, .report r.isOk]
      ((c.takeResult now draw call r).1, (c.takeResult now draw call r).2, b')

theorem step_ready (c : Caller) (b : Bus H) (h : isReady now call = true) :
    c.step b now draw call = c.attempt b now draw call := by
  unfold isReady at h
  unfold step
  split at h <;> simp_all

theorem hears?_ready (c : Caller) (b : Bus H) (h : isReady now call = true) :
    c.hears? b now call =
      if c.admits now call then
        match (b.openRequest now call.topic call.payload (requestOf call)).1 with
        | .ok _ => none
        | .error fault => some (.error fault)
      else none := by
  unfold hears?
  split
  · next h' => simp [isReady, h'] at h
  · simp [h]

theorem attempt_eq (c : Caller) (b : Bus H) (now draw : Nat) (call : Call) :
    c.attempt b now draw call =
      if c.admits now call then
        match b.openRequest now call.topic call.payload (requestOf call) with
        | (.ok ticket, b') => (.moved { call with phase := .asking ticket }, c.asked now call, b')
        | (.error fault, b') =>
          let (s, c') := (c.asked now call).takeResult now draw call (.error fault)
          (s, c', b')
      else
        (.done (.error (refusal call.topic call.attempts.toNat)),
          (c.asked now call).count fun n =>
            { n with refusals := n.refusals + 1, failures := n.failures + 1 }, b) :=
  rfl

/-- A step takes one of its branches. -/
theorem step_branches (c : Caller) (b : Bus H) (now draw : Nat) (call : Call) :
    Branches c b now draw call (c.opening b now call) (c.step b now draw call) := by
  unfold opening
  by_cases hready : isReady now call = true
  · rw [step_ready c b hready, hears?_ready c b hready, attempt_eq, if_pos hready]
    by_cases hask : c.admits now call = true
    · rw [if_pos hask, if_pos hask, if_pos hask]
      rcases hbus : b.openRequest now call.topic call.payload (requestOf call) with ⟨_ | _, b'⟩
      · exact .barred _ _ hready hask hbus
      · exact .asks _ _ hready hask hbus
    · rw [if_neg hask, if_neg hask, if_neg hask]
      exact .refused hready (by simpa using hask)
  · rw [if_neg hready]
    unfold step hears?
    cases hphase : call.phase with
    | starting => simp [isReady, hphase] at hready
    | asking ticket =>
      dsimp only
      rcases hbus : b.attend now ticket with ⟨_ | r, b'⟩
      · exact .waits ticket b' hphase hbus
      · exact .hears ticket r b' hphase hbus
    | pausing wake =>
      have hearly : now < wake := by simpa [isReady, hphase] using hready
      simp only [hready, Bool.false_and, Bool.false_eq_true, if_false, if_neg (Nat.not_le.2 hearly)]
      exact .rests wake hphase hearly

/-! ## The ways a step can go -/

/-- Whether a call whose attempt failed is to be tried again. -/
def retries (call : Call) (fault : BusFault) : Bool :=
  (CallFault.ofBus fault call.topic).retriable && call.attempts + 1 ≤ call.maxRetries

/-- The ways a call takes in the result of an attempt. -/
inductive Takes (config : CallerConfig) (now draw : Nat) (call : Call) :
    Reply → List Deed → CallStep → Prop where
  | succeeded (v : Json) :
    Takes config now draw call (.ok v) [.hear (.ok v), .report true, .finish (.ok v)]
      (.done (.ok v))
  | retried (fault : BusFault) (ms : Nat) (hretry : retries call fault = true)
      (hms : ms = config.pauseMs draw call.attempts.toNat) :
    Takes config now draw call (.error fault) [.hear (.error fault), .report false, .pause ms]
      (.moved { call with attempts := call.attempts + 1, phase := .pausing (now + ms) })
  | failed (fault : BusFault) (f : CallFault) (hretry : retries call fault = false)
      (hf : f = failure call.topic fault (call.attempts + 1).toNat) :
    Takes config now draw call (.error fault)
      [.hear (.error fault), .report false, .finish (.error f)] (.done (.error f))

/-- **The ways a step of a call can go**: what is done in it, what it comes to
    and how it leaves the bus. -/
inductive Goes (c : Caller) (b : Bus H) (now draw : Nat) (call : Call) :
    List Deed → CallStep → Bus H → Prop where
  | waits (ticket : Ticket) (b' : Bus H) (hphase : call.phase = .asking ticket)
      (hbus : b.attend now ticket = (none, b')) :
    Goes c b now draw call [] .stuck b'
  | rests (wake : Nat) (hphase : call.phase = .pausing wake) (hearly : now < wake) :
    Goes c b now draw call [] .stuck b
  | refused (f : CallFault) (hready : isReady now call = true) (hask : c.admits now call = false)
      (hf : f = refusal call.topic call.attempts.toNat) :
    Goes c b now draw call [.ask false, .finish (.error f)] (.done (.error f)) b
  | asks (ticket : Ticket) (b' : Bus H) (hready : isReady now call = true)
      (hask : c.admits now call = true)
      (hbus : b.openRequest now call.topic call.payload (requestOf call) = (.ok ticket, b')) :
    Goes c b now draw call [.ask true, .send] (.moved { call with phase := .asking ticket }) b'
  | barred (fault : BusFault) (b' : Bus H) (ds : List Deed) (s : CallStep)
      (hready : isReady now call = true) (hask : c.admits now call = true)
      (hbus : b.openRequest now call.topic call.payload (requestOf call) = (.error fault, b'))
      (htakes : Takes c.config now draw call (.error fault) ds s) :
    Goes c b now draw call (.ask true :: .send :: ds) s b'
  | hears (ticket : Ticket) (r : Reply) (b' : Bus H) (ds : List Deed) (s : CallStep)
      (hphase : call.phase = .asking ticket) (hbus : b.attend now ticket = (some r, b'))
      (htakes : Takes c.config now draw call r ds s) :
    Goes c b now draw call ds s b'

/-- What a call comes to whose attempt failed. -/
theorem takeResult_error (c : Caller) (now draw : Nat) (call : Call) (fault : BusFault) :
    (c.takeResult now draw call (.error fault)).1 =
      if retries call fault then
        .moved { call with
          attempts := call.attempts + 1
          phase := .pausing (now + c.config.pauseMs draw call.attempts.toNat) }
      else .done (.error (failure call.topic fault (call.attempts + 1).toNat)) := by
  unfold takeResult retries
  dsimp only
  split
  · cases fault <;> rfl
  · rfl

theorem takeResult_takes (c : Caller) (now draw : Nat) (call : Call) (r : Reply) :
    let s := (c.takeResult now draw call r).1
    Takes c.config now draw call r (.hear r :: .report r.isOk :: closing now s) s := by
  intro s
  cases r with
  | ok v => exact .succeeded v
  | error fault =>
    by_cases hretry : retries call fault = true
    · have hs : s = .moved { call with
          attempts := call.attempts + 1
          phase := .pausing (now + c.config.pauseMs draw call.attempts.toNat) } := by
        simp only [s, takeResult_error, hretry, if_true]
      have hclosing : closing now s = [.pause (c.config.pauseMs draw call.attempts.toNat)] := by
        simp [hs, closing]
      rw [hclosing, hs]
      exact .retried fault _ hretry rfl
    · have hs : s = .done (.error (failure call.topic fault (call.attempts + 1).toNat)) := by
        simp [s, takeResult_error, hretry]
      rw [hs]
      exact .failed fault _ (by simpa using hretry) rfl

/-- **Every step of a call goes one of these ways.** -/
theorem step_goes (c : Caller) (b : Bus H) (now draw : Nat) (call : Call) :
    Goes c b now draw call (c.deeds b now draw call)
      (c.step b now draw call).1 (c.step b now draw call).2.2 := by
  have hbranch := step_branches c b now draw call
  unfold deeds
  generalize c.opening b now call = ds, c.step b now draw call = t at hbranch ⊢
  cases hbranch with
  | waits ticket b' hphase hbus => exact .waits ticket b' hphase hbus
  | rests wake hphase hearly => exact .rests wake hphase hearly
  | refused hready hask => exact .refused _ hready hask rfl
  | asks ticket b' hready hask hbus => exact .asks ticket b' hready hask hbus
  | barred fault b' hready hask hbus =>
    have htakes := takeResult_takes (c.asked now call) now draw call (.error fault)
    exact .barred fault b' _ _ hready hask hbus htakes
  | hears ticket r b' hphase hbus =>
    exact .hears ticket r b' _ _ hphase hbus (takeResult_takes c now draw call r)

/-! ## The caller after a step -/

/-- What a deed at a time on a topic leaves of a caller. -/
def Deed.perform (now : Nat) (topic : String) (c : Caller) : Deed → Caller
  | .ask admitted =>
    let c := { c with circuits := (c.circuits.acquire now topic).2 }
    if admitted then c else c.count fun n => { n with refusals := n.refusals + 1 }
  | .send => c
  | .hear (.error (.timeout ..)) => c.count fun n => { n with timeouts := n.timeouts + 1 }
  | .hear _ => c
  | .report success =>
    { c with circuits := if success then c.circuits.succeed topic else c.circuits.fail now topic }
  | .pause _ => c.count fun n => { n with retries := n.retries + 1 }
  | .finish (.ok _) => c.count fun n => { n with successes := n.successes + 1 }
  | .finish (.error _) => c.count fun n => { n with failures := n.failures + 1 }

theorem takeResult_performs (c : Caller) (now draw : Nat) (call : Call) (r : Reply) {ds : List Deed}
    {s : CallStep} (h : Takes c.config now draw call r ds s) :
    (c.takeResult now draw call r).2 = ds.foldl (Deed.perform now call.topic) c := by
  have hfault : ∀ fault : BusFault,
      (c.takeResult now draw call (.error fault)).2 =
        (([Deed.hear (.error fault), .report false].foldl (Deed.perform now call.topic) c).count
          fun n => if retries call fault then { n with retries := n.retries + 1 }
            else { n with failures := n.failures + 1 }) := by
    intro fault
    unfold takeResult retries
    dsimp only
    split <;> cases fault <;> simp_all [Deed.perform, count]
  cases h with
  | succeeded v => rfl
  | retried fault ms hretry hms => simp [hfault, hretry, Deed.perform]
  | failed fault f hretry hf => simp [hfault, hretry, Deed.perform]

/-- **The caller after a step has done the deeds of the step**, and nothing else. -/
theorem step_performs (c : Caller) (b : Bus H) (now draw : Nat) (call : Call) :
    (c.step b now draw call).2.1 =
      (c.deeds b now draw call).foldl (Deed.perform now call.topic) c := by
  have hbranch := step_branches c b now draw call
  unfold deeds
  generalize c.opening b now call = ds, c.step b now draw call = t at hbranch ⊢
  cases hbranch with
  | barred fault _ hready hask hbus =>
    have htakes := takeResult_takes (c.asked now call) now draw call (.error fault)
    have hperforms := takeResult_performs (c.asked now call) now draw call _ htakes
    exact hperforms
  | hears ticket r _ hphase hbus =>
    exact takeResult_performs c now draw call r (takeResult_takes c now draw call r)
  | _ => rfl

@[simp] theorem perform_config (now : Nat) (topic : String) (c : Caller) (d : Deed) :
    (d.perform now topic c).config = c.config := by
  unfold Deed.perform
  split
  · dsimp only
    split <;> rfl
  all_goals rfl

@[simp] theorem foldl_perform_config (now : Nat) (topic : String) (ds : List Deed) (c : Caller) :
    (ds.foldl (Deed.perform now topic) c).config = c.config := by
  induction ds generalizing c with
  | nil => rfl
  | cons d ds ih => rw [List.foldl_cons, ih, perform_config]

/-! ## Waiting -/

theorem attend_early {t : Ticket} {b' : Bus H} (h : b.attend now t = (none, b')) :
    now < t.deadline := by
  unfold Bus.attend at h
  split at h
  · cases h
  · split at h
    · cases h
    · split at h
      · cases h
      · next hearly => exact Nat.lt_of_not_le hearly

/-- **A call stands still only before its time.** -/
theorem Goes.early {ds : List Deed} {b' : Bus H} (h : Goes c b now draw call ds .stuck b') :
    ∃ t, wakesAt? call = some t ∧ now < t := by
  cases h with
  | waits ticket _ hphase hbus => exact ⟨_, by rw [wakesAt?, hphase], attend_early hbus⟩
  | rests wake hphase hearly => exact ⟨_, by rw [wakesAt?, hphase], hearly⟩
  | barred _ _ _ _ _ _ _ htakes => cases htakes
  | hears _ _ _ _ _ _ _ htakes => cases htakes

/-- A call stands still exactly when it does nothing. -/
theorem Goes.stuck_iff {ds : List Deed} {outcome : CallStep} {b' : Bus H}
    (h : Goes c b now draw call ds outcome b') : outcome = .stuck ↔ ds = [] := by
  cases h with
  | barred _ _ _ _ _ _ _ htakes => cases htakes <;> simp
  | hears _ _ _ _ _ _ _ htakes => cases htakes <;> simp
  | _ => simp

end Caller
end Switchboard
