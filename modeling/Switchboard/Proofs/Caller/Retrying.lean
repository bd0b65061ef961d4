import Switchboard.Proofs.Caller.Counting
import Switchboard.Proofs.Caller.Pacing

/-
  Calls that are retried, as a whole.

  * `retry_policy`: whatever happens to a caller, each of its calls does what the
    retry policy says for the way its own attempts fare, and comes to an end; and
    its counters are the sums of what the calls did.
-/

namespace Switchboard.Caller

variable {H : Type}

/-- What is known of one call at any time of a run. -/
structure Story.Lawful (config : CallerConfig) (f : Story) : Prop where
  /-- it has done a beginning of its script, and all of it once it has ended -/
  policy : ∃ w, Suits config w ∧ f.deeds <+: script f.opened.topic w f.retries 0 ∧
    ∀ result, f.standing = .ended result →
      f.deeds = script f.opened.topic w f.retries 0 ∧
      Complete f.opened.topic f.retries 0 f.deeds result
  /-- no pause was cut short -/
  rested : Rested f.log

theorem run_lawful (config : CallerConfig) (bus : Bus H) (acts : List (Act H)) :
    ∀ f ∈ ((Session.start config bus).run acts).stories, f.retries < UInt32.size - 1 →
      f.Lawful config := by
  intro f hf hretries
  obtain ⟨w, hsuits, hkeeps⟩ := run_keeps config bus acts f hf hretries
  exact ⟨hkeeps.follows hsuits, (run_rested config bus acts f hf).1⟩

/-- What a call has done is no longer than its script. -/
theorem Story.Lawful.length_le {config : CallerConfig} {f : Story} (h : f.Lawful config) :
    f.deeds.length ≤ 5 * (f.retries + 1) := by
  obtain ⟨w, -, hprefix, -⟩ := h.policy
  exact hprefix.length_le.trans (script_length f.opened.topic w f.retries 0)

/-- **The law of retries.**  At any time the counters of a caller are the sums of
    what its calls did; each call has kept to the policy, and can be carried on at
    its time only so often; what a step of it did is what the caller, the circuits
    and the bus had to do with it; looking after a call is a run of such steps,
    which leaves it only when it has ended or has to wait; and a call that is placed
    is looked after at once. -/
theorem retry_policy (config : CallerConfig) (bus : Bus H) (acts : List (Act H)) :
    let s := (Session.start config bus).run acts
    s.Counted ∧
    (∀ n f, s.stories[n]? = some f → f.retries < UInt32.size - 1 →
      f.Lawful config ∧ (Session.start config bus).dues n acts ≤ 5 * (f.retries + 1)) ∧
    (∀ n draw f call, s.stories[n]? = some f → f.standing = .underWay call →
      ∃ ds outcome b', Goes s.caller s.bus s.now draw call ds outcome b' ∧
        s.step (.carry n draw) = { s with
          caller := (ds.foldl (Deed.perform s.now call.topic) s.caller).leave call.id outcome
          bus := b'
          stories := s.stories.set n
            { f with standing := outcome.standing call, log := f.log ++ ds.map (s.now, ·) } }) ∧
    (∀ n draws f call, s.stories[n]? = some f → f.standing = .underWay call →
      f.retries < UInt32.size - 1 →
      let (p, caller, bus') := s.caller.poll s.bus s.now draws call
      (∃ (attempts : List Nat) (log : List (Nat × Deed)),
        s.run (attempts.map fun i => .carry n (draws i)) = { s with
          caller
          bus := bus'
          stories := s.stories.set n ⟨f.opened, p.standing, log⟩ }) ∧
      ∀ call', p = .waiting call' → ∃ t, wakesAt? call' = some t ∧ s.now < t) ∧
    ∀ draws topic payload o, Address.topic topic = .ok () →
      let s' := s.step (.place topic payload o)
      ∃ call, s'.stories = s.stories ++ [⟨call, .underWay call, []⟩] ∧
        s.caller.place s.bus s.now draws topic payload o =
          s'.caller.poll s'.bus s'.now draws call := by
  intro s
  refine ⟨run_counted config bus acts, ?_, ?_, ?_, ?_⟩
  · intro n f hf hretries
    have hlawful : f.Lawful config :=
      run_lawful config bus acts f (List.mem_of_getElem? hf) hretries
    refine ⟨hlawful, ?_⟩
    have hprogress : s.progress n = f.deeds.length := by
      simp [Session.progress, hf]
    have hdues := Session.dues_le n (Session.start config bus) acts
    have hlength := hlawful.length_le
    change _ ≤ s.progress n at hdues
    omega
  · intro n draw f call hf hstanding
    refine ⟨_, _, _, step_goes s.caller s.bus s.now draw call, ?_⟩
    rw [s.step_carry hf hstanding draw, ← step_performs]
    rfl
  · intro n draws f call hf hstanding hretries
    obtain ⟨w, -, hkeeps⟩ := run_keeps config bus acts f (List.mem_of_getElem? hf) hretries
    have hamid : Amid w f call := by simpa [Story.Keeps, hstanding] using hkeeps
    have hcall : call.maxRetries.toNat < UInt32.size - 1 := by
      rw [hamid.maxRetries]
      exact hretries
    exact ⟨poll_run hf hstanding, fun call' h => poll_waits hamid.within hcall h⟩
  · intro draws topic payload o htopic
    exact s.place_run htopic payload o

/-- A caller whose circuits open at the second failure in a row. -/
def wary : CallerConfig := { circuit := { threshold := 2 } }

/-- What becomes of it, on a bus of its own. -/
def waryRun (acts : List (Act Unit)) : Session Unit :=
  (Session.start wary (.create {} true)).run acts

/-- A call on a topic that nobody serves, up to the pause before its retry. -/
def unserved : List (Act Unit) :=
  [.place "svc" .null { timeoutMs := some 100, retries := some 1 }, .place "svc" .null {},
    .carry 0 0, .wait 100, .carry 0 0]

/-- Its retry fails as well, which opens the circuit before the other call. -/
def refused : List (Act Unit) :=
  unserved ++ [.wait 100, .carry 0 0, .wait 100, .carry 0 0, .carry 1 0]

/-- The first call fails with two attempts and the second with none.  Looking after
    the first while it pauses is of no use before its time. -/
theorem retry_policy_wary :
    ((waryRun refused).Counted ∧ (waryRun refused).caller.counters.failures = 2 ∧
      ∃ f₀ f₁ fault, (waryRun refused).stories = [f₀, f₁] ∧
        f₀.standing = .ended (.error fault) ∧ fault.attempts = 2 ∧ f₀.Lawful wary ∧
        f₁.standing = .ended (.error (refusal "svc" 0)) ∧ f₁.Lawful wary) ∧
    ∃ f call call' t, (waryRun unserved).stories[0]? = some f ∧ f.standing = .underWay call ∧
      ((waryRun unserved).caller.poll (waryRun unserved).bus (waryRun unserved).now
        CallerConfig.fullDraws call).1 = .waiting call' ∧
      wakesAt? call' = some t ∧ (waryRun unserved).now < t := by
  obtain ⟨f₀, f₁, fault, hstories, hf₀, hfault, hf₁, hretries₀, hretries₁⟩ : ∃ f₀ f₁ fault,
      (waryRun refused).stories = [f₀, f₁] ∧ f₀.standing = .ended (.error fault) ∧
      fault.attempts = 2 ∧ f₁.standing = .ended (.error (refusal "svc" 0)) ∧
      f₀.retries = 1 ∧ f₁.retries = 2 := ⟨_, _, _, rfl, rfl, rfl, rfl, rfl, rfl⟩
  obtain ⟨f, call, call', hf, hstanding, hretries, hpoll⟩ : ∃ f call call',
      (waryRun unserved).stories[0]? = some f ∧ f.standing = .underWay call ∧ f.retries = 1 ∧
      ((waryRun unserved).caller.poll (waryRun unserved).bus (waryRun unserved).now
        CallerConfig.fullDraws call).1 = .waiting call' := ⟨_, _, _, rfl, rfl, rfl, rfl⟩
  have hfailures : (waryRun refused).caller.counters.failures = 2 := rfl
  obtain ⟨hcounted, hlawful, -, -⟩ := retry_policy (H := Unit) wary (.create {} true) refused
  obtain ⟨-, -, -, hlooks, -⟩ := retry_policy (H := Unit) wary (.create {} true) unserved
  obtain ⟨-, hwaits⟩ :=
    hlooks 0 CallerConfig.fullDraws f call hf hstanding (by rw [hretries]; decide)
  obtain ⟨t, ht, hearly⟩ := hwaits call' hpoll
  refine ⟨⟨hcounted, hfailures, f₀, f₁, fault, hstories, hf₀, hfault, ?_, hf₁, ?_⟩,
    f, call, call', t, hf, hstanding, hpoll, ht, hearly⟩
  · exact (hlawful 0 f₀ (by change (waryRun refused).stories[0]? = _; rw [hstories]; rfl)
      (by rw [hretries₀]; decide)).1
  · exact (hlawful 1 f₁ (by change (waryRun refused).stories[1]? = _; rw [hstories]; rfl)
      (by rw [hretries₁]; decide)).1

end Switchboard.Caller
