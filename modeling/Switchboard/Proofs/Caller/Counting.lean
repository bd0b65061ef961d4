import Switchboard.Proofs.Caller.Script
import Switchboard.Proofs.Caller.Session

/-
  What the counters of a caller count.

  Counters are shared by all calls, so what one of them says is a sum over the
  calls: each adds what it did itself, whatever the others do meanwhile.

  * `Counter` ties a counter to the deeds that raise it; `run_total`: it stands at
    the number of these deeds, over all calls;
  * `finishes`: a call ends once, and only then was counted as a success or a
    failure;
  * `books`: calls are successes, failures, calls under way and calls given up.
-/

namespace Switchboard.Caller

variable {H : Type}

/-! ## Totals -/

/-- How often calls did something of a kind. -/
def total (p : Deed → Bool) : List Story → Nat
  | [] => 0
  | f :: fs => f.deeds.countP p + total p fs

theorem total_concat (p : Deed → Bool) (fs : List Story) (f : Story) :
    total p (fs ++ [f]) = total p fs + f.deeds.countP p := by
  induction fs with
  | nil => exact Nat.add_comm ..
  | cons g fs ih =>
    rw [List.cons_append, total, total, ih]
    exact (Nat.add_assoc ..).symm

theorem total_set (p : Deed → Bool) {fs : List Story} {n : Nat} {f f' : Story} {ds : List Deed}
    (hf : fs[n]? = some f) (hf' : f'.deeds = f.deeds ++ ds) :
    total p (fs.set n f') = total p fs + ds.countP p := by
  induction fs generalizing n with
  | nil => simp at hf
  | cons g fs ih =>
    cases n with
    | zero =>
      obtain rfl : g = f := by simpa using hf
      rw [List.set_cons_zero, total, total, hf', List.countP_append]
      omega
    | succ n =>
      have hset := ih (n := n) (by simpa using hf)
      rw [List.set_cons_succ, total, total, hset]
      omega

/-! ## Counters -/

/-- A counter of a caller, and the deeds that raise it. -/
structure Counter (proj : CallerCounters → Nat) (p : Deed → Bool) : Prop where
  starts : proj {} = 0
  calls : ∀ n k, proj { n with calls := k } = proj n
  evictions : ∀ n k, proj { n with evictions := k } = proj n
  raises : ∀ now topic c d,
    proj (Deed.perform now topic c d).counters = proj c.counters + if p d then 1 else 0

theorem perform_counters (now : Nat) (topic : String) (c : Caller) (d : Deed) :
    (d.perform now topic c).counters =
      { c.counters with
        successes := c.counters.successes + if d.isSuccess then 1 else 0
        failures := c.counters.failures + if d.isFailure then 1 else 0
        retries := c.counters.retries + if d.isPause then 1 else 0
        timeouts := c.counters.timeouts + if d.isTimeout then 1 else 0
        refusals := c.counters.refusals + if d.isRefusal then 1 else 0 } := by
  cases d with
  | ask admitted => cases admitted <;> rfl
  | hear reply =>
    rcases reply with fault | v
    · cases fault <;> rfl
    · rfl
  | finish result => cases result <;> rfl
  | _ => rfl

theorem successes_counter : Counter (·.successes) Deed.isSuccess :=
  ⟨rfl, fun _ _ => rfl, fun _ _ => rfl, fun _ _ _ _ => by rw [perform_counters]⟩

theorem failures_counter : Counter (·.failures) Deed.isFailure :=
  ⟨rfl, fun _ _ => rfl, fun _ _ => rfl, fun _ _ _ _ => by rw [perform_counters]⟩

theorem retries_counter : Counter (·.retries) Deed.isPause :=
  ⟨rfl, fun _ _ => rfl, fun _ _ => rfl, fun _ _ _ _ => by rw [perform_counters]⟩

theorem timeouts_counter : Counter (·.timeouts) Deed.isTimeout :=
  ⟨rfl, fun _ _ => rfl, fun _ _ => rfl, fun _ _ _ _ => by rw [perform_counters]⟩

theorem refusals_counter : Counter (·.refusals) Deed.isRefusal :=
  ⟨rfl, fun _ _ => rfl, fun _ _ => rfl, fun _ _ _ _ => by rw [perform_counters]⟩

namespace Counter

variable {proj : CallerCounters → Nat} {p : Deed → Bool}

theorem foldl (h : Counter proj p) (now : Nat) (topic : String) (ds : List Deed) (c : Caller) :
    proj (ds.foldl (Deed.perform now topic) c).counters = proj c.counters + ds.countP p := by
  induction ds generalizing c with
  | nil => rfl
  | cons d ds ih =>
    rw [List.foldl_cons, ih, h.raises, List.countP_cons]
    omega

theorem step (h : Counter proj p) {s : Session H} (a : Act H)
    (hs : proj s.caller.counters = total p s.stories) :
    proj (s.step a).caller.counters = total p (s.step a).stories := by
  have hmoves := s.step_moves a
  generalize (s.step a).caller = c', (s.step a).stories = fs at hmoves ⊢
  cases hmoves with
  | idle circuits inFlight evictions => exact (h.evictions _ _).trans hs
  | opens call hid hphase hattempts =>
    -- a call that was just opened has done nothing
    rw [total_concat, ← hs]
    exact h.calls _ _
  | carries n draw f call ds outcome b' hf hstanding hgoes =>
    rw [leave_counters, h.foldl, hs, total_set p hf (deeds_extended f _ s.now ds)]
  | abandons n f call hf hstanding =>
    have hdeeds : Story.deeds { f with standing := .givenUp } = f.deeds ++ [] :=
      (List.append_nil f.deeds).symm
    exact hs.trans (total_set p hf hdeeds).symm

/-- **A counter stands at the number of the deeds that raise it**, over all calls. -/
theorem run_total (h : Counter proj p) (config : CallerConfig) (bus : Bus H)
    (acts : List (Act H)) :
    let s := (Session.start config bus).run acts
    proj s.caller.counters = total p s.stories :=
  Session.run_induction (P := fun s => proj s.caller.counters = total p s.stories) h.starts
    (fun _ a hs => h.step a hs) acts

end Counter

/-! ## Ends -/

theorem Goes.finishes {c : Caller} {b b' : Bus H} {now draw : Nat} {call : Call} {ds : List Deed}
    {outcome : CallStep} (h : Goes c b now draw call ds outcome b') :
    ds.countP Deed.isSuccess + ds.countP Deed.isFailure =
      if (outcome.standing call).isEnded then 1 else 0 := by
  have htakes : ∀ {reply ds outcome}, Takes c.config now draw call reply ds outcome →
      ds.countP Deed.isSuccess + ds.countP Deed.isFailure =
        if (outcome.standing call).isEnded then 1 else 0 := by
    intro reply ds outcome h
    cases h <;> simp [CallStep.standing]
  cases h with
  | barred _ _ ds _ _ _ _ h => simpa using htakes h
  | hears _ _ _ _ _ _ _ h => exact htakes h
  | _ => simp [CallStep.standing]

/-- **A call ends once**: it was counted as a success or as a failure if it has
    ended, and as neither before. -/
theorem run_finishes (config : CallerConfig) (bus : Bus H) (acts : List (Act H)) :
    ∀ f ∈ ((Session.start config bus).run acts).stories,
      f.deeds.countP Deed.isSuccess + f.deeds.countP Deed.isFailure =
        if f.standing.isEnded then 1 else 0 := by
  refine Session.story_induction ?_ ?_ ?_ bus acts
  · intro call hattempts hphase
    simp [Story.deeds]
  · intro f call c b b' now draw ds outcome hconfig hstanding hf hgoes
    have hfinishes := hgoes.finishes
    simp only [hstanding, Standing.isEnded, Bool.false_eq_true, if_false] at hf
    rw [deeds_extended, List.countP_append, List.countP_append, ← hfinishes]
    omega
  · intro f call hstanding hf
    simpa [hstanding, Story.deeds] using hf

theorem length_standing (fs : List Story) :
    fs.length = fs.countP (·.standing.isEnded) + fs.countP (·.standing.isUnderWay) +
      fs.countP (·.standing.isGivenUp) := by
  induction fs with
  | nil => rfl
  | cons f fs ih =>
    rw [List.length_cons, List.countP_cons, List.countP_cons, List.countP_cons, ih]
    cases f.standing <;> simp <;> omega

theorem total_finishes {fs : List Story}
    (h : ∀ f ∈ fs, f.deeds.countP Deed.isSuccess + f.deeds.countP Deed.isFailure =
      if f.standing.isEnded then 1 else 0) :
    total Deed.isSuccess fs + total Deed.isFailure fs = fs.countP (·.standing.isEnded) := by
  induction fs with
  | nil => rfl
  | cons f fs ih =>
    have hf := h f List.mem_cons_self
    have hfs := ih fun g hg => h g (List.mem_cons_of_mem _ hg)
    rw [total, total, List.countP_cons, ← hfs, ← hf]
    omega

theorem foldl_calls (now : Nat) (topic : String) (ds : List Deed) (c : Caller) :
    (ds.foldl (Deed.perform now topic) c).counters.calls = c.counters.calls := by
  induction ds generalizing c with
  | nil => rfl
  | cons d ds ih => rw [List.foldl_cons, ih, perform_counters]

theorem run_calls (config : CallerConfig) (bus : Bus H) (acts : List (Act H)) :
    let s := (Session.start config bus).run acts
    s.caller.counters.calls = s.stories.length := by
  refine Session.run_induction (P := fun s => s.caller.counters.calls = s.stories.length) rfl
    (fun s a hs => ?_) acts
  have hmoves := s.step_moves a
  generalize (s.step a).caller = c', (s.step a).stories = fs at hmoves ⊢
  cases hmoves with
  | idle circuits inFlight evictions => exact hs
  | opens call hid hphase hattempts =>
    rw [List.length_append]
    exact congrArg (· + 1) hs
  | carries n draw f call ds outcome b' hf hstanding hgoes =>
    rw [List.length_set, leave_counters, foldl_calls, hs]
  | abandons n f call hf hstanding =>
    rw [List.length_set]
    exact hs

/-- **The books of a caller**: its calls are those that succeeded, those that
    failed, those under way and those that were given up. -/
theorem books (config : CallerConfig) (bus : Bus H) (acts : List (Act H)) :
    let s := (Session.start config bus).run acts
    s.caller.counters.calls =
      s.caller.counters.successes + s.caller.counters.failures +
        s.stories.countP (·.standing.isUnderWay) + s.stories.countP (·.standing.isGivenUp) := by
  intro s
  have hcalls : s.caller.counters.calls = s.stories.length := run_calls config bus acts
  have hsuccesses : s.caller.counters.successes = total Deed.isSuccess s.stories :=
    successes_counter.run_total config bus acts
  have hfailures : s.caller.counters.failures = total Deed.isFailure s.stories :=
    failures_counter.run_total config bus acts
  have hends : total Deed.isSuccess s.stories + total Deed.isFailure s.stories =
      s.stories.countP (·.standing.isEnded) := total_finishes (run_finishes config bus acts)
  have hlength := length_standing s.stories
  omega

/-- What the counters of a caller say about its calls. -/
structure Session.Counted (s : Session H) : Prop where
  calls : s.caller.counters.calls = s.stories.length
  successes : s.caller.counters.successes = total Deed.isSuccess s.stories
  failures : s.caller.counters.failures = total Deed.isFailure s.stories
  retries : s.caller.counters.retries = total Deed.isPause s.stories
  timeouts : s.caller.counters.timeouts = total Deed.isTimeout s.stories
  refusals : s.caller.counters.refusals = total Deed.isRefusal s.stories
  /-- calls under way, and calls that were given up, are neither -/
  books : s.caller.counters.calls = s.caller.counters.successes + s.caller.counters.failures +
    s.stories.countP (·.standing.isUnderWay) + s.stories.countP (·.standing.isGivenUp)

theorem run_counted (config : CallerConfig) (bus : Bus H) (acts : List (Act H)) :
    ((Session.start config bus).run acts).Counted where
  calls := run_calls config bus acts
  successes := successes_counter.run_total config bus acts
  failures := failures_counter.run_total config bus acts
  retries := retries_counter.run_total config bus acts
  timeouts := timeouts_counter.run_total config bus acts
  refusals := refusals_counter.run_total config bus acts
  books := books config bus acts

end Switchboard.Caller
