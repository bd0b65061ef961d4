import Mathlib.Logic.Function.Basic
import Switchboard.Proofs.Caller.Backoff
import Switchboard.Proofs.Caller.Script
import Switchboard.Proofs.Caller.Session

/-
  Calls follow the retry policy.

  Many calls go on at a time, circuits and bus change between any two of their
  steps, and yet what each call does is the script of how its own attempts fare.

  * `Fares` sorts the steps of a call by what they are of the policy: nothing, a
    request, the end of a round, or the last attempt; `goes_fares` says that there
    are no others;
  * `Story.Keeps` is what a call has done when it keeps to the policy, and
    `run_keeps`: every call does, at any time;
  * `Story.Keeps.follows` reads that off as a beginning of the script, and as all
    of it once the call has ended.
-/

namespace Switchboard.Caller

variable {H : Type} {config : CallerConfig}

/-! ## The steps of a call, and the policy -/

/-- The retries a call was opened with. -/
def Story.retries (f : Story) : Nat := f.opened.maxRetries.toNat

/-- What a call has done of the attempt it is in. -/
def begun (call : Call) : List Deed :=
  match call.phase with
  | .asking _ => [.ask true, .send]
  | _ => []

theorem begun_ready {now : Nat} {call : Call} (h : isReady now call = true) : begun call = [] := by
  unfold isReady at h
  unfold begun
  split at h <;> simp_all

/-- What a step of a call is of the retry policy. -/
inductive Fares (config : CallerConfig) (draw : Nat) (call : Call) :
    List Deed → CallStep → Prop where
  | stands : Fares config draw call [] .stuck
  | asks (ticket : Ticket) (hbegun : begun call = []) :
    Fares config draw call [.ask true, .send] (.moved { call with phase := .asking ticket })
  | round (w : Fare) (wake : Nat) (ds : List Deed)
      (hpause : w.pauseMs = config.pauseMs draw call.attempts.toNat)
      (hagain : w.again call.topic = true) (hleft : call.attempts < call.maxRetries)
      (hds : begun call ++ ds = w.round) :
    Fares config draw call ds
      (.moved { call with attempts := call.attempts + 1, phase := .pausing wake })
  | last (w : Fare) (result : CallResult) (ds : List Deed)
      (hpause : w.pauseMs = config.pauseMs draw call.attempts.toNat)
      (hlast : w.again call.topic = true → call.maxRetries ≤ call.attempts)
      (hds : begun call ++ ds = w.last call.topic call.attempts.toNat)
      (hresult : ds.getLast? = some (.finish result)) :
    Fares config draw call ds (.done result)

theorem toNat_succ {n r : UInt32} (hn : n ≤ r) (hr : r.toNat < UInt32.size - 1) :
    (n + 1).toNat = n.toNat + 1 := by
  have hle : n.toNat ≤ r.toNat := UInt32.le_iff_toNat_le.1 hn
  rw [UInt32.toNat_add]
  exact Nat.mod_eq_of_lt (by simp [UInt32.size] at hr ⊢; omega)

theorem succ_le {n r : UInt32} (hn : n ≤ r) (hr : r.toNat < UInt32.size - 1) :
    n + 1 ≤ r ↔ n < r := by
  rw [UInt32.le_iff_toNat_le, toNat_succ hn hr, UInt32.lt_iff_toNat_lt]
  exact Iff.rfl

section Step

variable {call : Call} {now draw : Nat} (hattempts : call.attempts ≤ call.maxRetries)
  (hretries : call.maxRetries.toNat < UInt32.size - 1)

include hattempts hretries

/-- Taking in the result of an attempt ends its round, or the call. -/
theorem takes_fares {reply : Reply} {ds : List Deed} {outcome : CallStep}
    (h : Takes config now draw call reply ds outcome) (pre : List Deed)
    (hpre : begun call ++ pre = [.ask true, .send]) :
    Fares config draw call (pre ++ ds) outcome := by
  -- `pre` is what the step did of the attempt before it took in the result
  have happend : ∀ ds, begun call ++ (pre ++ ds) = .ask true :: .send :: ds := by
    intro ds
    rw [← List.append_assoc, hpre]
    rfl
  cases h with
  | succeeded v =>
    refine .last ⟨true, .ok v, config.pauseMs draw call.attempts.toNat⟩ _ _ rfl ?_ (happend _) ?_
    · simp [Fare.again]
    · simp
  | retried fault ms hretry hms =>
    obtain ⟨hretriable, hleft⟩ : (CallFault.ofBus fault call.topic).retriable = true ∧
        call.attempts + 1 ≤ call.maxRetries := by simpa [retries] using hretry
    refine .round ⟨true, .error fault, ms⟩ _ _ hms ?_ ?_ (happend _)
    · simpa [Fare.again] using hretriable
    · exact (succ_le hattempts hretries).1 hleft
  | failed fault f hretry hf =>
    have hlast : (CallFault.ofBus fault call.topic).retriable = true →
        call.maxRetries ≤ call.attempts := by
      intro hretriable
      have hleft : ¬ call.attempts + 1 ≤ call.maxRetries := by
        simpa [retries, hretriable] using hretry
      rw [succ_le hattempts hretries] at hleft
      exact UInt32.not_lt.1 hleft
    rw [toNat_succ hattempts hretries] at hf
    refine .last ⟨true, .error fault, config.pauseMs draw call.attempts.toNat⟩ _ _ rfl ?_ ?_ ?_
    · simpa [Fare.again] using hlast
    · rw [happend, hf]
      rfl
    · simp

theorem goes_fares {c : Caller} {b b' : Bus H} {ds : List Deed} {outcome : CallStep}
    (h : Goes c b now draw call ds outcome b') : Fares c.config draw call ds outcome := by
  cases h with
  | waits => exact .stands
  | rests => exact .stands
  | refused f hready hask hf =>
    refine .last ⟨false, .error .shutdown, c.config.pauseMs draw call.attempts.toNat⟩ _ _ rfl
      ?_ ?_ ?_
    · simp [Fare.again]
    · rw [begun_ready hready, hf]
      rfl
    · simp
  | asks ticket _ hready => exact .asks ticket (begun_ready hready)
  | barred fault _ ds _ hready hask hbus htakes =>
    exact takes_fares hattempts hretries htakes [.ask true, .send]
      (by rw [begun_ready hready]; rfl)
  | hears ticket r _ ds _ hphase hbus htakes =>
    exact takes_fares hattempts hretries htakes [] (by simp [begun, hphase])

end Step

/-! ## Following the policy -/

/-- Attempts with pauses as the settings have them. -/
def Suits (config : CallerConfig) (w : Nat → Fare) : Prop :=
  ∀ i, (w i).pauseMs ≤ config.backoffMs i ∧
    (config.jitter = false → (w i).pauseMs = config.backoffMs i)

theorem Suits.update {w : Nat → Fare} (h : Suits config w) (k draw : Nat) {x : Fare}
    (hx : x.pauseMs = config.pauseMs draw k) : Suits config (Function.update w k x) := by
  intro i
  by_cases hi : i = k
  · subst hi
    rw [Function.update_self, hx]
    exact ⟨CallerConfig.pauseMs_le draw i, fun h => CallerConfig.pauseMs_steady h draw i⟩
  · rw [Function.update_of_ne hi]
    exact h i

theorem rounds_update (w : Nat → Fare) (k : Nat) (x : Fare) :
    rounds (Function.update w k x) k = rounds w k :=
  rounds_congr fun i hi => by rw [Function.update_of_ne (Nat.ne_of_lt hi)]

/-- A call under way that has made some attempts, all of them retried, and is in
    the next one. -/
structure Amid (w : Nat → Fare) (f : Story) (call : Call) : Prop where
  topic : call.topic = f.opened.topic
  maxRetries : call.maxRetries = f.opened.maxRetries
  within : call.attempts ≤ call.maxRetries
  again : ∀ i < call.attempts.toNat, (w i).again f.opened.topic = true
  deeds : f.deeds = rounds w call.attempts.toNat ++ begun call

/-- A call that follows the policy when its attempts fare as `w` says. -/
def Story.Keeps (f : Story) (w : Nat → Fare) : Prop :=
  match f.standing with
  | .underWay call => Amid w f call
  | .ended result =>
    f.deeds = script f.opened.topic w f.retries 0 ∧ f.deeds.getLast? = some (.finish result)
  | .givenUp => f.deeds <+: script f.opened.topic w f.retries 0

namespace Amid

variable {w : Nat → Fare} {f : Story} {call : Call} {ds : List Deed} {x : Fare} {draw : Nat}

theorem attempts_le (h : Amid w f call) : call.attempts.toNat ≤ f.retries := by
  have hle := UInt32.le_iff_toNat_le.1 h.within
  rwa [h.maxRetries] at hle

theorem again_update (h : Amid w f call) (x : Fare) :
    ∀ i < call.attempts.toNat,
      (Function.update w call.attempts.toNat x i).again f.opened.topic = true := by
  intro i hi
  rw [Function.update_of_ne (Nat.ne_of_lt hi)]
  exact h.again i hi

/-- The script of a call, as far as it is known. -/
theorem script_eq (h : Amid w f call) (x : Fare) :
    let w' := Function.update w call.attempts.toNat x
    script f.opened.topic w' f.retries 0 =
      rounds w call.attempts.toNat ++
        script f.opened.topic w' (f.retries - call.attempts.toNat) call.attempts.toNat := by
  intro w'
  rw [script_rounds h.attempts_le (h.again_update x), rounds_update]

/-- A call in an attempt has done a beginning of its script. -/
theorem prefix_script (h : Amid w f call) (hx : x.admitted = true) :
    f.deeds <+: script f.opened.topic (Function.update w call.attempts.toNat x) f.retries 0 := by
  rw [h.script_eq x, h.deeds]
  refine (List.prefix_append_right_inj _).2 ?_
  unfold begun
  split
  · exact script_admitted (by rw [Function.update_self, hx])
  · exact List.nil_prefix

/-- However the attempt goes on that it is in, a call follows some script. -/
theorem exists_script (h : Amid w f call) (hsuits : Suits config w) :
    ∃ w', Suits config w' ∧ f.deeds <+: script f.opened.topic w' f.retries 0 := by
  -- nothing but the question and the request was done of it, so any result will do
  let x : Fare := ⟨true, .error .shutdown, config.pauseMs 0 call.attempts.toNat⟩
  exact ⟨_, hsuits.update call.attempts.toNat 0 (x := x) rfl, h.prefix_script (x := x) rfl⟩

/-- With its last attempt a call has done its script. -/
theorem last_script (h : Amid w f call)
    (hlast : x.again call.topic = true → call.maxRetries ≤ call.attempts)
    (hds : begun call ++ ds = x.last call.topic call.attempts.toNat) :
    f.deeds ++ ds =
      script f.opened.topic (Function.update w call.attempts.toNat x) f.retries 0 := by
  rw [h.topic] at hlast hds
  rw [h.script_eq x, h.deeds, List.append_assoc, hds, script_last, Function.update_self]
  intro hagain
  rw [Function.update_self] at hagain
  have hle := UInt32.le_iff_toNat_le.1 (hlast hagain)
  rw [h.maxRetries] at hle
  exact Nat.sub_eq_zero_of_le hle

/-- With the end of a round a call is in its next attempt. -/
theorem next_round (h : Amid w f call) (hretries : call.maxRetries.toNat < UInt32.size - 1)
    (hagain : x.again call.topic = true) (hleft : call.attempts < call.maxRetries)
    (hds : begun call ++ ds = x.round) (wake : Nat) {f' : Story} (hopened : f'.opened = f.opened)
    (hf' : f'.deeds = f.deeds ++ ds) :
    Amid (Function.update w call.attempts.toNat x) f'
      { call with attempts := call.attempts + 1, phase := .pausing wake } := by
  have hsucc : (call.attempts + 1).toNat = call.attempts.toNat + 1 := toNat_succ h.within hretries
  refine ⟨?_, ?_, ?_, ?_, ?_⟩
  · rw [hopened]
    exact h.topic
  · rw [hopened]
    exact h.maxRetries
  · exact (succ_le h.within hretries).2 hleft
  · intro i hi
    rw [hopened]
    rw [hsucc] at hi
    rcases Nat.lt_succ_iff_lt_or_eq.1 hi with hi | rfl
    · exact h.again_update x i hi
    · rw [Function.update_self, ← h.topic]
      exact hagain
  · dsimp only
    rw [hf', h.deeds, List.append_assoc, hds, hsucc, rounds, rounds_update, Function.update_self]
    exact (List.append_nil _).symm

end Amid

/-- **A step of a call keeps to the policy.** -/
theorem Fares.keeps {w : Nat → Fare} {f : Story} {call : Call} {draw now : Nat} {ds : List Deed}
    {outcome : CallStep} (h : Fares config draw call ds outcome) (hamid : Amid w f call)
    (hsuits : Suits config w) (hretries : call.maxRetries.toNat < UInt32.size - 1) :
    let f' := { f with standing := outcome.standing call, log := f.log ++ ds.map (now, ·) }
    ∃ w', Suits config w' ∧ f'.Keeps w' := by
  intro f'
  have hdeeds : f'.deeds = f.deeds ++ ds := deeds_extended f _ now ds
  cases h with
  | stands =>
    refine ⟨w, hsuits, ?_⟩
    have hsame : f'.deeds = f.deeds := by simpa using hdeeds
    exact { hamid with deeds := hsame.trans hamid.deeds }
  | asks ticket hbegun =>
    refine ⟨w, hsuits, ?_⟩
    have hbegins : f'.deeds = rounds w call.attempts.toNat ++ [.ask true, .send] := by
      rw [hdeeds, hamid.deeds, hbegun, List.append_nil]
    exact { hamid with deeds := hbegins }
  | round x wake ds hpause hagain hleft hds =>
    exact ⟨_, hsuits.update _ _ hpause, hamid.next_round hretries hagain hleft hds wake rfl hdeeds⟩
  | last x result ds hpause hlast hds hresult =>
    refine ⟨_, hsuits.update _ _ hpause, hdeeds.trans (hamid.last_script hlast hds), ?_⟩
    rw [hdeeds, List.getLast?_append, hresult]
    rfl

/-- **Every call keeps to the policy**, whatever happens around it. -/
theorem run_keeps (config : CallerConfig) (bus : Bus H) (acts : List (Act H)) :
    ∀ f ∈ ((Session.start config bus).run acts).stories, f.retries < UInt32.size - 1 →
      ∃ w, Suits config w ∧ f.Keeps w := by
  refine Session.story_induction ?_ ?_ ?_ bus acts
  · intro call hattempts hphase hretries
    -- no attempt was made yet, so they may fare in any way that suits
    refine ⟨fun i => ⟨true, .error .shutdown, config.backoffMs i⟩,
      fun i => ⟨Nat.le_refl _, fun _ => rfl⟩, ?_⟩
    refine ⟨rfl, rfl, ?_, ?_, ?_⟩
    · rw [hattempts]
      exact UInt32.zero_le
    · simp [hattempts]
    · simp [hattempts, hphase, rounds, begun, Story.deeds]
  · rintro f call c b b' now draw ds outcome rfl hstanding hf hgoes hretries
    obtain ⟨w, hsuits, hkeeps⟩ := hf hretries
    have hamid : Amid w f call := by simpa [Story.Keeps, hstanding] using hkeeps
    have hcall : call.maxRetries.toNat < UInt32.size - 1 := by
      rw [hamid.maxRetries]
      exact hretries
    exact (goes_fares hamid.within hcall hgoes).keeps hamid hsuits hcall
  · intro f call hstanding hf hretries
    obtain ⟨w, hsuits, hkeeps⟩ := hf hretries
    have hamid : Amid w f call := by simpa [Story.Keeps, hstanding] using hkeeps
    exact hamid.exists_script hsuits

/-- What a call has done is a beginning of its script, and all of it once the call
    has ended. -/
theorem Story.Keeps.follows {f : Story} {w : Nat → Fare} (h : f.Keeps w)
    (hsuits : Suits config w) :
    ∃ w, Suits config w ∧ f.deeds <+: script f.opened.topic w f.retries 0 ∧
      ∀ result, f.standing = .ended result →
        f.deeds = script f.opened.topic w f.retries 0 ∧
        Complete f.opened.topic f.retries 0 f.deeds result := by
  unfold Story.Keeps at h
  cases hstanding : f.standing with
  | underWay call =>
    rw [hstanding] at h
    obtain ⟨w', hsuits', hprefix⟩ := Amid.exists_script h hsuits
    refine ⟨w', hsuits', hprefix, ?_⟩
    rintro result ⟨⟩
  | ended result =>
    rw [hstanding] at h
    obtain ⟨hscript, hends⟩ := h
    obtain ⟨result', hcomplete⟩ := script_complete f.opened.topic w f.retries 0
    rw [← hscript] at hcomplete
    obtain rfl := hcomplete.result_eq hends
    refine ⟨w, hsuits, hscript ▸ List.prefix_refl _, ?_⟩
    rintro _ ⟨⟩
    exact ⟨hscript, hcomplete⟩
  | givenUp =>
    rw [hstanding] at h
    exact ⟨w, hsuits, h, by simp⟩

end Switchboard.Caller
