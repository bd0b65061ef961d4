import Mathlib.Data.List.Induction
import Switchboard.Proofs.Caller.Deeds

/-
  Sessions of a caller — many calls at a time, and everything around them.

  A session is a caller with a bus, a clock and the story of every call that was
  opened: how it stands and what it has done so far, with the times.  Acts come
  in any order: calls are opened, carried on by one step, given up; the caller
  sweeps; time passes; and circuits and bus may be changed from outside in any
  way between two steps of a call.

  * `Act` lists what can happen, `Session.step` lets it happen;
  * `story_induction`: what holds of a call that was just opened and is kept by a
    step of it, whichever way it goes, holds of every call at any time;
  * `place_run` and `poll_run`: the operations of the caller are runs of such acts.
-/

namespace Switchboard.Caller

variable {H : Type}

/-! ## Stories -/

/-- How a call stands. -/
inductive Standing where
  | underWay (call : Call)
  | ended (result : CallResult)
  | givenUp

namespace Standing

@[simp] def isUnderWay : Standing → Bool
  | underWay _ => true
  | _ => false

@[simp] def isEnded : Standing → Bool
  | ended _ => true
  | _ => false

@[simp] def isGivenUp : Standing → Bool
  | givenUp => true
  | _ => false

end Standing

/-- How a call stands after a step of it. -/
def CallStep.standing (call : Call) : CallStep → Standing
  | .stuck => .underWay call
  | .moved call' => .underWay call'
  | .done r => .ended r

/-- A call, with what it has done and when. -/
structure Story where
  /-- the call as it was opened -/
  opened : Call
  standing : Standing
  log : List (Nat × Deed)

def Story.deeds (f : Story) : List Deed := f.log.map (·.2)

@[simp] theorem deeds_extended (f : Story) (standing : Standing) (now : Nat) (ds : List Deed) :
    Story.deeds { f with standing, log := f.log ++ ds.map (now, ·) } = f.deeds ++ ds := by
  simp [Story.deeds, Function.comp_def]

/-! ## Sessions -/

/-- What can happen to a caller. -/
inductive Act (H : Type) where
  /-- opens a call -/
  | place (topic : String) (payload : Json) (options : CallOptions)
  /-- carries the call at this place on by one step; `draw` is drawn for a pause -/
  | carry (n draw : Nat)
  /-- gives the call at this place up -/
  | abandon (n : Nat)
  | sweep
  | wait (ms : Nat)
  /-- something else changes circuits and bus -/
  | outside (circuits : Circuits) (bus : Bus H)

/-- A caller amid what happens to it. -/
structure Session (H : Type) where
  caller : Caller
  bus : Bus H
  now : Nat := 0
  /-- all calls that were opened, in order -/
  stories : List Story := []

/-- The call that is opened on a topic. -/
def newCall (c : Caller) (topic : String) (payload : Json) (o : CallOptions) : Call :=
  { id := c.nextCall, topic, payload, priority := o.priority
    timeoutMs := o.timeoutMs.getD c.config.timeoutMs
    maxRetries := o.retries.getD (UInt32.ofNat c.config.retries)
    attempts := 0, phase := .starting }

/-- The caller when a call has been opened. -/
def enter (c : Caller) (now : Nat) (call : Call) : Caller :=
  { c with
    nextCall := c.nextCall + 1
    inFlight := c.inFlight ++ [(call.id, now)] }.count fun n => { n with calls := n.calls + 1 }

/-- The caller after a step of a call: a call that is done is not under way. -/
def leave (c : Caller) (id : Nat) : CallStep → Caller
  | .done _ => c.forget id
  | _ => c

@[simp] theorem leave_config (c : Caller) (id : Nat) (s : CallStep) :
    (c.leave id s).config = c.config := by
  cases s <;> rfl

@[simp] theorem leave_counters (c : Caller) (id : Nat) (s : CallStep) :
    (c.leave id s).counters = c.counters := by
  cases s <;> rfl

namespace Session

/-- The beginning of a session. -/
def start (config : CallerConfig) (bus : Bus H) : Session H := { caller := .create config, bus }

/-- Carries a call on by one step. -/
def carry (s : Session H) (n draw : Nat) (f : Story) (call : Call) : Session H :=
  let (outcome, caller, bus) := s.caller.step s.bus s.now draw call
  let log := f.log ++ (s.caller.deeds s.bus s.now draw call).map (s.now, ·)
  { s with
    caller := caller.leave call.id outcome
    bus
    stories := s.stories.set n { f with standing := outcome.standing call, log } }

/-- Lets something happen. -/
def step (s : Session H) : Act H → Session H
  | .place topic payload options =>
    match Address.topic topic with
    | .error _ => s
    | .ok () =>
      let call := s.caller.newCall topic payload options
      { s with
        caller := s.caller.enter s.now call
        stories := s.stories ++ [⟨call, .underWay call, []⟩] }
  | .carry n draw =>
    match s.stories[n]? with
    | some ⟨opened, .underWay call, log⟩ => s.carry n draw ⟨opened, .underWay call, log⟩ call
    | _ => s
  | .abandon n =>
    match s.stories[n]? with
    | some ⟨opened, .underWay call, log⟩ =>
      let (caller, bus) := s.caller.abandon s.bus call
      { s with caller, bus, stories := s.stories.set n ⟨opened, .givenUp, log⟩ }
    | _ => s
  | .sweep =>
    let (_, caller, bus) := s.caller.sweep s.bus s.now
    { s with caller, bus }
  | .wait ms => { s with now := s.now + ms }
  | .outside circuits bus => { s with caller := { s.caller with circuits }, bus }

/-- Lets a list of things happen. -/
def run (s : Session H) (acts : List (Act H)) : Session H := acts.foldl step s

theorem run_concat (s : Session H) (acts : List (Act H)) (a : Act H) :
    s.run (acts ++ [a]) = (s.run acts).step a := List.foldl_append

/-- **Invariants.**  What holds at first and is kept by every act holds after every
    run. -/
theorem run_induction {P : Session H → Prop} {s : Session H} (h₀ : P s)
    (h : ∀ s a, P s → P (s.step a)) (acts : List (Act H)) : P (s.run acts) := by
  induction acts using List.reverseRecOn with
  | nil => exact h₀
  | append_singleton acts a ih =>
    rw [run_concat]
    exact h _ a ih

/-! ## The ways an act can go -/

/-- What an act does to the caller and the stories of its calls. -/
inductive Moves (s : Session H) : Caller → List Story → Prop where
  | idle (circuits : Circuits) (inFlight : List (Nat × Nat)) (evictions : Nat) :
    Moves s { s.caller with circuits, inFlight, counters := { s.caller.counters with evictions } }
      s.stories
  | opens (call : Call) (hid : call.id = s.caller.nextCall) (hphase : call.phase = .starting)
      (hattempts : call.attempts = 0) :
    Moves s (s.caller.enter s.now call) (s.stories ++ [⟨call, .underWay call, []⟩])
  | carries (n draw : Nat) (f : Story) (call : Call) (ds : List Deed) (outcome : CallStep)
      (b' : Bus H) (hf : s.stories[n]? = some f) (hstanding : f.standing = .underWay call)
      (hgoes : Goes s.caller s.bus s.now draw call ds outcome b') :
    Moves s ((ds.foldl (Deed.perform s.now call.topic) s.caller).leave call.id outcome)
      (s.stories.set n
        { f with standing := outcome.standing call, log := f.log ++ ds.map (s.now, ·) })
  | abandons (n : Nat) (f : Story) (call : Call) (hf : s.stories[n]? = some f)
      (hstanding : f.standing = .underWay call) :
    Moves s (s.caller.forget call.id) (s.stories.set n { f with standing := .givenUp })

/-- **Every act goes one of these ways.** -/
theorem step_moves (s : Session H) (a : Act H) : Moves s (s.step a).caller (s.step a).stories := by
  cases a with
  | place topic payload options =>
    unfold step
    dsimp only
    split
    · exact .idle _ _ _
    · exact .opens _ rfl rfl rfl
  | carry n draw =>
    unfold step
    dsimp only
    split
    · next opened call log hf =>
      have hmoves := Moves.carries n draw _ call _ _ _ hf rfl
        (step_goes s.caller s.bus s.now draw call)
      rw [← step_performs] at hmoves
      exact hmoves
    · exact .idle _ _ _
  | abandon n =>
    unfold step
    dsimp only
    split
    · next opened call log hf => exact .abandons n _ call hf rfl
    · exact .idle _ _ _
  | sweep => exact .idle _ _ _
  | wait ms => exact .idle _ _ _
  | outside circuits bus => exact .idle _ _ _

/-! ## One call at a time -/

section Stories

variable {config : CallerConfig} {P : Story → Prop}

/-- The stories after an act, each of them opened, carried on, given up or as it
    was. -/
theorem step_stories {s : Session H} {a : Act H} (hconfig : s.caller.config = config)
    (hopen : ∀ call : Call, call.attempts = 0 → call.phase = .starting →
      P ⟨call, .underWay call, []⟩)
    (hcarry : ∀ (f : Story) (call : Call) (c : Caller) (b b' : Bus H) (now draw : Nat)
      (ds : List Deed) (outcome : CallStep), c.config = config → f.standing = .underWay call →
      P f → Goes c b now draw call ds outcome b' →
      P { f with standing := outcome.standing call, log := f.log ++ ds.map (now, ·) })
    (habandon : ∀ (f : Story) (call : Call), f.standing = .underWay call → P f →
      P { f with standing := .givenUp })
    (h : ∀ f ∈ s.stories, P f) :
    (s.step a).caller.config = config ∧ ∀ f ∈ (s.step a).stories, P f := by
  have hmoves := s.step_moves a
  generalize (s.step a).caller = c', (s.step a).stories = fs at hmoves ⊢
  cases hmoves with
  | idle circuits inFlight evictions => exact ⟨hconfig, h⟩
  | opens call hid hphase hattempts =>
    refine ⟨hconfig, fun f hf => ?_⟩
    rcases List.mem_append.1 hf with hf | hf
    · exact h f hf
    · rw [List.mem_singleton.1 hf]
      exact hopen call hattempts hphase
  | carries n draw f call ds outcome b' hf hstanding hgoes =>
    refine ⟨?_, fun g hg => ?_⟩
    · rw [← hconfig, leave_config, foldl_perform_config]
    · rcases List.mem_or_eq_of_mem_set hg with hg | rfl
      · exact h g hg
      · exact hcarry f call _ _ b' _ draw ds outcome hconfig hstanding
          (h f (List.mem_of_getElem? hf)) hgoes
  | abandons n f call hf hstanding =>
    refine ⟨hconfig, fun g hg => ?_⟩
    rcases List.mem_or_eq_of_mem_set hg with hg | rfl
    · exact h g hg
    · exact habandon f call hstanding (h f (List.mem_of_getElem? hf))

/-- **Invariants of one call.**  What holds of a call that was just opened and is
    kept by a step of it, whichever way it goes, holds of every call at any time. -/
theorem story_induction
    (hopen : ∀ call : Call, call.attempts = 0 → call.phase = .starting →
      P ⟨call, .underWay call, []⟩)
    (hcarry : ∀ (f : Story) (call : Call) (c : Caller) (b b' : Bus H) (now draw : Nat)
      (ds : List Deed) (outcome : CallStep), c.config = config → f.standing = .underWay call →
      P f → Goes c b now draw call ds outcome b' →
      P { f with standing := outcome.standing call, log := f.log ++ ds.map (now, ·) })
    (habandon : ∀ (f : Story) (call : Call), f.standing = .underWay call → P f →
      P { f with standing := .givenUp })
    (bus : Bus H) (acts : List (Act H)) :
    ∀ f ∈ ((start config bus).run acts).stories, P f := by
  have hrun : ((start config bus).run acts).caller.config = config ∧
      ∀ f ∈ ((start config bus).run acts).stories, P f := by
    refine run_induction (P := fun s => s.caller.config = config ∧ ∀ f ∈ s.stories, P f) ?_ ?_ acts
    · exact ⟨rfl, by simp [start]⟩
    · rintro s a ⟨hconfig, h⟩
      exact step_stories hconfig hopen hcarry habandon h
  exact hrun.2

end Stories

end Session

/-! ## The operations of a caller -/

section Operations

variable {c : Caller} {b : Bus H} {now : Nat} {draws : Nat → Nat} {topic : String}

/-- Placing a call opens it and carries it on. -/
theorem place_eq (h : Address.topic topic = .ok ()) (payload : Json) (o : CallOptions) :
    let call := c.newCall topic payload o
    c.place b now draws topic payload o = (c.enter now call).poll b now draws call := by
  unfold place
  rw [h]
  rfl

/-- A call that is placed is the latest one, and is looked after at once. -/
theorem Session.place_run (s : Session H) (h : Address.topic topic = .ok ()) (payload : Json)
    (o : CallOptions) :
    let s' := s.step (.place topic payload o)
    ∃ call, s'.stories = s.stories ++ [⟨call, .underWay call, []⟩] ∧
      s.caller.place s.bus s.now draws topic payload o =
        s'.caller.poll s'.bus s'.now draws call := by
  refine ⟨s.caller.newCall topic payload o, ?_, ?_⟩
  · simp only [step, h]
  · simp only [step, h]
    exact place_eq h payload o

/-- How a call stands that was looked after. -/
def CallProgress.standing : CallProgress → Standing
  | .waiting call => .underWay call
  | .finished r => .ended r

theorem Session.step_carry {s : Session H} {n : Nat} {f : Story} {call : Call}
    (hf : s.stories[n]? = some f) (hstanding : f.standing = .underWay call) (draw : Nat) :
    s.step (.carry n draw) = s.carry n draw f call := by
  obtain ⟨opened, standing, log⟩ := f
  cases hstanding
  simp only [Session.step, hf]

/-- What a call does in a number of steps, it does in a run of its own. -/
theorem steps_run (fuel : Nat) {s : Session H} {n : Nat} {f : Story} {call : Call}
    (hf : s.stories[n]? = some f) (hstanding : f.standing = .underWay call) :
    ∃ (attempts : List Nat) (log : List (Nat × Deed)),
      s.run (attempts.map fun i => .carry n (draws i)) = { s with
        caller := (steps fuel s.caller s.bus s.now draws call).2.1
        bus := (steps fuel s.caller s.bus s.now draws call).2.2
        stories := s.stories.set n
          ⟨f.opened, (steps fuel s.caller s.bus s.now draws call).1.standing, log⟩ } := by
  induction fuel generalizing s f call with
  | zero =>
    obtain ⟨hn, rfl⟩ := List.getElem?_eq_some_iff.1 hf
    have hsame : s.stories.set n s.stories[n] = s.stories := List.set_getElem_self hn
    refine ⟨[], (s.stories[n]).log, ?_⟩
    rw [steps, CallProgress.standing, ← hstanding, hsame]
    rfl
  | succ fuel ih =>
    obtain ⟨hn, -⟩ := List.getElem?_eq_some_iff.1 hf
    have hcarry := s.step_carry hf hstanding (draws call.attempts.toNat)
    unfold Session.carry at hcarry
    unfold steps
    rcases hstep : s.caller.step s.bus s.now (draws call.attempts.toNat) call with ⟨outcome, c', b'⟩
    rw [hstep] at hcarry
    cases outcome with
    | stuck => exact ⟨[call.attempts.toNat], _, hcarry⟩
    | done r => exact ⟨[call.attempts.toNat], _, hcarry⟩
    | moved call' =>
      -- one act for the first step; the others start from the session it leaves
      have hnext : (s.step (.carry n (draws call.attempts.toNat))).stories[n]? =
          some ⟨f.opened, .underWay call', f.log ++
            (s.caller.deeds s.bus s.now (draws call.attempts.toNat) call).map (s.now, ·)⟩ := by
        rw [hcarry]
        exact List.getElem?_set_self hn
      obtain ⟨attempts, log, hrun⟩ := ih hnext rfl
      refine ⟨call.attempts.toNat :: attempts, log, ?_⟩
      rw [List.map_cons]
      change (s.step _).run _ = _
      rw [hrun, hcarry]
      simp [leave]

/-- Looking after a call carries it on as often as it can be. -/
theorem poll_run {s : Session H} {n : Nat} {f : Story} {call : Call}
    (hf : s.stories[n]? = some f) (hstanding : f.standing = .underWay call) :
    ∃ (attempts : List Nat) (log : List (Nat × Deed)),
      s.run (attempts.map fun i => .carry n (draws i)) = { s with
        caller := (s.caller.poll s.bus s.now draws call).2.1
        bus := (s.caller.poll s.bus s.now draws call).2.2
        stories := s.stories.set n
          ⟨f.opened, (s.caller.poll s.bus s.now draws call).1.standing, log⟩ } :=
  steps_run _ hf hstanding

end Operations

end Switchboard.Caller
