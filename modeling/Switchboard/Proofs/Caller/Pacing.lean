import Mathlib.Data.List.Chain
import Switchboard.Proofs.Caller.Following

/-
  When calls go on.

  A call that pauses does nothing until the pause is over; a call whose time has
  come goes on whenever it is carried on.  As its script is short, it ends.

  * `run_rested`: no pause is cut short;
  * `dues_le`: a call can be carried on at its time only as often as its story is
    long;
  * `poll_waits`: the caller looks after a call until it has ended or has to wait.
-/

namespace Switchboard.Caller

variable {H : Type} {config : CallerConfig}

/-! ## Pauses -/

/-- A log in which nothing is done before a pause is over. -/
def Rested (log : List (Nat × Deed)) : Prop :=
  log.IsChain fun e e' => ∀ ms, e.2 = .pause ms → e.1 + ms ≤ e'.1

theorem rested_append {log log' : List (Nat × Deed)} :
    Rested (log ++ log') ↔ Rested log ∧ Rested log' ∧
      ∀ t ms, log.getLast? = some (t, .pause ms) → ∀ e ∈ log'.head?, t + ms ≤ e.1 := by
  unfold Rested
  rw [List.isChain_append]
  refine and_congr_right fun _ => and_congr_right fun _ => ?_
  constructor
  · intro h t ms hlast e he
    exact h _ hlast e he ms rfl
  · rintro h ⟨t, d⟩ hlast e he ms rfl
    exact h t ms hlast e he

theorem Takes.rests {now draw : Nat} {call : Call} {reply : Reply} {ds : List Deed}
    {outcome : CallStep} (h : Takes config now draw call reply ds outcome) (pre : List Deed)
    (hpre : pre = [] ∨ pre = [.ask true, .send]) :
    Rested ((pre ++ ds).map (now, ·)) ∧ ∀ ms, (pre ++ ds).getLast? = some (.pause ms) →
      ∃ call', outcome = .moved call' ∧ call'.phase = .pausing (now + ms) := by
  rcases hpre with rfl | rfl <;> cases h <;> simp [Rested]

/-- In one step a pause comes last, and the call wakes when it is over. -/
theorem Goes.rests_last {c : Caller} {b b' : Bus H} {now draw : Nat} {call : Call}
    {ds : List Deed} {outcome : CallStep} (h : Goes c b now draw call ds outcome b') :
    Rested (ds.map (now, ·)) ∧ ∀ ms, ds.getLast? = some (.pause ms) →
      ∃ call', outcome = .moved call' ∧ call'.phase = .pausing (now + ms) := by
  cases h with
  | barred _ _ ds _ _ _ _ htakes => exact htakes.rests [.ask true, .send] (.inr rfl)
  | hears _ _ _ ds _ _ _ htakes => exact htakes.rests [] (.inl rfl)
  | _ => simp [Rested]

/-- A call that pauses does nothing before it wakes. -/
theorem Goes.awake {c : Caller} {b b' : Bus H} {now draw wake : Nat} {call : Call}
    {ds : List Deed} {outcome : CallStep} (h : Goes c b now draw call ds outcome b')
    (hphase : call.phase = .pausing wake) (hds : ds ≠ []) : wake ≤ now := by
  have hready : ∀ {now}, isReady now call = true → wake ≤ now := by
    intro now h
    simpa [isReady, hphase] using h
  cases h with
  | waits => exact absurd rfl hds
  | rests => exact absurd rfl hds
  | refused _ h => exact hready h
  | asks _ _ h => exact hready h
  | barred _ _ _ _ h => exact hready h
  | hears _ _ _ _ _ h => simp [hphase] at h

/-- A call that has begun a pause is in it until it is over. -/
def Story.Pausing (f : Story) : Prop :=
  ∀ t ms call, f.log.getLast? = some (t, .pause ms) → f.standing = .underWay call →
    call.phase = .pausing (t + ms)

/-- **No pause is cut short.** -/
theorem run_rested (config : CallerConfig) (bus : Bus H) (acts : List (Act H)) :
    ∀ f ∈ ((Session.start config bus).run acts).stories, Rested f.log ∧ f.Pausing := by
  refine Session.story_induction ?_ ?_ ?_ bus acts
  · intro call hattempts hphase
    exact ⟨by simp [Rested], by simp [Story.Pausing]⟩
  · rintro f call c b b' now draw ds outcome hconfig hstanding ⟨hrested, hpausing⟩ hgoes
    obtain ⟨hds, hlast⟩ := hgoes.rests_last
    refine ⟨rested_append.2 ⟨hrested, hds, ?_⟩, ?_⟩
    · intro t ms hpause e he
      have hne : ds ≠ [] := by
        rintro rfl
        simp at he
      obtain ⟨d, -, rfl⟩ := List.mem_map.1 (List.mem_of_mem_head? he)
      exact hgoes.awake (hpausing t ms call hpause hstanding) hne
    · intro t ms call' hpause hstanding'
      rcases eq_or_ne ds [] with rfl | hne
      · obtain rfl := hgoes.stuck_iff.2 rfl
        cases hstanding'
        exact hpausing t ms call (by simpa using hpause) hstanding
      · rw [List.getLast?_append_of_ne_nil _ (by simpa using hne), List.getLast?_map] at hpause
        obtain ⟨d, hd, ⟨⟩⟩ := Option.map_eq_some_iff.1 hpause
        obtain ⟨call'', rfl, hphase⟩ := hlast ms hd
        cases hstanding'
        exact hphase
  · rintro f call hstanding ⟨hrested, hpausing⟩
    exact ⟨hrested, by simp [Story.Pausing]⟩


/-! ## Coming to an end -/

namespace Session

/-- Whether the call at a place can go on: it is under way, and its time has come. -/
def isDue (s : Session H) (n : Nat) : Bool :=
  match s.stories[n]? with
  | some ⟨_, .underWay call, _⟩ => (wakesAt? call).all (· ≤ s.now)
  | _ => false

/-- How much the call at a place has done. -/
def progress (s : Session H) (n : Nat) : Nat := (s.stories[n]?.map (·.deeds.length)).getD 0

/-- Whether an act carries the call at a place on at its time. -/
def carriesDue (s : Session H) (n : Nat) : Act H → Bool
  | .carry m _ => m = n && s.isDue n
  | _ => false

/-- How often a run carries the call at a place on at its time. -/
def dues (n : Nat) (s : Session H) : List (Act H) → Nat
  | [] => 0
  | a :: acts => (if s.carriesDue n a then 1 else 0) + dues n (s.step a) acts

/-- What a call has done it has done, whatever happens next. -/
theorem step_extends (s : Session H) (a : Act H) {n : Nat} {f : Story}
    (hf : s.stories[n]? = some f) :
    ∃ f', (s.step a).stories[n]? = some f' ∧ f.deeds <+: f'.deeds := by
  obtain ⟨hn, -⟩ := List.getElem?_eq_some_iff.1 hf
  have hset : ∀ {m g g'}, s.stories[m]? = some g → g.deeds <+: g'.deeds →
      ∃ f', (s.stories.set m g')[n]? = some f' ∧ f.deeds <+: f'.deeds := by
    intro m g g' hg hdeeds
    rcases eq_or_ne m n with rfl | hne
    · obtain rfl : g = f := Option.some.inj (hg.symm.trans hf)
      exact ⟨g', List.getElem?_set_self hn, hdeeds⟩
    · exact ⟨f, by rw [List.getElem?_set_ne hne, hf], List.prefix_refl _⟩
  have hmoves := s.step_moves a
  generalize (s.step a).caller = c', (s.step a).stories = fs at hmoves ⊢
  cases hmoves with
  | idle => exact ⟨f, hf, List.prefix_refl _⟩
  | opens call hid hphase hattempts =>
    exact ⟨f, by rw [List.getElem?_append_left hn, hf], List.prefix_refl _⟩
  | carries m draw g call ds outcome b' hg hstanding hgoes =>
    exact hset hg (by rw [deeds_extended]; exact List.prefix_append ..)
  | abandons m g call hg hstanding => exact hset hg (List.prefix_refl _)

/-- A call that is carried on at its time goes on. -/
theorem carry_due {s : Session H} {n : Nat} (hdue : s.isDue n = true) (draw : Nat) :
    s.progress n < (s.step (.carry n draw)).progress n := by
  unfold isDue at hdue
  split at hdue
  case h_2 => cases hdue
  case h_1 opened call log hf =>
  have hgoes := step_goes s.caller s.bus s.now draw call
  have hne : s.caller.deeds s.bus s.now draw call ≠ [] := by
    intro hnil
    rw [hgoes.stuck_iff.2 hnil] at hgoes
    obtain ⟨t, ht, hearly⟩ := hgoes.early
    have hlate : t ≤ s.now := by simpa [ht] using hdue
    omega
  have hlength := List.length_pos_of_ne_nil hne
  obtain ⟨hn, -⟩ := List.getElem?_eq_some_iff.1 hf
  unfold progress
  rw [s.step_carry hf rfl draw, hf]
  simp only [carry, List.getElem?_set_self hn, Option.map_some, Option.getD_some, Story.deeds,
    List.length_append, List.length_map]
  omega

theorem progress_step (s : Session H) (a : Act H) (n : Nat) :
    (if s.carriesDue n a then 1 else 0) + s.progress n ≤ (s.step a).progress n := by
  have hmono : s.progress n ≤ (s.step a).progress n := by
    unfold progress
    cases hf : s.stories[n]? with
    | none => exact Nat.zero_le _
    | some f =>
      obtain ⟨f', hf', hdeeds⟩ := s.step_extends a hf
      rw [hf']
      exact hdeeds.length_le
  split
  · next hcarries =>
    unfold carriesDue at hcarries
    split at hcarries
    · next m draw =>
      obtain ⟨rfl, hdue⟩ : m = n ∧ s.isDue n = true := by simpa using hcarries
      have := carry_due hdue draw
      omega
    · cases hcarries
  · simpa using hmono

/-- **A call can be carried on at its time only as often as its story is long.** -/
theorem dues_le (n : Nat) (s : Session H) (acts : List (Act H)) :
    dues n s acts + s.progress n ≤ (s.run acts).progress n := by
  induction acts generalizing s with
  | nil => exact Nat.le_of_eq (Nat.zero_add _)
  | cons a acts ih =>
    have hstep := s.progress_step a n
    have hrest := ih (s.step a)
    change _ ≤ ((s.step a).run acts).progress n
    unfold dues
    omega

end Session

/-! ## Looking after a call -/

/-- How many steps a call can still take without waiting. -/
def effort (call : Call) : Nat :=
  2 * (call.maxRetries.toNat - call.attempts.toNat) +
    match call.phase with
    | .asking _ => 1
    | _ => 2

/-- A step of a call that goes on leaves less to do. -/
theorem Fares.effort_lt {call call' : Call} {draw : Nat} {ds : List Deed}
    (h : Fares config draw call ds (.moved call')) (hattempts : call.attempts ≤ call.maxRetries)
    (hretries : call.maxRetries.toNat < UInt32.size - 1) :
    effort call' < effort call ∧ call'.attempts ≤ call'.maxRetries ∧
      call'.maxRetries = call.maxRetries := by
  cases h with
  | asks ticket hbegun =>
    refine ⟨?_, hattempts, rfl⟩
    unfold effort
    cases hphase : call.phase with
    | asking ticket' => simp [begun, hphase] at hbegun
    | _ => exact Nat.lt_succ_self _
  | round w wake ds hpause hagain hleft hds =>
    refine ⟨?_, (succ_le hattempts hretries).2 hleft, rfl⟩
    have hlt := UInt32.lt_iff_toNat_lt.1 hleft
    unfold effort
    dsimp only
    rw [toNat_succ hattempts hretries]
    split <;> omega

theorem steps_waits (fuel : Nat) {c : Caller} {b : Bus H} {now : Nat} {draws : Nat → Nat}
    {call call' : Call} (hfuel : effort call ≤ fuel) (hattempts : call.attempts ≤ call.maxRetries)
    (hretries : call.maxRetries.toNat < UInt32.size - 1)
    (h : (steps fuel c b now draws call).1 = .waiting call') :
    ∃ t, wakesAt? call' = some t ∧ now < t := by
  induction fuel generalizing c b call with
  | zero =>
    unfold effort at hfuel
    split at hfuel <;> omega
  | succ fuel ih =>
    have hgoes := step_goes c b now (draws call.attempts.toNat) call
    unfold steps at h
    rcases hstep : c.step b now (draws call.attempts.toNat) call with ⟨outcome, c', b'⟩
    rw [hstep] at h hgoes
    cases outcome with
    | stuck =>
      cases h
      exact hgoes.early
    | moved next =>
      obtain ⟨heffort, hattempts', hmax⟩ :=
        (goes_fares hattempts hretries hgoes).effort_lt hattempts hretries
      exact ih (by omega) hattempts' (by rw [hmax]; exact hretries) h
    | done r => cases h

/-- **The caller looks after a call until it has ended or has to wait.** -/
theorem poll_waits {c : Caller} {b : Bus H} {now : Nat} {draws : Nat → Nat}
    {call call' : Call} (hattempts : call.attempts ≤ call.maxRetries)
    (hretries : call.maxRetries.toNat < UInt32.size - 1)
    (h : (c.poll b now draws call).1 = .waiting call') :
    ∃ t, wakesAt? call' = some t ∧ now < t := by
  refine steps_waits _ ?_ hattempts hretries h
  have hle := UInt32.le_iff_toNat_le.1 hattempts
  unfold effort
  split <;> omega

end Switchboard.Caller
