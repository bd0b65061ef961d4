import Switchboard.Proofs.Circuit.History

/-
  Admission — when a circuit lets a call through.

  * `opens` and `tries` tell the events at which a circuit opens and lets a
    trial through; `latest` is the time of the last of them;
  * `Dated`: the rest a circuit is taking began at the latest of these events,
    after every run, `run_dated`;
  * `admission`: a closed circuit lets every call through, any other one exactly
    when a rest has passed since the latest of these events.
-/

namespace Switchboard

namespace Circuits

/-! ## Openings and trials -/

/-- Whether the circuit of a topic opens at an event. -/
def opens (topic : String) (c : Circuits) (e : Event) : Bool :=
  c.state topic != .opened && (c.step e).state topic == .opened

/-- Whether an event is a call let through by a circuit that is not closed. -/
def tries (topic : String) (c : Circuits) (e : Event) : Bool :=
  e.topic == topic && e.deed == .acquire && c.state topic != .closed && (c.acquire e.time topic).1

/-- The times of the events of a log that satisfy a test. -/
def timesOf (test : Circuits → Event → Bool) (log : List (Circuits × Event)) : List Nat :=
  (log.filter fun x => test x.1 x.2).map (·.2.time)

/-- The time of the last event of a log that satisfies a test; `0` if there is
    none. -/
def lastOf (test : Circuits → Event → Bool) (log : List (Circuits × Event)) : Nat :=
  (timesOf test log).getLast?.getD 0

/-- The time of the last opening or trial, whichever is later. -/
def latest (topic : String) (log : List (Circuits × Event)) : Nat :=
  max (lastOf (opens topic) log) (lastOf (tries topic) log)

theorem timesOf_concat (test : Circuits → Event → Bool) (log : List (Circuits × Event))
    (c : Circuits) (e : Event) :
    timesOf test (log ++ [(c, e)]) =
      timesOf test log ++ if test c e = true then [e.time] else [] := by
  unfold timesOf
  rw [List.filter_append, List.map_append, List.filter_cons, List.filter_nil]
  cases test c e <;> rfl

theorem lastOf_concat (test : Circuits → Event → Bool) (log : List (Circuits × Event))
    (c : Circuits) (e : Event) :
    lastOf test (log ++ [(c, e)]) = if test c e = true then e.time else lastOf test log := by
  unfold lastOf
  rw [timesOf_concat]
  split <;> simp

theorem lastOf_le {test : Circuits → Event → Bool} {log : List (Circuits × Event)} {now : Nat}
    (h : ∀ x ∈ log, x.2.time ≤ now) : lastOf test log ≤ now := by
  unfold lastOf
  rcases hlast : (timesOf test log).getLast? with _ | t
  · exact Nat.zero_le now
  · obtain ⟨x, hx, rfl⟩ := List.mem_map.1 (List.mem_of_getLast? hlast)
    exact h x (List.mem_filter.1 hx).1

/-- An opening or a trial is later than whatever was before. -/
theorem latest_concat {topic : String} {log : List (Circuits × Event)} {e : Event}
    (h : ∀ x ∈ log, x.2.time ≤ e.time) (c : Circuits) :
    latest topic (log ++ [(c, e)]) =
      if (opens topic c e || tries topic c e) = true then e.time else latest topic log := by
  have hopens : lastOf (opens topic) log ≤ e.time := lastOf_le h
  have htries : lastOf (tries topic) log ≤ e.time := lastOf_le h
  unfold latest
  rw [lastOf_concat, lastOf_concat]
  cases opens topic c e <;> cases tries topic c e <;> simp [hopens, htries]

/-! ## What a circuit remembers -/

theorem opens_eq {c : Circuits} (enabled : c.config.enabled = true) (topic : String) (e : Event) :
    opens topic c e =
      (e.topic == topic && (c.circuitOf topic).opens c.config e.time e.deed) := by
  simp only [opens, Circuit.opens, state, circuitOf_step enabled]
  by_cases htopic : e.topic = topic
  · simp [htopic]
  · rw [if_neg htopic, beq_eq_false_iff_ne.2 htopic]
    cases (c.circuitOf topic).state <;> rfl

theorem tries_eq {c : Circuits} (enabled : c.config.enabled = true) (topic : String) (e : Event) :
    tries topic c e =
      (e.topic == topic && (c.circuitOf topic).tries c.config e.time e.deed) := by
  simp only [tries, Circuit.tries, state, acquire_fst enabled, Bool.and_assoc]

/-- The rest that the circuit of a topic is taking began at the latest opening
    or trial. -/
structure Dated (topic : String) (log : List (Circuits × Event)) (k : Circuit) : Prop where
  opened : k.state ≠ .closed → timesOf (opens topic) log ≠ []
  latest : k.state ≠ .closed → latest topic log = k.anchor

theorem step_dated {c : Circuits} (enabled : c.config.enabled = true) {topic : String}
    {log : List (Circuits × Event)} {e : Event} (hlog : ∀ x ∈ log, x.2.time ≤ e.time)
    (h : Dated topic log (c.circuitOf topic)) :
    Dated topic (log ++ [(c, e)]) ((c.step e).circuitOf topic) := by
  rw [circuitOf_step enabled]
  by_cases htopic : e.topic = topic
  · rw [if_pos htopic]
    have hopens : opens topic c e = (c.circuitOf topic).opens c.config e.time e.deed := by
      simp [opens_eq enabled, htopic]
    have htries : tries topic c e = (c.circuitOf topic).tries c.config e.time e.deed := by
      simp [tries_eq enabled, htopic]
    refine ⟨fun hstate => ?_, fun hstate => ?_⟩
    · obtain ⟨-, hnew | hold⟩ := Circuit.anchor_after hstate
      · simp [timesOf_concat, hopens, hnew]
      · simp [timesOf_concat, h.opened hold]
    · obtain ⟨hanchor, hnew | hold⟩ := Circuit.anchor_after hstate
      · rw [latest_concat hlog, hanchor, hopens, hnew, Bool.true_or]
        rfl
      · rw [latest_concat hlog, hanchor, hopens, htries, h.latest hold]
  · rw [if_neg htopic]
    have hopens : opens topic c e = false := by simp [opens_eq enabled, htopic]
    have htries : tries topic c e = false := by simp [tries_eq enabled, htopic]
    refine ⟨fun hstate => ?_, fun hstate => ?_⟩
    · simp [timesOf_concat, h.opened hstate]
    · rw [latest_concat hlog, hopens, htries, Bool.or_self, if_neg (by decide), h.latest hstate]

/-! ## Runs -/

/-- The circuits at the beginning. -/
def start (config : CircuitConfig) : Circuits := { config }

theorem trace_times {c : Circuits} {es : List Event} {now : Nat} (h : ∀ e ∈ es, e.time ≤ now) :
    ∀ x ∈ c.trace es, x.2.time ≤ now := by
  induction es generalizing c with
  | nil => simp [trace]
  | cons e es ih =>
    intro x hx
    rcases List.mem_cons.1 hx with rfl | hx
    · exact h e List.mem_cons_self
    · exact ih (fun e' he' => h e' (List.mem_cons_of_mem _ he')) x hx

theorem run_dated {config : CircuitConfig} (enabled : config.enabled = true) (topic : String)
    {es : List Event} (ordered : es.Pairwise (·.time ≤ ·.time)) :
    Dated topic ((start config).trace es) (((start config).run es).circuitOf topic) := by
  induction es using List.reverseRecOn with
  | nil => exact ⟨fun h => absurd rfl h, fun h => absurd rfl h⟩
  | append_singleton es e ih =>
    obtain ⟨hes, -, hlast⟩ := List.pairwise_append.1 ordered
    rw [run_concat, trace_concat]
    refine step_dated (enabled_run enabled es) (trace_times fun e' he' => ?_) (ih hes)
    exact hlast e' he' e (List.mem_singleton_self e)

theorem run_anchor_le {config : CircuitConfig} (enabled : config.enabled = true) (topic : String)
    {es : List Event} (ordered : es.Pairwise (·.time ≤ ·.time)) {now : Nat}
    (h : ∀ e ∈ es, e.time ≤ now) : (((start config).run es).circuitOf topic).anchor ≤ now := by
  have hdated := run_dated enabled topic ordered
  by_cases hclosed : (((start config).run es).circuitOf topic).state = .closed
  · rw [Circuit.anchor_of_closed hclosed]
    exact Nat.zero_le now
  · rw [← hdated.latest hclosed]
    exact Nat.max_le.2 ⟨lastOf_le (trace_times h), lastOf_le (trace_times h)⟩

/-- While a circuit is not closed, its rests begin later and later. -/
theorem anchor_le_run {c : Circuits} (enabled : c.config.enabled = true) {topic : String}
    {es : List Event} (ordered : es.Pairwise (·.time ≤ ·.time))
    (h : ∀ e ∈ es, (c.circuitOf topic).anchor ≤ e.time)
    (hopen : ∀ mid, mid <+: es → (c.run mid).state topic ≠ .closed) :
    (c.circuitOf topic).anchor ≤ ((c.run es).circuitOf topic).anchor := by
  induction es generalizing c with
  | nil => exact Nat.le_refl _
  | cons e es ih =>
    obtain ⟨hlater, hes⟩ := List.pairwise_cons.1 ordered
    have he := h e List.mem_cons_self
    have hstate : ((c.step e).circuitOf topic).state ≠ .closed :=
      hopen [e] (List.prefix_append [e] es)
    have hstep : (c.circuitOf topic).anchor ≤ ((c.step e).circuitOf topic).anchor ∧
        ((c.step e).circuitOf topic).anchor ≤ e.time := by
      rw [circuitOf_step enabled] at hstate ⊢
      split at hstate
      · next htopic =>
        rw [if_pos htopic]
        exact ⟨Circuit.anchor_le_after he hstate, Circuit.after_anchor_le he _⟩
      · next htopic =>
        rw [if_neg htopic]
        exact ⟨Nat.le_refl _, he⟩
    refine Nat.le_trans hstep.1 (ih (by rw [config_step]; exact enabled) hes (fun e' he' => ?_)
      fun mid hmid => ?_)
    · exact Nat.le_trans hstep.2 (hlater e' he')
    · exact hopen (e :: mid) ((List.prefix_cons_inj e).2 hmid)

/-- An open circuit stays open until its rest is over, unless it is reset. -/
theorem stays_open {c : Circuits} (enabled : c.config.enabled = true) {topic : String}
    {n since : Nat} (hc : c.circuitOf topic = .opened n since) {es : List Event}
    (early : ∀ e ∈ es, since ≤ e.time ∧ e.time < since + c.config.resetMs)
    (kept : ∀ e ∈ es, e.topic = topic → e.deed ≠ .reset) :
    ∃ n', (c.run es).circuitOf topic = .opened n' since := by
  induction es generalizing c n with
  | nil => exact ⟨n, hc⟩
  | cons e es ih =>
    obtain ⟨hsince, hlt⟩ := early e List.mem_cons_self
    have hstep : ∃ n', (c.step e).circuitOf topic = .opened n' since := by
      rw [circuitOf_step enabled, hc]
      split
      · next htopic =>
        rcases hd : e.deed with _ | _ | _ | _
        · have hrest : e.time - since < c.config.resetMs := by omega
          exact ⟨n, by simp only [Circuit.after, Circuit.letThrough, if_pos hrest]⟩
        · exact ⟨n, rfl⟩
        · exact ⟨Circuit.bump n, rfl⟩
        · exact absurd hd (kept e List.mem_cons_self htopic)
      · exact ⟨n, rfl⟩
    obtain ⟨n', hn'⟩ := hstep
    have hconfig := c.config_step e
    refine ih (by rw [hconfig]; exact enabled) hn' (fun e' he' => ?_) fun e' he' => ?_
    · rw [hconfig]
      exact early e' (List.mem_cons_of_mem _ he')
    · exact kept e' (List.mem_cons_of_mem _ he')

/-! ## Admission -/

/-- The rule of admission, with the rest counted from the latest opening or
    trial. -/
theorem acquire_iff {config : CircuitConfig} (enabled : config.enabled = true) {topic : String}
    {es : List Event} (ordered : es.Pairwise (·.time ≤ ·.time)) (now : Nat)
    (hstate : ((start config).run es).state topic ≠ .closed) :
    timesOf (opens topic) ((start config).trace es) ≠ [] ∧
      ((((start config).run es).acquire now topic).1 = true ↔
        config.resetMs ≤ now - latest topic ((start config).trace es)) := by
  have hdated := run_dated enabled topic ordered
  have hconfig : ((start config).run es).config = config := config_run (start config) es
  refine ⟨hdated.opened hstate, ?_⟩
  rw [acquire_fst (enabled_run enabled es), Circuit.letThrough_iff, hconfig,
    hdated.latest hstate]
  exact or_iff_right hstate

/-- A closed circuit lets every call through. -/
theorem acquire_of_closed {config : CircuitConfig} (enabled : config.enabled = true)
    {topic : String} {es : List Event} (now : Nat)
    (hstate : ((start config).run es).state topic = .closed) :
    (((start config).run es).acquire now topic).1 = true := by
  rw [acquire_fst (enabled_run enabled es), Circuit.letThrough_iff]
  exact Or.inl hstate

/-- A call that comes a rest after everything else is let through. -/
theorem acquire_of_rested {config : CircuitConfig} (enabled : config.enabled = true)
    {topic : String} {es : List Event} (ordered : es.Pairwise (·.time ≤ ·.time)) {now : Nat}
    (h : ∀ e ∈ es, e.time + config.resetMs ≤ now) :
    (((start config).run es).acquire now topic).1 = true := by
  by_cases hstate : ((start config).run es).state topic = .closed
  · exact acquire_of_closed enabled now hstate
  · obtain ⟨-, hacquire⟩ := acquire_iff enabled ordered now hstate
    have hlog := trace_times (c := start config) fun e he => Nat.le_sub_of_add_le (h e he)
    have hlatest : latest topic ((start config).trace es) ≤ now - config.resetMs :=
      Nat.max_le.2 ⟨lastOf_le hlog, lastOf_le hlog⟩
    have hlong : config.resetMs ≤ now := by
      cases es with
      | nil => exact absurd rfl hstate
      | cons e es => exact Nat.le_trans (Nat.le_add_left _ _) (h e List.mem_cons_self)
    rw [hacquire]
    omega

/-- Two calls let through while the circuit is not closed are a rest apart. -/
theorem rest_between {config : CircuitConfig} (enabled : config.enabled = true) {topic : String}
    {before between : List Event} {e : Event}
    (ordered : (before ++ e :: between).Pairwise (·.time ≤ ·.time))
    (htries : tries topic ((start config).run before) e = true)
    (hopen : ∀ mid, mid <+: between →
      ((start config).run (before ++ e :: mid)).state topic ≠ .closed) {now : Nat}
    (hnow : ∀ e' ∈ before ++ e :: between, e'.time ≤ now)
    (hacquire : (((start config).run (before ++ e :: between)).acquire now topic).1 = true) :
    e.time + config.resetMs ≤ now := by
  have henabled := enabled_run (c := start config) enabled before
  have hanchor : ((((start config).run before).step e).circuitOf topic).anchor = e.time := by
    have hstate := hopen [] List.nil_prefix
    rw [run_append_cons] at hstate
    have hstep := circuitOf_step henabled e topic
    rw [tries_eq henabled, Bool.and_eq_true, beq_iff_eq] at htries
    rw [if_pos htries.1] at hstep
    change ((((start config).run before).step e).circuitOf topic).state ≠ .closed at hstate
    rw [hstep] at hstate ⊢
    rw [(Circuit.anchor_after hstate).1, htries.2, Bool.or_true]
    rfl
  have hordered := (List.pairwise_append.1 ordered).2.1
  obtain ⟨hlater, hbetween⟩ := List.pairwise_cons.1 hordered
  have hle : e.time ≤ (((start config).run (before ++ e :: between)).circuitOf topic).anchor := by
    rw [run_append_cons, ← hanchor]
    refine anchor_le_run (by rw [config_step]; exact henabled) hbetween (fun e' he' => ?_)
      fun mid hmid => ?_
    · rw [hanchor]
      exact hlater e' he'
    · rw [← run_append_cons]
      exact hopen mid hmid
  have hbound := run_anchor_le enabled topic ordered hnow
  obtain ⟨-, hiff⟩ := acquire_iff enabled ordered now (hopen between (List.prefix_refl _))
  have hdated := (run_dated enabled topic ordered).latest (hopen between (List.prefix_refl _))
  have hrest := hiff.1 hacquire
  rw [hdated] at hrest
  have he := hnow e (List.mem_append_right _ List.mem_cons_self)
  omega

/-- For a rest after it has opened, a circuit that is not reset lets nothing
    through. -/
theorem refused_after_opening {config : CircuitConfig} (enabled : config.enabled = true)
    {topic : String} {before between : List Event} {e : Event}
    (ordered : (before ++ e :: between).Pairwise (·.time ≤ ·.time))
    (hopens : opens topic ((start config).run before) e = true)
    (kept : ∀ e' ∈ between, e'.topic = topic → e'.deed ≠ .reset) {now : Nat}
    (hnow : ∀ e' ∈ before ++ e :: between, e'.time ≤ now) (early : now < e.time + config.resetMs) :
    ((start config).run (before ++ e :: between)).state topic = .opened ∧
      (((start config).run (before ++ e :: between)).acquire now topic).1 = false := by
  have henabled := enabled_run (c := start config) enabled before
  have hopened : ∃ n, (((start config).run before).step e).circuitOf topic = .opened n e.time := by
    rw [opens_eq henabled, Bool.and_eq_true, beq_iff_eq] at hopens
    rw [circuitOf_step henabled, if_pos hopens.1]
    exact Circuit.after_of_opens hopens.2
  obtain ⟨n, hn⟩ := hopened
  have hconfig : (((start config).run before).step e).config = config := by
    rw [config_step, config_run]
    rfl
  have hlater := (List.pairwise_cons.1 (List.pairwise_append.1 ordered).2.1).1
  obtain ⟨n', hn'⟩ := stays_open (by rw [hconfig]; exact enabled) hn (fun e' he' => by
    rw [hconfig]
    exact ⟨hlater e' he', Nat.lt_of_le_of_lt
      (hnow e' (List.mem_append_right _ (List.mem_cons_of_mem _ he'))) early⟩) kept
  rw [← run_append_cons] at hn'
  have hstate : ((start config).run (before ++ e :: between)).state topic = .opened := by
    rw [state, hn']
    rfl
  refine ⟨hstate, Bool.eq_false_iff.2 fun hacquire => ?_⟩
  have hdated := (run_dated enabled topic ordered).latest (by rw [hn']; simp [Circuit.state])
  have hrest := (acquire_iff enabled ordered now (by rw [hstate]; simp)).2.1 hacquire
  rw [hdated, hn'] at hrest
  have hsince : config.resetMs ≤ now - e.time := hrest
  have he := hnow e (List.mem_append_right _ List.mem_cons_self)
  omega

/-- **Admission.**  After every run of events in the order of their times: a
    closed circuit lets every call through; any other has opened, and lets a
    call through exactly when a rest has passed since it opened or let a trial
    through, whichever was later.  Hence, while it is not closed, two calls that
    it lets through are a rest apart; for a rest after it has opened it lets
    nothing through; and a call that comes a rest after everything else is let
    through. -/
theorem admission {config : CircuitConfig} (enabled : config.enabled = true) (topic : String)
    {es : List Event} (ordered : es.Pairwise (·.time ≤ ·.time)) {now : Nat}
    (hnow : ∀ e ∈ es, e.time ≤ now) :
    let c := (start config).run es
    let log := (start config).trace es
    (c.state topic = .closed → (c.acquire now topic).1 = true) ∧
      (c.state topic ≠ .closed → timesOf (opens topic) log ≠ [] ∧
        ((c.acquire now topic).1 = true ↔ config.resetMs ≤ now - latest topic log)) ∧
      (∀ before e between, es = before ++ e :: between →
        tries topic ((start config).run before) e = true →
        (∀ mid, mid <+: between →
          ((start config).run (before ++ e :: mid)).state topic ≠ .closed) →
        (c.acquire now topic).1 = true → e.time + config.resetMs ≤ now) ∧
      (∀ before e between, es = before ++ e :: between →
        opens topic ((start config).run before) e = true →
        (∀ e' ∈ between, e'.topic = topic → e'.deed ≠ .reset) →
        now < e.time + config.resetMs →
        c.state topic = .opened ∧ (c.acquire now topic).1 = false) ∧
      ((∀ e ∈ es, e.time + config.resetMs ≤ now) → (c.acquire now topic).1 = true) := by
  refine ⟨acquire_of_closed enabled now, acquire_iff enabled ordered now, ?_, ?_,
    acquire_of_rested enabled ordered⟩
  · rintro before e between rfl htries hopen hacquire
    exact rest_between enabled ordered htries hopen hnow hacquire
  · rintro before e between rfl hopens kept early
    exact refused_after_opening enabled ordered hopens kept hnow early

/-- A circuit that opens at 0 and lets a trial through at 30 refuses a call at
    59 and lets one through at 60. -/
theorem admission_at_the_boundary :
    let config : CircuitConfig := { threshold := 1, resetMs := 30 }
    let es : List Event := [⟨0, "a", .fail⟩, ⟨10, "b", .fail⟩, ⟨30, "a", .acquire⟩]
    let c := (start config).run es
    config.enabled = true ∧ es.Pairwise (·.time ≤ ·.time) ∧ (∀ e ∈ es, e.time ≤ 59) ∧
      (c.acquire 59 "a").1 = false ∧ (c.acquire 60 "a").1 = true := by
  intro config es c
  have ordered : es.Pairwise (·.time ≤ ·.time) := by decide
  have henabled : config.enabled = true := rfl
  have hstate : c.state "a" ≠ .closed := by decide
  have hnow : ∀ e ∈ es, e.time ≤ 59 := by decide
  have hnow' : ∀ e ∈ es, e.time ≤ 60 := by decide
  have hlatest : latest "a" ((start config).trace es) = 30 := rfl
  have h := ((admission henabled "a" ordered hnow).2.1 hstate).2
  have h' := ((admission henabled "a" ordered hnow').2.1 hstate).2
  rw [hlatest] at h h'
  exact ⟨henabled, ordered, hnow, Bool.eq_false_iff.2 fun hc => absurd (h.1 hc) (by decide),
    h'.2 (by decide)⟩

end Circuits

end Switchboard
