import Mathlib.Data.List.DropRight
import Switchboard.Proofs.Circuit.Admission

/-
  Counting — how many failures a circuit has seen, and which way it may go.

  * `Breaker` is a circuit kept as four fields that know nothing of each other,
    `Breakers` one for every topic; `run_records`: after every run they are what
    the circuits show;
  * `restarts` tells the events at which a circuit begins to count anew,
    `sinceRestart` counts the failures after the last of them;
  * `Counted`: a closed circuit has counted just these, and fewer than open it;
  * `Moves` lists the ways from one state to another, `after_moves` says that
    there are no others;
  * `counting`: the count, the opening, the fields, the ways and what an event
    leaves alone, after every run.
-/

namespace Switchboard

/-! ## Circuits as four fields -/

/-- A circuit as four fields. -/
structure Breaker where
  state : CircuitState := .closed
  failures : Nat := 0
  /-- when it opened -/
  openedAt : Option Nat := none
  /-- when the trial under way was let through -/
  trialStarted : Option Nat := none
  deriving DecidableEq, Repr, Inhabited

namespace Breaker

/-- Opens a circuit at a time. -/
def trip (b : Breaker) (now : Nat) : Breaker :=
  { b with state := .opened, openedAt := some now, trialStarted := none }

/-- Whether a call may be made at a time.  A circuit open since no one knows when
    has rested long enough, and a trial no one saw begin is not waited for. -/
def letThrough (rest now : Nat) (b : Breaker) : Bool × Breaker :=
  match b.state with
  | .closed => (true, b)
  | .opened =>
    if b.openedAt.elim rest (now - ·) < rest then (false, b)
    else (true, { b with state := .halfOpen, trialStarted := some now })
  | .halfOpen =>
    if b.trialStarted.all fun t => rest ≤ now - t then
      (true, { b with trialStarted := some now })
    else (false, b)

/-- A call has succeeded. -/
def succeed (b : Breaker) : Breaker :=
  match b.state with
  | .halfOpen => {}
  | .closed => { b with failures := 0 }
  | .opened => b

/-- A call has failed at a time. -/
def fail (threshold now : Nat) (b : Breaker) : Breaker :=
  let counted := { b with failures := Circuit.bump b.failures }
  match b.state with
  | .closed => if threshold ≤ counted.failures then counted.trip now else counted
  | .halfOpen => counted.trip now
  | .opened => counted

end Breaker

/-- One circuit of four fields for every topic. -/
structure Breakers where
  config : CircuitConfig
  table : Table String Breaker := {}

namespace Breakers

def breakerOf (b : Breakers) (topic : String) : Breaker := (b.table.get? topic).getD {}

def set (b : Breakers) (topic : String) (k : Breaker) : Breakers :=
  { b with table := b.table.put topic k }

/-- Lets something happen. -/
def step (b : Breakers) (e : Circuits.Event) : Breakers :=
  match e.deed with
  | .acquire =>
    if b.config.enabled then
      b.set e.topic ((b.breakerOf e.topic).letThrough b.config.resetMs e.time).2
    else b
  | .succeed => if b.config.enabled then b.set e.topic (b.breakerOf e.topic).succeed else b
  | .fail =>
    if b.config.enabled then
      b.set e.topic ((b.breakerOf e.topic).fail b.config.threshold e.time)
    else b
  | .reset => { b with table := b.table.erase e.topic }

/-- Lets a list of things happen. -/
def run (b : Breakers) (es : List Circuits.Event) : Breakers := es.foldl step b

/-- The circuits at the beginning. -/
def start (config : CircuitConfig) : Breakers := { config }

end Breakers

namespace Circuit

/-- The four fields of a circuit. -/
def fields : Circuit → Breaker
  | closed n => { failures := n }
  | opened n since => { state := .opened, failures := n, openedAt := some since }
  | halfOpen n since trial =>
    { state := .halfOpen, failures := n, openedAt := some since, trialStarted := some trial }

@[simp] theorem fields_state (k : Circuit) : k.fields.state = k.state := by
  cases k <;> rfl

@[simp] theorem fields_failures (k : Circuit) : k.fields.failures = k.failures := by
  cases k <;> rfl

theorem fields_letThrough (rest now : Nat) (k : Circuit) :
    k.fields.letThrough rest now =
      ((k.letThrough rest now).1, (k.letThrough rest now).2.fields) := by
  cases k with
  | closed n => rfl
  | opened n since =>
    by_cases h : now - since < rest <;> simp [fields, Breaker.letThrough, letThrough, h]
  | halfOpen n since trial =>
    by_cases h : rest ≤ now - trial <;> simp [fields, Breaker.letThrough, letThrough, h]

theorem fields_succeed (k : Circuit) : k.fields.succeed = k.succeed.fields := by
  cases k <;> rfl

theorem fields_fail (threshold now : Nat) (k : Circuit) :
    k.fields.fail threshold now = (k.fail threshold now).fields := by
  cases k with
  | closed n =>
    by_cases h : threshold ≤ bump n <;> simp [fields, Breaker.fail, Breaker.trip, fail, h]
  | opened n since => rfl
  | halfOpen n since trial => rfl

/-- **Which fields are set.**  An open circuit knows since when and no trial, a
    half-open one knows both, a closed one neither. -/
theorem fields_set (k : Circuit) :
    k.fields.openedAt.isSome = (k.state != .closed) ∧
      k.fields.trialStarted.isSome = (k.state == .halfOpen) := by
  cases k <;> exact ⟨rfl, rfl⟩

end Circuit

namespace Circuits

/-! ## The fields after a run -/

/-- The circuits of four fields are those that the circuits show. -/
structure Records (c : Circuits) (b : Breakers) : Prop where
  config : b.config = c.config
  rows : ∀ topic, b.table.get? topic = (c.table.get? topic).map Circuit.fields

theorem Records.breakerOf {c : Circuits} {b : Breakers} (h : Records c b) (topic : String) :
    b.breakerOf topic = (c.circuitOf topic).fields := by
  unfold Breakers.breakerOf circuitOf
  rw [h.rows]
  cases c.table.get? topic <;> rfl

theorem Records.set {c : Circuits} {b : Breakers} (h : Records c b) (topic : String)
    (k : Circuit) : Records (c.set topic k) (b.set topic k.fields) := by
  refine ⟨h.config, fun topic' => ?_⟩
  unfold Circuits.set Breakers.set
  rw [Table.get?_put, Table.get?_put]
  split
  · rfl
  · exact h.rows topic'

theorem step_records {c : Circuits} {b : Breakers} (h : Records c b) (e : Event) :
    Records (c.step e) (b.step e) := by
  obtain ⟨time, topic, deed⟩ := e
  cases deed with
  | acquire =>
    simp only [step, acquire, Breakers.step, h.config]
    split
    · rw [h.breakerOf, Circuit.fields_letThrough]
      exact h.set topic _
    · exact h
  | succeed =>
    simp only [step, succeed, Breakers.step, h.config]
    split
    · rw [h.breakerOf, Circuit.fields_succeed]
      exact h.set topic _
    · exact h
  | fail =>
    simp only [step, fail, Breakers.step, h.config]
    split
    · rw [h.breakerOf, Circuit.fields_fail]
      exact h.set topic _
    · exact h
  | reset =>
    refine ⟨h.config, fun topic' => ?_⟩
    simp only [step, reset, Breakers.step, Table.get?_erase]
    split
    · rfl
    · exact h.rows topic'

theorem run_records (config : CircuitConfig) (es : List Event) :
    Records ((start config).run es) ((Breakers.start config).run es) := by
  induction es using List.reverseRecOn with
  | nil => exact ⟨rfl, fun _ => rfl⟩
  | append_singleton es e ih =>
    rw [run_concat, Breakers.run, List.foldl_concat]
    exact step_records ih e

/-! ## Counting anew -/

/-- Whether the circuit of a topic begins to count anew at an event: a success, a
    return to the closed state, or a reset, which forgets the circuit. -/
def restarts (topic : String) (c : Circuits) (e : Event) : Bool :=
  e.topic == topic &&
    (e.deed == .succeed || e.deed == .reset ||
      c.state topic != .closed && (c.step e).state topic == .closed)

/-- Whether an event is a failure on a topic. -/
def fails (topic : String) (e : Event) : Bool := e.topic == topic && e.deed == .fail

/-- The failures on a topic after the last event of a log at which its circuit
    began to count anew. -/
def sinceRestart (topic : String) (log : List (Circuits × Event)) : Nat :=
  (log.rtakeWhile fun x => !restarts topic x.1 x.2).countP fun x => fails topic x.2

theorem sinceRestart_concat (topic : String) (log : List (Circuits × Event)) (c : Circuits)
    (e : Event) :
    sinceRestart topic (log ++ [(c, e)]) =
      if restarts topic c e = true then 0
      else sinceRestart topic log + if fails topic e = true then 1 else 0 := by
  unfold sinceRestart
  rw [List.rtakeWhile_concat]
  cases restarts topic c e with
  | true => rfl
  | false =>
    simp only [Bool.not_false, if_true, Bool.false_eq_true, if_false, List.countP_append,
      List.countP_singleton]

/-! ## The ways of one circuit -/

/-- A circuit goes from one state to another by what is done to it. -/
inductive Moves : CircuitState → Circuit.Deed → CircuitState → Prop where
  | opens : Moves .closed .fail .opened
  | tries : Moves .opened .acquire .halfOpen
  | closes : Moves .halfOpen .succeed .closed
  | reopens : Moves .halfOpen .fail .opened
  | reset (s : CircuitState) : Moves s .reset .closed

/-- **The ways**: there are no others. -/
theorem after_moves (config : CircuitConfig) (now : Nat) (k : Circuit) (d : Circuit.Deed) :
    (k.after config now d).state = k.state ∨ Moves k.state d (k.after config now d).state := by
  cases d with
  | acquire =>
    cases k with
    | closed n => exact Or.inl rfl
    | opened n since =>
      by_cases h : now - since < config.resetMs
      · simp [Circuit.after, Circuit.letThrough, Circuit.state, h]
      · simpa [Circuit.after, Circuit.letThrough, Circuit.state, h] using Moves.tries
    | halfOpen n since trial =>
      by_cases h : config.resetMs ≤ now - trial <;>
        simp [Circuit.after, Circuit.letThrough, Circuit.state, h]
  | succeed =>
    cases k with
    | halfOpen n since trial => exact Or.inr .closes
    | _ => exact Or.inl rfl
  | fail =>
    cases k with
    | closed n =>
      by_cases h : config.threshold ≤ Circuit.bump n
      · simpa [Circuit.after, Circuit.fail, Circuit.state, h] using Moves.opens
      · simp [Circuit.after, Circuit.fail, Circuit.state, h]
    | opened n since => exact Or.inl rfl
    | halfOpen n since trial => exact Or.inr .reopens
  | reset => exact Or.inr (.reset k.state)

/-- **Ways to be closed** after something was done: success or a reset begins anew,
    a call changes nothing, and a failure that does not suffice is counted. -/
theorem after_closed {config : CircuitConfig} {now : Nat} {k : Circuit} {d : Circuit.Deed}
    (h : (k.after config now d).state = .closed) :
    (k.after config now d = .fresh ∧ (d = .succeed ∨ d = .reset)) ∨
      (k.after config now d = k ∧ d = .acquire) ∨
      ∃ n, k = .closed n ∧ d = .fail ∧ Circuit.bump n < config.threshold ∧
        k.after config now d = .closed (Circuit.bump n) := by
  cases d with
  | acquire =>
    cases k with
    | closed n => exact Or.inr (Or.inl ⟨rfl, rfl⟩)
    | opened n since =>
      simp only [Circuit.after, Circuit.letThrough] at h
      split at h <;> cases h
    | halfOpen n since trial =>
      simp only [Circuit.after, Circuit.letThrough] at h
      split at h <;> cases h
  | succeed =>
    cases k with
    | closed n => exact Or.inl ⟨rfl, Or.inl rfl⟩
    | opened n since => cases h
    | halfOpen n since trial => exact Or.inl ⟨rfl, Or.inl rfl⟩
  | fail =>
    cases k with
    | closed n =>
      by_cases hreached : config.threshold ≤ Circuit.bump n
      · simp [Circuit.after, Circuit.fail, Circuit.state, hreached] at h
      · exact Or.inr (Or.inr ⟨n, rfl, rfl, Nat.lt_of_not_le hreached, if_neg hreached⟩)
    | opened n since => cases h
    | halfOpen n since trial => cases h
  | reset => exact Or.inl ⟨rfl, Or.inr rfl⟩

/-- Within its threshold the count of a closed circuit is not cut off. -/
theorem bump_of_lt {config : CircuitConfig} (bound : config.threshold < UInt32.size) {n : Nat}
    (h : n < max config.threshold 1) : Circuit.bump n = n + 1 := by
  unfold Circuit.bump
  rw [UInt32.size] at bound
  rw [Nat.pow_eq]
  omega

/-- **Opening**: a closed circuit opens at the failure that reaches its threshold,
    the first one for a threshold of zero. -/
theorem after_opened_iff {config : CircuitConfig} (bound : config.threshold < UInt32.size) {n : Nat}
    (h : n < max config.threshold 1) (now : Nat) (d : Circuit.Deed) :
    ((Circuit.closed n).after config now d).state = .opened ↔
      d = .fail ∧ n + 1 = max config.threshold 1 := by
  cases d with
  | fail =>
    simp only [Circuit.after, Circuit.fail, bump_of_lt bound h, true_and]
    split
    · simp only [Circuit.state, true_iff]
      omega
    · simp only [Circuit.state, reduceCtorEq, false_iff]
      omega
  | _ => simp [Circuit.after, Circuit.letThrough, Circuit.succeed, Circuit.fresh, Circuit.state]

/-! ## The count -/

/-- A closed circuit has counted the failures since it last began to, and they
    are too few to open it. -/
structure Counted (config : CircuitConfig) (topic : String) (log : List (Circuits × Event))
    (k : Circuit) : Prop where
  count : k.state = .closed → k.failures = sinceRestart topic log
  below : k.state = .closed → k.failures < max config.threshold 1

theorem counted_fresh {config : CircuitConfig} {topic : String} {log : List (Circuits × Event)}
    (h : sinceRestart topic log = 0) : Counted config topic log .fresh :=
  ⟨fun _ => h.symm, fun _ => Nat.lt_of_lt_of_le Nat.one_pos (Nat.le_max_right _ _)⟩

/-- A circuit that is not closed has nothing to say about its count. -/
theorem counted_of_state {config : CircuitConfig} {topic : String}
    {log : List (Circuits × Event)} {k : Circuit} (h : k.state ≠ .closed) :
    Counted config topic log k :=
  ⟨fun hc => absurd hc h, fun hc => absurd hc h⟩

theorem step_counted {c : Circuits} (enabled : c.config.enabled = true)
    (bound : c.config.threshold < UInt32.size) {topic : String} {log : List (Circuits × Event)}
    (h : Counted c.config topic log (c.circuitOf topic)) (e : Event) :
    Counted c.config topic (log ++ [(c, e)]) ((c.step e).circuitOf topic) := by
  have hstep := circuitOf_step enabled e topic
  by_cases htopic : e.topic = topic
  · rw [if_pos htopic] at hstep
    rw [hstep]
    by_cases hclosed : ((c.circuitOf topic).after c.config e.time e.deed).state = .closed
    · rcases after_closed hclosed with ⟨hfresh, hd⟩ | ⟨hsame, hd⟩ | ⟨n, hk, hd, hlow, hmore⟩
      · -- it begins to count anew
        rw [hfresh]
        refine counted_fresh ?_
        rw [sinceRestart_concat, if_pos]
        rcases hd with hd | hd <;> simp [restarts, htopic, hd]
      · rw [hsame] at hclosed ⊢
        refine ⟨fun hc => ?_, h.below⟩
        rw [sinceRestart_concat, ← h.count hc]
        have hstate : c.state topic = .closed := hclosed
        simp [restarts, fails, hd, hstate]
      · have hstate : c.state topic = .closed := by rw [state, hk]; rfl
        rw [hk] at h
        have hcount : n = sinceRestart topic log := h.count rfl
        have hbump : Circuit.bump n = n + 1 := bump_of_lt bound (h.below rfl)
        rw [hmore, hbump]
        rw [hbump] at hlow
        refine ⟨fun _ => ?_, fun _ => Nat.lt_of_lt_of_le hlow (Nat.le_max_left _ _)⟩
        rw [sinceRestart_concat, ← hcount]
        simp [restarts, fails, htopic, hd, hstate, Circuit.failures]
    · exact counted_of_state hclosed
  · rw [hstep, if_neg htopic]
    have hlog : sinceRestart topic (log ++ [(c, e)]) = sinceRestart topic log := by
      rw [sinceRestart_concat]
      simp [restarts, fails, htopic]
    exact ⟨fun hc => by rw [hlog, h.count hc], h.below⟩

theorem run_counted {config : CircuitConfig} (enabled : config.enabled = true)
    (bound : config.threshold < UInt32.size) (topic : String) (es : List Event) :
    Counted config topic ((start config).trace es) (((start config).run es).circuitOf topic) := by
  induction es using List.reverseRecOn with
  | nil => exact counted_fresh rfl
  | append_singleton es e ih =>
    have hconfig : ((start config).run es).config = config := config_run (start config) es
    rw [run_concat, trace_concat]
    have hstep := step_counted (enabled_run enabled es) (by rw [hconfig]; exact bound)
      (by rw [hconfig]; exact ih) e
    rw [hconfig] at hstep
    exact hstep

/-! ## What an event leaves alone -/

/-- An event leaves the circuits of other topics as they are, and does not make
    one where there was none. -/
theorem get?_step_of_ne (c : Circuits) {e : Event} {topic : String} (h : e.topic ≠ topic) :
    (c.step e).table.get? topic = c.table.get? topic := by
  obtain ⟨time, topic', deed⟩ := e
  cases deed with
  | acquire =>
    simp only [step, acquire]
    split
    · simp only [set, Table.get?_put, if_neg h]
    · rfl
  | succeed =>
    simp only [step, succeed]
    split
    · simp only [set, Table.get?_put, if_neg h]
    · rfl
  | fail =>
    simp only [step, fail]
    split
    · simp only [set, Table.get?_put, if_neg h]
    · rfl
  | reset => simp only [step, reset, Table.get?_erase, if_neg h]

/-- A success tells an open circuit nothing. -/
theorem succeed_of_opened {c : Circuits} {topic : String} (h : c.state topic = .opened) :
    c.succeed topic = c := by
  unfold succeed
  split
  · rcases hget : c.table.get? topic with _ | k
    · rw [state, circuitOf, hget] at h
      cases h
    · have hk : k.succeed = k := by
        rw [state, circuitOf, hget] at h
        cases k with
        | opened n since => rfl
        | _ => cases h
      have hput := Table.put_of_get? hget
      simp only [set, circuitOf, hget, Option.getD_some, hk, hput]
  · rfl

/-! ## Counting -/

/-- **Counting.**  After every run:

    * the circuit of four fields of every topic is what the circuit shows;
    * a closed circuit has counted the failures since it last began to count
      anew, fewer than its threshold and none for a threshold of zero, and it
      opens exactly at the failure that makes them enough;
    * an open circuit knows since when and has no trial, a half-open one knows
      when its trial began too;
    * states change along `Moves` only, and at an event of the topic;
    * a success on the topic of an open circuit changes nothing;
    * an event on another topic leaves the circuit of this one as it is. -/
theorem counting {config : CircuitConfig} (enabled : config.enabled = true)
    (bound : config.threshold < UInt32.size) (es : List Event) (topic : String) :
    let c := (start config).run es
    let b := ((Breakers.start config).run es).breakerOf topic
    b = (c.circuitOf topic).fields ∧
      (b.state = .closed →
        b.failures = sinceRestart topic ((start config).trace es) ∧
          b.failures < max config.threshold 1 ∧
          ∀ e, (c.step e).state topic = .opened ↔
            fails topic e = true ∧ b.failures + 1 = max config.threshold 1) ∧
      (b.state = .opened → b.openedAt.isSome = true ∧ b.trialStarted = none) ∧
      (b.state = .halfOpen → b.openedAt.isSome = true ∧ b.trialStarted.isSome = true) ∧
      (∀ e, (c.step e).state topic = b.state ∨
        e.topic = topic ∧ Moves b.state e.deed ((c.step e).state topic)) ∧
      (b.state = .opened → ∀ now, c.step ⟨now, topic, .succeed⟩ = c) ∧
      ∀ e, e.topic ≠ topic → (c.step e).table.get? topic = c.table.get? topic := by
  intro c b
  have hrecords : b = (c.circuitOf topic).fields := (run_records config es).breakerOf topic
  have hcounted : Counted config topic _ (c.circuitOf topic) := run_counted enabled bound topic es
  have hconfig : c.config = config := config_run (start config) es
  have hstep := circuitOf_step (c := c) (enabled_run enabled es)
  obtain ⟨hopenedAt, htrial⟩ := (c.circuitOf topic).fields_set
  rw [← hrecords] at hopenedAt htrial
  have hstate : b.state = (c.circuitOf topic).state := by rw [hrecords, Circuit.fields_state]
  have hfailures : b.failures = (c.circuitOf topic).failures := by
    rw [hrecords, Circuit.fields_failures]
  rw [hstate, hfailures]
  refine ⟨hrecords, fun hclosed => ⟨hcounted.count hclosed, hcounted.below hclosed, fun e => ?_⟩,
    fun hopen => ?_, fun hhalf => ?_, fun e => ?_, fun hopen now => ?_,
    fun e he => c.get?_step_of_ne he⟩
  · have hbelow := hcounted.below hclosed
    rw [state, hstep, hconfig]
    cases hk : c.circuitOf topic with
    | closed n =>
      rw [hk] at hbelow
      have hopens := after_opened_iff (n := n) bound hbelow e.time e.deed
      by_cases htopic : e.topic = topic
      · simp [htopic, hopens, fails, Circuit.failures]
      · simp [htopic, fails, Circuit.state]
    | _ =>
      rw [hk] at hclosed
      cases hclosed
  · rw [hopen] at hopenedAt htrial
    exact ⟨hopenedAt, Option.not_isSome_iff_eq_none.1 (by rw [htrial]; decide)⟩
  · rw [hhalf] at hopenedAt htrial
    exact ⟨hopenedAt, htrial⟩
  · rw [state, hstep, hconfig]
    by_cases htopic : e.topic = topic
    · rw [if_pos htopic]
      exact (after_moves config e.time _ e.deed).imp_right fun hm => ⟨htopic, hm⟩
    · rw [if_neg htopic]
      exact Or.inl rfl
  · exact succeed_of_opened hopen

/-- A threshold of two: a success between two failures makes the first one
    forgotten, the second failure after it opens the circuit, and what happens on
    another topic is not counted. -/
theorem counting_of_two :
    let config : CircuitConfig := { threshold := 2, resetMs := 30 }
    let es : List Event :=
      [⟨0, "a", .fail⟩, ⟨1, "a", .succeed⟩, ⟨2, "a", .fail⟩, ⟨3, "b", .fail⟩]
    config.enabled = true ∧ config.threshold < UInt32.size ∧
      sinceRestart "a" ((start config).trace es) = 1 ∧
      (((start config).run es).step ⟨4, "a", .fail⟩).state "a" = .opened := by
  intro config es
  have henabled : config.enabled = true := rfl
  have hbound : config.threshold < UInt32.size := by decide
  obtain ⟨-, hclosed, -⟩ := counting henabled hbound es "a"
  obtain ⟨hcount, -, hopens⟩ := hclosed (by decide)
  exact ⟨henabled, hbound, hcount.symm.trans (by decide), (hopens _).2 (by decide)⟩

end Circuits

end Switchboard
