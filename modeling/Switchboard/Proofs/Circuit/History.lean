import Mathlib.Data.List.Induction
import Switchboard.Circuit
import Switchboard.Proofs.Table

/-
  Histories of circuits.

  Calls ask to be made and report how they went, on any topic, in any order, and
  circuits are reset.

  * `Circuit.Deed` lists what is done to one circuit, `Circuit.after` does it;
  * `Circuits.step`, `run` and `trace` do a list of events on any topics;
  * `circuitOf_step`: an event concerns the circuit of its topic alone;
  * `Circuit.anchor` is when the rest began that a circuit is taking,
    `anchor_after` tells when it moves, `letThrough_iff` when the rest is over.
-/

namespace Switchboard

/-! ## One circuit -/

namespace Circuit

/-- What is done to a circuit. -/
inductive Deed where
  /-- a call asks to be made -/
  | acquire
  | succeed
  | fail
  | reset
  deriving DecidableEq, Repr

/-- A circuit after something was done to it at a time. -/
def after (config : CircuitConfig) (now : Nat) (k : Circuit) : Deed → Circuit
  | .acquire => (k.letThrough config.resetMs now).2
  | .succeed => k.succeed
  | .fail => k.fail config.threshold now
  | .reset => fresh

/-- When the rest began that a circuit takes before it lets a trial through. -/
def anchor : Circuit → Nat
  | closed _ => 0
  | opened _ since => since
  | halfOpen _ _ trial => trial

/-- **The rule of admission** for one circuit. -/
theorem letThrough_iff (rest now : Nat) (k : Circuit) :
    (k.letThrough rest now).1 = true ↔ k.state = .closed ∨ rest ≤ now - k.anchor := by
  cases k with
  | closed n => simp [letThrough, state]
  | opened n since =>
    simp only [letThrough, state, anchor, reduceCtorEq, false_or]
    split <;> simp <;> omega
  | halfOpen n since trial =>
    simp only [letThrough, state, anchor, reduceCtorEq, false_or]
    split <;> simp <;> omega

/-- Whether what is done opens the circuit. -/
def opens (config : CircuitConfig) (now : Nat) (k : Circuit) (d : Deed) : Bool :=
  k.state != .opened && (k.after config now d).state == .opened

/-- Whether what is done is a call let through though the circuit is not closed. -/
def tries (config : CircuitConfig) (now : Nat) (k : Circuit) (d : Deed) : Bool :=
  d == .acquire && k.state != .closed && (k.letThrough config.resetMs now).1

/-- **A rest** begins when the circuit opens or lets a trial through, and at no
    other time. -/
theorem anchor_after {config : CircuitConfig} {now : Nat} {k : Circuit} {d : Deed}
    (h : (k.after config now d).state ≠ .closed) :
    (k.after config now d).anchor =
        (if (k.opens config now d || k.tries config now d) = true then now else k.anchor) ∧
      (k.opens config now d = true ∨ k.state ≠ .closed) := by
  cases d with
  | acquire =>
    cases k with
    | closed n => exact absurd rfl h
    | opened n since =>
      by_cases hrest : now - since < config.resetMs <;>
        simp [opens, tries, after, letThrough, anchor, state, hrest]
    | halfOpen n since trial =>
      by_cases hrest : config.resetMs ≤ now - trial <;>
        simp [opens, tries, after, letThrough, anchor, state, hrest]
  | succeed =>
    cases k with
    | opened n since => simp [opens, tries, after, succeed, anchor, state]
    | _ => exact absurd rfl h
  | fail =>
    cases k with
    | closed n =>
      by_cases hbump : config.threshold ≤ bump n
      · simp [opens, tries, after, fail, anchor, state, hbump]
      · exact absurd (by simp [after, fail, state, hbump]) h
    | opened n since => simp [opens, tries, after, fail, anchor, state]
    | halfOpen n since trial => simp [opens, tries, after, fail, anchor, state]
  | reset => exact absurd rfl h

theorem after_of_opens {config : CircuitConfig} {now : Nat} {k : Circuit} {d : Deed}
    (h : k.opens config now d = true) : ∃ n, k.after config now d = .opened n now := by
  have hstate : (k.after config now d).state = .opened := by
    simp only [opens, Bool.and_eq_true, beq_iff_eq] at h
    exact h.2
  have hopen : (k.after config now d).state ≠ .closed := by simp [hstate]
  have hanchor := (anchor_after hopen).1
  rw [h, Bool.true_or, if_pos rfl] at hanchor
  generalize k.after config now d = k' at hstate hanchor
  cases k' with
  | opened n since => exact ⟨n, congrArg _ hanchor⟩
  | _ => cases hstate

theorem anchor_of_closed {k : Circuit} (h : k.state = .closed) : k.anchor = 0 := by
  cases k with
  | closed n => rfl
  | _ => cases h

/-- No rest begins in the future. -/
theorem after_anchor_le {config : CircuitConfig} {now : Nat} {k : Circuit} (h : k.anchor ≤ now)
    (d : Deed) : (k.after config now d).anchor ≤ now := by
  by_cases hclosed : (k.after config now d).state = .closed
  · rw [anchor_of_closed hclosed]
    exact Nat.zero_le now
  · rw [(anchor_after hclosed).1]
    split
    · exact Nat.le_refl now
    · exact h

/-- A rest begins later and later, until the circuit closes. -/
theorem anchor_le_after {config : CircuitConfig} {now : Nat} {k : Circuit} (h : k.anchor ≤ now)
    {d : Deed} (hd : (k.after config now d).state ≠ .closed) :
    k.anchor ≤ (k.after config now d).anchor := by
  rw [(anchor_after hd).1]
  split
  · exact h
  · exact Nat.le_refl _

end Circuit

/-! ## The circuits of all topics -/

namespace Circuits

/-- Something done to the circuit of a topic. -/
structure Event where
  time : Nat
  topic : String
  deed : Circuit.Deed
  deriving DecidableEq, Repr

/-- Lets something happen. -/
def step (c : Circuits) (e : Event) : Circuits :=
  match e.deed with
  | .acquire => (c.acquire e.time e.topic).2
  | .succeed => c.succeed e.topic
  | .fail => c.fail e.time e.topic
  | .reset => (c.reset e.topic).2

/-- Lets a list of things happen. -/
def run (c : Circuits) (es : List Event) : Circuits := es.foldl step c

/-- The circuits that the events of a run met. -/
def trace (c : Circuits) : List Event → List (Circuits × Event)
  | [] => []
  | e :: es => (c, e) :: trace (c.step e) es

theorem run_append (c : Circuits) (es es' : List Event) :
    c.run (es ++ es') = (c.run es).run es' := List.foldl_append

theorem run_append_cons (c : Circuits) (es es' : List Event) (e : Event) :
    c.run (es ++ e :: es') = ((c.run es).step e).run es' := c.run_append es (e :: es')

theorem run_concat (c : Circuits) (es : List Event) (e : Event) :
    c.run (es ++ [e]) = (c.run es).step e := c.run_append_cons es [] e

theorem trace_concat (c : Circuits) (es : List Event) (e : Event) :
    c.trace (es ++ [e]) = c.trace es ++ [(c.run es, e)] := by
  induction es generalizing c with
  | nil => rfl
  | cons e' es ih => exact congrArg _ (ih (c.step e'))

theorem circuitOf_set (c : Circuits) (topic topic' : String) (k : Circuit) :
    (c.set topic k).circuitOf topic' = if topic = topic' then k else c.circuitOf topic' := by
  unfold circuitOf set
  rw [Table.get?_put]
  split <;> rfl

theorem config_step (c : Circuits) (e : Event) : (c.step e).config = c.config := by
  obtain ⟨time, topic, deed⟩ := e
  cases deed with
  | acquire =>
    simp only [step, acquire]
    split <;> rfl
  | succeed =>
    simp only [step, succeed]
    split <;> rfl
  | fail =>
    simp only [step, fail]
    split <;> rfl
  | reset => rfl

theorem config_run (c : Circuits) (es : List Event) : (c.run es).config = c.config := by
  induction es generalizing c with
  | nil => rfl
  | cons e es ih => exact (ih (c.step e)).trans (c.config_step e)

theorem enabled_run {c : Circuits} (enabled : c.config.enabled = true) (es : List Event) :
    (c.run es).config.enabled = true := by
  rw [config_run]
  exact enabled

/-- **An event** concerns the circuit of its topic alone. -/
theorem circuitOf_step {c : Circuits} (enabled : c.config.enabled = true) (e : Event)
    (topic : String) :
    (c.step e).circuitOf topic =
      if e.topic = topic then (c.circuitOf topic).after c.config e.time e.deed
      else c.circuitOf topic := by
  obtain ⟨time, topic', deed⟩ := e
  cases deed with
  | acquire =>
    simp only [step, acquire, enabled, if_true, circuitOf_set]
    split
    · next h => rw [h]; rfl
    · rfl
  | succeed =>
    simp only [step, succeed, enabled, if_true, circuitOf_set]
    split
    · next h => rw [h]; rfl
    · rfl
  | fail =>
    simp only [step, fail, enabled, if_true, circuitOf_set]
    split
    · next h => rw [h]; rfl
    · rfl
  | reset =>
    simp only [step, reset, circuitOf, Table.get?_erase]
    split <;> rfl

/-- Whether a call may be made is up to the circuit of its topic. -/
theorem acquire_fst {c : Circuits} (enabled : c.config.enabled = true) (now : Nat)
    (topic : String) :
    (c.acquire now topic).1 = ((c.circuitOf topic).letThrough c.config.resetMs now).1 := by
  simp only [acquire, enabled, if_true]

end Circuits

end Switchboard
