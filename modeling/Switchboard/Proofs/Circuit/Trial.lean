import Mathlib.Data.List.Induction
import Switchboard.Circuit
import Switchboard.Proofs.Table

/-
  Trials — whose report decides a half-open circuit.

  Calls on a topic ask to be made; one that is let through reports later how it
  went, after any delay.  Reports carry no sign of the call they come from.

  * `Callers` are the calls on a topic, with those that were let through as
    trials and those that were out when the circuit became half-open;
  * `half_open_decided`: the report that decides is that of a trial, or of a
    call that was out already;
  * `late_report_decides`: it need not be that of a trial.
-/

namespace Switchboard.Circuits

/-! ## Calls -/

/-- What a call on a topic does. -/
inductive Move where
  /-- it asks to be made -/
  | ask (call : Nat)
  /-- it tells how it went -/
  | report (call : Nat) (success : Bool)
  deriving DecidableEq, Repr

/-- The calls on a topic, each with a number. -/
structure Callers where
  circuits : Circuits
  asked : List Nat := []
  /-- those let through that have not reported -/
  out : List Nat := []
  /-- those let through as trials since the circuit last became half-open -/
  trials : List Nat := []
  /-- those that were out when the circuit last became half-open -/
  late : List Nat := []

namespace Callers

def start (config : CircuitConfig) : Callers := { circuits := { config } }

/-- A call asks to be made. -/
def ask (k : Callers) (topic : String) (now call : Nat) : Callers :=
  let (admitted, circuits) := k.circuits.acquire now topic
  let asked := call :: k.asked
  if admitted then
    match k.circuits.state topic with
    | .closed => { k with circuits, asked, out := call :: k.out }
    | .opened => { circuits, asked, out := call :: k.out, trials := [call], late := k.out }
    | .halfOpen => { k with circuits, asked, out := call :: k.out, trials := call :: k.trials }
  else { k with circuits, asked }

/-- A call that is out reports. -/
def report (k : Callers) (topic : String) (now call : Nat) (success : Bool) : Callers :=
  { k with
    circuits := if success then k.circuits.succeed topic else k.circuits.fail now topic
    out := k.out.filter (· ≠ call) }

/-- Lets a call do something at a time.  A call asks once, and reports once if it
    was let through. -/
def move (topic : String) (k : Callers) (now : Nat) : Move → Callers
  | .ask call => if call ∈ k.asked then k else k.ask topic now call
  | .report call success => if call ∈ k.out then k.report topic now call success else k

/-- Lets a list of things happen. -/
def run (topic : String) (k : Callers) (ms : List (Nat × Move)) : Callers :=
  ms.foldl (fun k m => k.move topic m.1 m.2) k

/-- The states in which the calls of a run did something. -/
def trace (topic : String) (k : Callers) : List (Nat × Move) → List (Callers × Nat × Move)
  | [] => []
  | m :: ms => (k, m) :: trace topic (k.move topic m.1 m.2) ms

/-- The state of the circuit. -/
def state (k : Callers) (topic : String) : CircuitState := k.circuits.state topic

end Callers

/-! ## What calls do to the circuit -/

theorem state_set (c : Circuits) (topic : String) (k : Circuit) :
    (c.set topic k).state topic = k.state := by
  simp only [state, circuitOf, set, Table.get?_put, if_true, Option.getD_some]

/-- Asking makes an open circuit half-open and is granted, or leaves the circuit
    in its state. -/
theorem state_acquire (c : Circuits) (now : Nat) (topic : String) :
    (c.acquire now topic).2.state topic = c.state topic ∨
      c.state topic = .opened ∧ (c.acquire now topic).1 = true := by
  unfold acquire
  split
  · simp only [state_set]
    rw [state]
    cases c.circuitOf topic with
    | closed n => exact Or.inl rfl
    | opened n since =>
      by_cases h : now - since < c.config.resetMs <;> simp [Circuit.letThrough, Circuit.state, h]
    | halfOpen n since trial =>
      by_cases h : c.config.resetMs ≤ now - trial <;> simp [Circuit.letThrough, Circuit.state, h]
  · exact Or.inl rfl

/-- A report of success closes the circuit, or leaves it in its state. -/
theorem state_succeed (c : Circuits) (topic : String) :
    (c.succeed topic).state topic = c.state topic ∨ (c.succeed topic).state topic = .closed := by
  unfold succeed
  split
  · rw [state_set, state]
    cases c.circuitOf topic with
    | closed n => exact Or.inl rfl
    | opened n since => exact Or.inl rfl
    | halfOpen n since trial => exact Or.inr rfl
  · exact Or.inl rfl

/-- A report of failure opens the circuit, or leaves it in its state. -/
theorem state_fail (c : Circuits) (now : Nat) (topic : String) :
    (c.fail now topic).state topic = c.state topic ∨ (c.fail now topic).state topic = .opened := by
  unfold fail
  split
  · rw [state_set, state]
    cases c.circuitOf topic with
    | closed n =>
      by_cases h : c.config.threshold ≤ Circuit.bump n <;> simp [Circuit.fail, Circuit.state, h]
    | opened n since => exact Or.inl rfl
    | halfOpen n since trial => exact Or.inr rfl
  · exact Or.inl rfl

namespace Callers

/-- What a report does to the state of the circuit: nothing, or what it says. -/
theorem report_state (k : Callers) (topic : String) (now call : Nat) (success : Bool) :
    (k.report topic now call success).state topic = k.state topic ∨
      (k.report topic now call success).state topic = if success then .closed else .opened := by
  cases success with
  | true => exact k.circuits.state_succeed topic
  | false => exact k.circuits.state_fail now topic

theorem ask_circuits (k : Callers) (topic : String) (now call : Nat) :
    (k.ask topic now call).circuits = (k.circuits.acquire now topic).2 := by
  unfold ask
  rcases k.circuits.acquire now topic with ⟨_ | _, c⟩
  · rfl
  · cases k.circuits.state topic <;> rfl

/-- Asking does not end a half-open period. -/
theorem ask_state {topic : String} {k : Callers} (h : k.state topic = .halfOpen) (now call : Nat) :
    (k.ask topic now call).state topic = .halfOpen := by
  rw [state, ask_circuits]
  rcases k.circuits.state_acquire now topic with hsame | ⟨hopen, -⟩
  · exact hsame.trans h
  · exact absurd (h.symm.trans hopen) (by decide)

/-! ## Who is out while the circuit is half-open -/

/-- While the circuit is half-open, whoever is out is a trial, or was out when
    it became half-open. -/
def Known (topic : String) (k : Callers) : Prop :=
  k.state topic = .halfOpen → ∀ n ∈ k.out, n ∈ k.trials ∨ n ∈ k.late

theorem start_known (topic : String) (config : CircuitConfig) : Known topic (start config) :=
  fun _ _ hn => absurd hn List.not_mem_nil

theorem ask_known {topic : String} {k : Callers} (h : Known topic k) (now call : Nat) :
    Known topic (k.ask topic now call) := by
  have hcircuit := k.circuits.state_acquire now topic
  unfold ask
  rcases ha : k.circuits.acquire now topic with ⟨admitted, c⟩
  rw [ha] at hcircuit
  intro hstate n hn
  cases hk : k.circuits.state topic <;> rw [hk] at hcircuit <;> cases admitted <;>
    simp only [hk, if_true, Bool.false_eq_true, if_false, state, List.mem_cons] at hstate hn ⊢
  -- the period goes on, or begins with the call as its first trial
  case closed.false | closed.true => simp [hstate] at hcircuit
  case opened.false => simp [hstate] at hcircuit
  case opened.true => exact hn.imp_left fun hcall => Or.inl hcall
  case halfOpen.false => exact h hk n hn
  case halfOpen.true =>
    rcases hn with hcall | hn
    · exact Or.inl (Or.inl hcall)
    · exact (h hk n hn).imp_left Or.inr

theorem report_known {topic : String} {k : Callers} (h : Known topic k) (now call : Nat)
    (success : Bool) : Known topic (k.report topic now call success) := by
  intro hstate n hn
  have hbefore : k.state topic = .halfOpen := by
    rcases k.report_state topic now call success with hsame | hsaid
    · exact hsame.symm.trans hstate
    · cases success <;> exact absurd (hsaid.symm.trans hstate) (by decide)
  exact h hbefore n (List.mem_filter.mp hn).1

theorem move_known {topic : String} {k : Callers} (h : Known topic k) (now : Nat) (m : Move) :
    Known topic (k.move topic now m) := by
  cases m with
  | ask call =>
    rw [move]
    split
    · exact h
    · exact ask_known h now call
  | report call success =>
    rw [move]
    split
    · exact report_known h now call success
    · exact h

theorem trace_known {topic : String} {k : Callers} (h : Known topic k) (ms : List (Nat × Move)) :
    ∀ t ∈ k.trace topic ms, Known topic t.1 := by
  induction ms generalizing k with
  | nil => simp [trace]
  | cons m ms ih =>
    rw [trace, List.forall_mem_cons]
    exact ⟨h, ih (move_known h m.1 m.2)⟩

/-! ## Who ends a half-open period -/

/-- A half-open period ends with the report of a call that is out, which closes
    the circuit if it went well and opens it if not. -/
theorem move_of_leaves {topic : String} {k : Callers} {now : Nat} {m : Move}
    (h : k.state topic = .halfOpen) (hleaves : (k.move topic now m).state topic ≠ .halfOpen) :
    ∃ call success, m = .report call success ∧ call ∈ k.out ∧
      (k.move topic now m).state topic = if success then .closed else .opened := by
  cases m with
  | ask call =>
    rw [move] at hleaves
    split at hleaves
    · exact absurd h hleaves
    · exact absurd (ask_state h now call) hleaves
  | report call success =>
    rw [move] at hleaves ⊢
    split at hleaves
    case isTrue hout =>
      refine ⟨call, success, rfl, hout, ?_⟩
      rw [if_pos hout]
      exact (k.report_state topic now call success).resolve_left fun hsame =>
        hleaves (hsame.trans h)
    case isFalse => exact absurd h hleaves

/-- **The end of a half-open period** is the report of a trial of the period, or
    of a call that was out before the period began; the circuit closes on a
    success and opens on a failure. -/
theorem half_open_decided (topic : String) (config : CircuitConfig) (ms : List (Nat × Move))
    (k : Callers) (now : Nat) (m : Move) (hk : (k, now, m) ∈ (start config).trace topic ms)
    (hstate : k.state topic = .halfOpen)
    (hleaves : (k.move topic now m).state topic ≠ .halfOpen) :
    ∃ call success, m = .report call success ∧ (call ∈ k.trials ∨ call ∈ k.late) ∧
      (k.move topic now m).state topic = if success then .closed else .opened := by
  obtain ⟨call, success, hm, hout, hnew⟩ := move_of_leaves hstate hleaves
  have hknown := trace_known (start_known topic config) ms _ hk
  exact ⟨call, success, hm, hknown hstate call hout, hnew⟩

/-- A trial and a call made before the circuit opened are out; the call
    reports, and decides. -/
theorem half_open_decided_late :
    let k := (start { threshold := 1, resetMs := 50 }).run "svc"
      [(0, .ask 0), (0, .ask 1), (10, .report 1 false), (60, .ask 2)]
    k.trials = [2] ∧ ∃ call success, Move.report 0 true = .report call success ∧
      (call ∈ k.trials ∨ call ∈ k.late) ∧
        (k.move "svc" 100 (.report 0 true)).state "svc" = if success then .closed else .opened :=
  ⟨rfl, half_open_decided "svc" { threshold := 1, resetMs := 50 }
    [(0, .ask 0), (0, .ask 1), (10, .report 1 false), (60, .ask 2), (100, .report 0 true)] _ 100 _
    (.tail _ (.tail _ (.tail _ (.tail _ (.head _))))) (by decide) (by decide)⟩

/-- Whether trials alone decide: a half-open circuit changes its state only by
    the report of a trial of the period. -/
def OnlyTrials (topic : String) (k : Callers) (ms : List (Nat × Move)) : Prop :=
  ∀ t ∈ k.trace topic ms, t.1.state topic = .halfOpen →
    (t.1.move topic t.2.1 t.2.2).state topic ≠ .halfOpen →
      ∃ call ∈ t.1.trials, ∃ success, t.2.2 = .report call success

instance (topic : String) (k : Callers) (ms : List (Nat × Move)) :
    Decidable (OnlyTrials topic k ms) :=
  inferInstanceAs (Decidable (∀ t ∈ k.trace topic ms, t.1.state topic = .halfOpen →
    (t.1.move topic t.2.1 t.2.2).state topic ≠ .halfOpen →
      ∃ call ∈ t.1.trials, ∃ success, t.2.2 = .report call success))

/-- A call made before the circuit opened reports while a trial is out, and
    closes the circuit. -/
theorem late_report_decides :
    ¬ OnlyTrials "svc" (start { threshold := 1, resetMs := 50 })
      [(0, .ask 0), (0, .ask 1), (10, .report 1 false), (60, .ask 2), (100, .report 0 true)] := by
  decide

end Callers

end Switchboard.Circuits
