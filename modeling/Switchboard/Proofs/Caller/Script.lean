import Mathlib.Data.List.Basic
import Switchboard.Proofs.Caller.Deeds

/-
  The retry policy, written down apart from the program.

  What becomes of a call depends on how its attempts fare: whether the circuit
  lets each of them through, what the bus answers, and how long the pause after
  it is.  `script` is what a call does whose attempts fare so, from its first
  question to the circuit to its result.

  * `script_rounds`: a script is one round for every attempt that is retried,
    followed by the script of the attempts that are left;
  * `script_complete`: what holds of every script as a whole — one result, one
    report for every request, one pause between two questions to the circuit;
  * `script_length`: a script is short, so a call that goes on comes to an end.
-/

namespace Switchboard.Caller

/-- How one attempt of a call fares. -/
structure Fare where
  /-- whether the circuit lets it through -/
  admitted : Bool
  /-- the result of its request -/
  reply : Reply
  /-- the pause after it, if it is retried -/
  pauseMs : Nat

namespace Fare

/-- Whether an attempt is retried, if a retry is left. -/
def again (topic : String) (w : Fare) : Bool :=
  w.admitted && match w.reply with
    | .ok _ => false
    | .error fault => (CallFault.ofBus fault topic).retriable

/-- What a call does in an attempt that is retried. -/
def round (w : Fare) : List Deed :=
  [.ask true, .send, .hear w.reply, .report false, .pause w.pauseMs]

/-- What a call does in its last attempt, after `i` others. -/
def last (topic : String) (i : Nat) (w : Fare) : List Deed :=
  if w.admitted then
    match w.reply with
    | .ok v => [.ask true, .send, .hear (.ok v), .report true, .finish (.ok v)]
    | .error fault =>
      [.ask true, .send, .hear (.error fault), .report false,
        .finish (.error (failure topic fault (i + 1)))]
  else [.ask false, .finish (.error (refusal topic i))]

end Fare

/-- **The retry policy**: what a call on a topic does that has made `i` attempts
    and has `left` retries left, when its attempts fare as `w` says. -/
def script (topic : String) (w : Nat → Fare) : (left i : Nat) → List Deed
  | 0, i => (w i).last topic i
  | left + 1, i =>
    if (w i).again topic then (w i).round ++ script topic w left (i + 1) else (w i).last topic i

variable {topic : String} {w w' : Nat → Fare} {left i k r : Nat}

/-! ## Rounds -/

/-- What a call does in its first `k` attempts, if all of them are retried. -/
def rounds (w : Nat → Fare) : Nat → List Deed
  | 0 => []
  | k + 1 => rounds w k ++ (w k).round

theorem rounds_congr (h : ∀ i < k, w i = w' i) : rounds w k = rounds w' k := by
  induction k with
  | zero => rfl
  | succ k ih =>
    rw [rounds, rounds, ih fun i hi => h i (by omega), h k (by omega)]

theorem script_last (h : (w i).again topic = true → left = 0) :
    script topic w left i = (w i).last topic i := by
  cases left with
  | zero => rfl
  | succ left =>
    have hlast : (w i).again topic ≠ true := fun hagain => by simpa using h hagain
    rw [script, if_neg hlast]

theorem script_again (h : (w i).again topic = true) :
    script topic w (left + 1) i = (w i).round ++ script topic w left (i + 1) := by
  rw [script, if_pos h]

theorem script_rounds (hk : k ≤ r) (h : ∀ i < k, (w i).again topic = true) :
    script topic w r 0 = rounds w k ++ script topic w (r - k) k := by
  induction k with
  | zero => rfl
  | succ k ih =>
    have hleft : r - k = r - (k + 1) + 1 := by omega
    rw [ih (by omega) fun i hi => h i (by omega), hleft, script_again (h k (by omega)), rounds,
      List.append_assoc]

/-- A script whose next attempt is let through begins with a request. -/
theorem script_admitted (h : (w i).admitted = true) :
    [.ask true, .send] <+: script topic w left i := by
  have hlast : [.ask true, .send] <+: (w i).last topic i := by
    unfold Fare.last
    rw [if_pos h]
    split
    · exact ⟨_, rfl⟩
    · exact ⟨_, rfl⟩
  cases left with
  | zero => exact hlast
  | succ left =>
    rw [script]
    split
    · exact ⟨_, rfl⟩
    · exact hlast

/-! ## What is counted -/

namespace Deed

@[simp] def isAsk : Deed → Bool
  | .ask _ => true
  | _ => false

@[simp] def isRefusal : Deed → Bool
  | .ask admitted => !admitted
  | _ => false

@[simp] def isSend : Deed → Bool
  | .send => true
  | _ => false

@[simp] def isTimeout : Deed → Bool
  | .hear (.error (.timeout ..)) => true
  | _ => false

@[simp] def isReport : Deed → Bool
  | .report _ => true
  | _ => false

@[simp] def isPause : Deed → Bool
  | .pause _ => true
  | _ => false

@[simp] def isSuccess : Deed → Bool
  | .finish (.ok _) => true
  | _ => false

@[simp] def isFailure : Deed → Bool
  | .finish (.error _) => true
  | _ => false

end Deed

/-- **What holds of all that a call does** from its attempt number `i` on, with
    `left` retries left, until it comes to a result. -/
structure Complete (topic : String) (left i : Nat) (ds : List Deed) (result : CallResult) :
    Prop where
  /-- the result comes last -/
  ends : ds.getLast? = some (.finish result)
  /-- and is the only one: the call succeeds once or fails once -/
  once : ds.countP Deed.isSuccess + ds.countP Deed.isFailure = 1
  succeeded : ds.countP Deed.isSuccess = 1 ↔ result.isOk = true
  /-- there is one report for every request -/
  reported : ds.countP Deed.isReport = ds.countP Deed.isSend
  /-- every question to the circuit leads to a request, unless it is refused -/
  asked : ds.countP Deed.isAsk = ds.countP Deed.isSend + ds.countP Deed.isRefusal
  /-- there is one pause between two questions -/
  paused : ds.countP Deed.isAsk = ds.countP Deed.isPause + 1
  /-- only the last question may be refused, and then that is the result -/
  refused : ds.countP Deed.isRefusal ≤ 1
  refusal : 0 < ds.countP Deed.isRefusal →
    result = .error (Caller.refusal topic (i + ds.countP Deed.isSend))
  bounded : ds.countP Deed.isSend ≤ left + 1
  /-- a failure tells how many requests were made -/
  attempts : ∀ f, result = .error f → f.attempts = i + ds.countP Deed.isSend

theorem last_complete (topic : String) (w : Fare) (left i : Nat) :
    ∃ result, Complete topic left i (w.last topic i) result := by
  unfold Fare.last
  split
  · cases w.reply with
    | ok v =>
      refine ⟨.ok v, ?_⟩
      constructor <;> simp [List.countP_cons, Except.isOk, Except.toBool]
    | error fault =>
      refine ⟨.error (failure topic fault (i + 1)), ?_⟩
      constructor <;> simp [List.countP_cons, Except.isOk, Except.toBool, failure]
  · refine ⟨.error (refusal topic i), ?_⟩
    constructor <;> simp [List.countP_cons, Except.isOk, Except.toBool, refusal]

theorem Complete.after_round {ds : List Deed} {result : CallResult} (w : Fare)
    (h : Complete topic left (i + 1) ds result) :
    Complete topic (left + 1) i (w.round ++ ds) result := by
  have hne : ds ≠ [] := by
    rintro rfl
    simpa using h.ends
  have hsends : (w.round ++ ds).countP Deed.isSend = ds.countP Deed.isSend + 1 := by
    simp [Fare.round, List.countP_cons]
  have hasks : (w.round ++ ds).countP Deed.isAsk = ds.countP Deed.isAsk + 1 := by
    simp [Fare.round, List.countP_cons]
  have hreports : (w.round ++ ds).countP Deed.isReport = ds.countP Deed.isReport + 1 := by
    simp [Fare.round, List.countP_cons]
  have hpauses : (w.round ++ ds).countP Deed.isPause = ds.countP Deed.isPause + 1 := by
    simp [Fare.round, List.countP_cons]
  have hrefusals : (w.round ++ ds).countP Deed.isRefusal = ds.countP Deed.isRefusal := by
    simp [Fare.round]
  constructor
  case ends => rw [List.getLast?_append_of_ne_nil _ hne, h.ends]
  case once => simpa [Fare.round] using h.once
  case succeeded => simpa [Fare.round] using h.succeeded
  case reported => rw [hreports, hsends, h.reported]
  case asked =>
    rw [hasks, hsends, hrefusals, h.asked]
    omega
  case paused => rw [hasks, hpauses, h.paused]
  case refused => rw [hrefusals]; exact h.refused
  case refusal =>
    intro hpos
    rw [hrefusals] at hpos
    rw [hsends, h.refusal hpos, Nat.add_right_comm, Nat.add_assoc]
  case bounded => rw [hsends]; exact Nat.succ_le_succ h.bounded
  case attempts =>
    intro f hf
    rw [hsends, h.attempts f hf]
    omega

/-- **Every script comes to a result, and is complete.** -/
theorem script_complete (topic : String) (w : Nat → Fare) (left i : Nat) :
    ∃ result, Complete topic left i (script topic w left i) result := by
  induction left generalizing i with
  | zero => exact last_complete topic (w i) 0 i
  | succ left ih =>
    rw [script]
    split
    · obtain ⟨result, h⟩ := ih (i + 1)
      exact ⟨result, h.after_round (w i)⟩
    · exact last_complete topic (w i) _ i

/-- The result is what the script ends with. -/
theorem Complete.result_eq {ds : List Deed} {result result' : CallResult}
    (h : Complete topic left i ds result) (hends : ds.getLast? = some (.finish result')) :
    result = result' := by
  simpa using h.ends.symm.trans hends

theorem last_length (topic : String) (w : Fare) (i : Nat) : (w.last topic i).length ≤ 5 := by
  unfold Fare.last
  split
  · split <;> simp
  · simp

theorem script_length (topic : String) (w : Nat → Fare) (left i : Nat) :
    (script topic w left i).length ≤ 5 * (left + 1) := by
  induction left generalizing i with
  | zero => exact last_length topic (w i) i
  | succ left ih =>
    rw [script]
    split
    · have := ih (i + 1)
      simp [Fare.round]
      omega
    · have := last_length topic (w i) i
      omega

end Switchboard.Caller
