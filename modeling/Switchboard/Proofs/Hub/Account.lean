import Switchboard.Bus.Delivery
import Switchboard.Proofs.Hub.Announcing
import Switchboard.Proofs.Lists

/-
  The account of a fan-out — who was to be invoked, who was, and what came of it.

  A session keeps of a fan-out only who has ended and how.  An account keeps more:
  the subscriptions that matched when the payload was accepted, every invocation
  of a receiver as it is made, and the answer that the publisher was given.

  * `Stage`: how far the invocation of one receiver has come;
  * `Account` and what can happen to it: `call`, `finish`, `drop`;
  * `Account.fan`: what the session keeps of it;
  * `Account.Fair`: invocations and answer agree with the stages of the receivers,
    kept by whatever happens; `Fair.exact`: once it is answered, everybody who
    matched has been invoked once, and the answer says how many succeeded.
-/

namespace Switchboard

/-- Whether a handler succeeded. -/
def Ending.succeeded : Ending → Bool
  | .returned _ => true
  | .failed _ | .broke _ => false

namespace Hub

variable {H : Type}

/-! ## Stages -/

/-- How far the invocation of a receiver has come. -/
inductive Stage where
  | due
  | called
  | ended (e : Ending)

namespace Stage

/-- What the publisher waits for: whether the receiver succeeded. -/
def result? : Stage → Option Bool
  | .ended e => some e.succeeded
  | .due | .called => none

def wasCalled : Stage → Bool
  | .due => false
  | .called | .ended _ => true

end Stage

/-- Whoever was invoked at a place. -/
def invoked? (p : Subscription H × Stage) : Option (Subscription H) :=
  if p.2.wasCalled then some p.1 else none

/-! ## Accounts -/

/-- What a publisher is answered: how many receivers succeeded, once they all have
    ended. -/
def Fan.answer? (f : Fan H) : Option Nat := if f.isOver then some f.delivered else none

/-- What is known of a fan-out. -/
structure Account (H : Type) where
  topic : String
  /-- the subscriptions that matched when the payload was accepted -/
  matched : List (Subscription H)
  /-- those that are to be invoked, and how far that has come -/
  receivers : List (Subscription H × Stage)
  /-- those that were invoked, the first one first -/
  calls : List (Subscription H) := []
  /-- what the publisher was answered -/
  answer : Option Nat := none
  /-- whether the publisher has given up -/
  dropped : Bool := false

namespace Account

/-- What the session keeps of it. -/
def fan (r : Account H) : Fan H := ⟨r.topic, r.receivers.map fun p => (p.1, p.2.result?)⟩

def isOver (r : Account H) : Bool := r.receivers.all (·.2.result?.isSome)

/-- How many receivers succeeded. -/
def delivered (r : Account H) : Nat := r.receivers.countP (·.2.result? = some true)

/-- How many receivers failed or panicked. -/
def failed (r : Account H) : Nat := r.receivers.countP (·.2.result? = some false)

/-- Whether the fan-out is under way. -/
def isOpen (r : Account H) : Bool := r.answer.isNone && !r.dropped

/-- What the session keeps of it, if it is under way. -/
def fan? (r : Account H) : Option (Fan H) := if r.isOpen then some r.fan else none

/-- What is announced of it: nothing before it is answered. -/
def event? (r : Account H) : Option HubEvent :=
  if r.answer.isSome then some (.published r.topic r.matched.length r.delivered r.failed) else none

/-! ### What can happen -/

/-- A payload is accepted. -/
def opened (topic : String) (matched : List (Subscription H)) (f : Fan H) : Account H :=
  { topic, matched, receivers := f.receivers.map fun p => (p.1, .due), answer := f.answer? }

/-- The receiver at a place is invoked, if it has not been. -/
def call (r : Account H) (place : Nat) : Account H :=
  match r.isOpen, r.receivers[place]? with
  | true, some (sub, .due) =>
    { r with receivers := r.receivers.set place (sub, .called), calls := r.calls ++ [sub] }
  | _, _ => r

/-- The receiver that is at work at a place. -/
def atWork? (r : Account H) (place : Nat) : Option (Subscription H) :=
  match r.isOpen, r.receivers[place]? with
  | true, some (sub, .called) => some sub
  | _, _ => none

/-- A receiver that is at work ends. -/
def finish (r : Account H) (place : Nat) (sub : Subscription H) (e : Ending)
    (answer : Option Nat) : Account H :=
  { r with receivers := r.receivers.set place (sub, .ended e), answer }

/-- The publisher gives up, unless it has been answered. -/
def drop (r : Account H) : Account H := { r with dropped := r.dropped || r.answer.isNone }

theorem fan_isOver (r : Account H) : r.fan.isOver = r.isOver := by
  simp only [Fan.isOver, fan, isOver, List.all_map]
  rfl

theorem fan_delivered (r : Account H) : r.fan.delivered = r.delivered := by
  simp only [Fan.delivered, fan, delivered, List.countP_map]
  rfl

theorem call_eq_some {r : Account H} {place : Nat} {sub : Subscription H} (hopen : r.isOpen = true)
    (hdue : r.receivers[place]? = some (sub, .due)) :
    r.call place =
      { r with receivers := r.receivers.set place (sub, .called), calls := r.calls ++ [sub] } := by
  simp only [call, hopen, hdue]

theorem isOpen_iff (r : Account H) : r.isOpen = true ↔ r.answer = none ∧ r.dropped = false := by
  simp [isOpen]

theorem event?_of_isOpen {r : Account H} (hopen : r.isOpen = true) : r.event? = none := by
  rw [event?, (r.isOpen_iff.1 hopen).1]
  rfl

/-- An invocation is not reported. -/
theorem event?_call (r : Account H) (place : Nat) : (r.call place).event? = r.event? := by
  unfold call
  split
  · next hopen _ =>
    rw [event?_of_isOpen hopen]
    exact event?_of_isOpen hopen
  · rfl

/-- Whoever gives up waits for nobody. -/
theorem fan?_drop (r : Account H) : r.drop.fan? = none := by
  refine if_neg fun hopen => ?_
  obtain ⟨hanswer, hdropped⟩ := r.drop.isOpen_iff.1 hopen
  obtain ⟨-, hsome⟩ := Bool.or_eq_false_iff.1 hdropped
  rw [show r.answer = none from hanswer] at hsome
  cases hsome

theorem atWork?_eq_some {r : Account H} {place : Nat} {sub : Subscription H} :
    r.atWork? place = some sub ↔
      r.isOpen = true ∧ r.receivers[place]? = some (sub, .called) := by
  constructor
  · intro h
    unfold atWork? at h
    split at h
    · next hopen hcalled =>
      cases h
      exact ⟨hopen, hcalled⟩
    · cases h
  · rintro ⟨hopen, hcalled⟩
    simp only [atWork?, hopen, hcalled]

/-! ### Fair accounts -/

/-- Invocations and answer agree with the stages of the receivers. -/
structure Fair (r : Account H) : Prop where
  receivers : r.receivers.map (·.1) = r.matched
  distinct : (r.matched.map (·.id)).Nodup
  calls : r.calls.Perm (r.receivers.filterMap invoked?)
  /-- it is answered as soon as everybody has ended -/
  answer : r.dropped = false → r.answer = r.fan.answer?
  unanswered : r.dropped = true → r.answer = none

namespace Fair

variable {r : Account H}

theorem answer_eq (h : r.Fair) {n : Nat} (hanswer : r.answer = some n) :
    r.isOver = true ∧ n = r.delivered := by
  have hkept : r.dropped = false := by
    rw [Bool.eq_false_iff]
    intro hdropped
    rw [h.unanswered hdropped] at hanswer
    cases hanswer
  rw [h.answer hkept, Fan.answer?, fan_isOver, fan_delivered] at hanswer
  split at hanswer
  · next hover => exact ⟨hover, (Option.some.inj hanswer).symm⟩
  · cases hanswer

/-- Whoever has ended succeeded or failed. -/
theorem delivered_add_failed (hover : r.isOver = true) :
    r.delivered + r.failed = r.receivers.length := by
  have hended : ∀ p ∈ r.receivers, p.2.result?.isSome = true := by
    simpa [isOver, List.all_eq_true] using hover
  unfold delivered failed
  generalize r.receivers = receivers at hended
  induction receivers with
  | nil => rfl
  | cons p receivers ih =>
    have hrest := ih fun q hq => hended q (List.mem_cons_of_mem _ hq)
    obtain ⟨b, hb⟩ := Option.isSome_iff_exists.1 (hended p List.mem_cons_self)
    rw [List.countP_cons, List.countP_cons, List.length_cons, hb, ← hrest]
    cases b <;> simp <;> omega

theorem filterMap_invoked_sublist (receivers : List (Subscription H × Stage)) :
    (receivers.filterMap invoked?).Sublist (receivers.map (·.1)) := by
  induction receivers with
  | nil => exact .slnil
  | cons p receivers ih =>
    rw [List.filterMap_cons, List.map_cons, invoked?]
    by_cases hp : p.2.wasCalled = true
    · rw [if_pos hp]
      exact ih.cons_cons _
    · rw [if_neg hp]
      exact ih.cons _

/-- Nobody is invoked twice, and nobody who did not match. -/
theorem once (h : r.Fair) : (r.calls.map (·.id)).Nodup ∧ ∀ sub ∈ r.calls, sub ∈ r.matched := by
  have hsub : (r.receivers.filterMap invoked?).Sublist r.matched := by
    rw [← h.receivers]
    exact filterMap_invoked_sublist r.receivers
  constructor
  · exact (h.calls.map _).nodup_iff.2 ((hsub.map _).nodup h.distinct)
  · intro sub hmem
    exact hsub.subset (h.calls.mem_iff.1 hmem)

/-- **An answer**: everybody who matched was invoked once, and those who succeeded
    are counted in it. -/
theorem exact (h : r.Fair) {n : Nat} (hanswer : r.answer = some n) :
    r.calls.Perm r.matched ∧ n = r.delivered ∧ r.matched.length = r.delivered + r.failed := by
  obtain ⟨hover, hn⟩ := h.answer_eq hanswer
  have hinvoked : ∀ p ∈ r.receivers, invoked? p = some p.1 := by
    intro p hp
    have hended : p.2.result?.isSome = true := List.all_eq_true.1 hover p hp
    unfold invoked?
    cases hstage : p.2 with
    | due | called => rw [hstage] at hended; cases hended
    | ended e => rfl
  refine ⟨?_, hn, ?_⟩
  · have hall : r.receivers.filterMap invoked? = r.receivers.map (·.1) := by
      rw [List.filterMap_congr hinvoked]
      exact congrFun (List.filterMap_eq_map (f := Prod.fst)) _
    rw [← h.receivers, ← hall]
    exact h.calls
  · rw [delivered_add_failed hover, ← h.receivers, List.length_map]

/-- The session has under way what the account says. -/
theorem fan?_eq (h : r.Fair) (hkept : r.dropped = false) :
    r.fan? = if r.fan.isOver then none else some r.fan := by
  simp only [fan?, isOpen, h.answer hkept, hkept, Fan.answer?]
  split <;> rfl

/-- The session reports what the account says. -/
theorem event?_eq (h : r.Fair) (hkept : r.dropped = false) : r.event?.toList = r.fan.report := by
  by_cases hover : r.fan.isOver = true
  · have hanswer : r.answer = some r.fan.delivered := by
      rw [h.answer hkept, Fan.answer?, if_pos hover]
    obtain ⟨-, -, hcount⟩ := h.exact hanswer
    have hlength : r.fan.receivers.length = r.matched.length := by
      rw [fan, List.length_map, ← h.receivers, List.length_map]
    have hfailed : r.matched.length - r.delivered = r.failed := by omega
    rw [event?, hanswer, Fan.report, if_pos hover, hlength, fan_delivered, hfailed]
    rfl
  · rw [event?, h.answer hkept, Fan.answer?, Fan.report, if_neg hover, if_neg hover]
    rfl

/-! ### What keeps them fair -/

theorem opened {topic : String} {matched : List (Subscription H)} {f : Fan H}
    (hmatched : f.receivers = matched.map fun sub => (sub, none)) (htopic : f.topic = topic)
    (hids : (matched.map (·.id)).Nodup) :
    (Account.opened topic matched f).Fair ∧ (Account.opened topic matched f).fan = f := by
  have hfan : (Account.opened topic matched f).fan = f := by
    obtain ⟨ftopic, receivers⟩ := f
    obtain rfl : receivers = matched.map fun sub => (sub, none) := hmatched
    obtain rfl : ftopic = topic := htopic
    simp [Account.opened, fan, Stage.result?, Function.comp_def]
  refine ⟨⟨?_, hids, ?_, fun _ => ?_, fun h => ?_⟩, hfan⟩
  · simp [Account.opened, hmatched, Function.comp_def]
  · have hnobody : ∀ p ∈ (Account.opened topic matched f).receivers, invoked? p = none := by
      intro p hp
      obtain ⟨q, -, rfl⟩ := List.mem_map.1 hp
      rfl
    rw [List.filterMap_eq_nil_iff.2 hnobody]
    exact .refl _
  · rw [hfan]
    rfl
  · cases h

theorem call (h : r.Fair) (place : Nat) :
    (r.call place).Fair ∧ (r.call place).fan = r.fan ∧ (r.call place).answer = r.answer ∧
      (r.call place).dropped = r.dropped := by
  unfold Account.call
  split
  · next sub hopen hdue =>
    have hfan : (r.call place).fan = r.fan := by
      rw [call_eq_some hopen hdue]
      exact congrArg (Fan.mk r.topic) (List.map_set_of_eq (y := (sub, .called)) hdue rfl)
    rw [call_eq_some hopen hdue] at hfan
    refine ⟨⟨?_, h.distinct, ?_, fun hkept => ?_, h.unanswered⟩, hfan, rfl, rfl⟩
    · exact (List.map_set_of_eq (y := (sub, .called)) hdue rfl).trans h.receivers
    · exact (h.calls.append_right _).trans
        (List.filterMap_set_perm (y := (sub, .called)) hdue rfl).symm
    · rw [hfan]
      exact h.answer hkept
  · exact ⟨h, rfl, rfl, rfl⟩

/-- The session takes in the end of a receiver as the account does. -/
theorem fan_finish {place : Nat} {sub : Subscription H} (hwork : r.atWork? place = some sub)
    (e : Ending) (answer : Option Nat) :
    (r.finish place sub e answer).fan = r.fan.conclude place e.succeeded := by
  have hcalled := (atWork?_eq_some.1 hwork).2
  refine congrArg (Fan.mk r.topic) (Eq.symm ?_)
  exact List.modify_map hcalled rfl

theorem finish (h : r.Fair) {place : Nat} {sub : Subscription H}
    (hwork : r.atWork? place = some sub) (e : Ending) :
    (r.finish place sub e (r.fan.conclude place e.succeeded).answer?).Fair := by
  obtain ⟨hopen, hcalled⟩ := atWork?_eq_some.1 hwork
  have hkept := (r.isOpen_iff.1 hopen).2
  refine ⟨?_, h.distinct, ?_, fun _ => ?_, fun hdropped => ?_⟩
  · exact (List.map_set_of_eq (y := (sub, .ended e)) hcalled rfl).trans h.receivers
  · refine h.calls.trans (.of_eq ?_)
    exact (List.filterMap_set_of_eq (f := invoked?) (y := (sub, .ended e)) hcalled rfl).symm
  · rw [fan_finish hwork]
    rfl
  · exact absurd (hkept.symm.trans hdropped) Bool.false_ne_true

theorem drop (h : r.Fair) : r.drop.Fair where
  receivers := h.receivers
  distinct := h.distinct
  calls := h.calls
  answer hkept := h.answer (Bool.or_eq_false_iff.1 hkept).1
  unanswered hdropped := by
    rcases Bool.or_eq_true_iff.1 hdropped with hdropped | hnone
    · exact h.unanswered hdropped
    · exact Option.isNone_iff_eq_none.1 hnone

end Fair

end Account

end Hub

end Switchboard
