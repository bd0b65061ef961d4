import Mathlib.Data.List.Induction
import Switchboard.Hub

/-
  Sessions of a hub — a hub, and everything that can happen to it.

  A session is a hub with a clock and the fan-outs that are under way.  Acts
  come in any order: subscribing and unsubscribing from outside or from a
  receiver that is at work, look-ups, payloads that are fanned out, receivers
  that end in any order, fan-outs that are given up, and time that passes.

  * `Act` lists what can happen, `Session.step` lets it happen;
  * `Session.run` does a list of acts, `Session.trace` lists the states in which
    they were done.
-/

namespace Switchboard.Hub

variable {H : Type}

/-- What can happen to a hub. -/
inductive Act (H : Type) where
  | subscribe (pattern : String) (handler : H) (metadata : Metadata)
  | unsubscribe (pattern id : String)
  | unsubscribePlugin (plugin : String)
  | find (topic : String)
  | publish (topic : String) (payload : Json)
  /-- the receiver at this place of a fan-out ends -/
  | conclude (fan place : Nat) (succeeded : Bool)
  /-- gives a fan-out up -/
  | drop (fan : Nat)
  | cleanup
  | invalidate
  | shutdown
  | wait (ms : Nat)

/-- The topic whose matches an act looks up. -/
def Act.lookup? : Act H → Option String
  | .find topic => some topic
  | .publish topic _ => if topicDefect? topic = none then some topic else none
  | _ => none

/-- A fan-out under way: its receivers, with the success or failure of those
    that have ended. -/
structure Fan (H : Type) where
  topic : String
  receivers : List (Subscription H × Option Bool)

namespace Fan

/-- A receiver ends; it ends once. -/
def conclude (f : Fan H) (place : Nat) (succeeded : Bool) : Fan H :=
  { f with receivers := f.receivers.modify place fun r => (r.1, r.2.or (some succeeded)) }

def isOver (f : Fan H) : Bool := f.receivers.all (·.2.isSome)

def delivered (f : Fan H) : Nat := f.receivers.countP (·.2 = some true)

end Fan

/-- A hub amid what happens to it. -/
structure Session (H : Type) where
  hub : Hub H
  now : Nat := 0
  /-- how many fan-outs were begun -/
  begun : Nat := 0
  /-- those of them that are under way -/
  fans : Table Nat (Fan H) := {}

namespace Session

/-- The beginning of a session. -/
def start (config : HubConfig) : Session H := { hub := .create config }

/-- Keeps a fan-out as it stands now, or takes in that it is over. -/
def carry (s : Session H) (n : Nat) (f : Fan H) : Session H :=
  if f.isOver then
    { s with
      hub := s.hub.conclude f.topic f.receivers.length f.delivered
      fans := s.fans.erase n }
  else { s with fans := s.fans.put n f }

/-- Lets something happen. -/
def step (s : Session H) : Act H → Session H
  | .subscribe pattern handler metadata =>
    { s with hub := (s.hub.subscribe pattern handler metadata).2 }
  | .unsubscribe pattern id => { s with hub := (s.hub.unsubscribe pattern id).2 }
  | .unsubscribePlugin plugin => { s with hub := (s.hub.unsubscribePlugin plugin).2 }
  | .find topic => { s with hub := (s.hub.find s.now topic).2 }
  | .publish topic payload =>
    match s.hub.publish s.now topic payload with
    | (.error _, hub) => { s with hub }
    | (.ok fan, hub) =>
      { s with hub, begun := s.begun + 1 }.carry s.begun
        ⟨topic, fan.receivers.map fun r => (r, none)⟩
  | .conclude n place succeeded =>
    match s.fans.get? n with
    | none => s
    | some f => s.carry n (f.conclude place succeeded)
  | .drop n => { s with fans := s.fans.erase n }
  | .cleanup => { s with hub := (s.hub.cleanup s.now).2 }
  | .invalidate => { s with hub := s.hub.invalidate }
  | .shutdown => { s with hub := s.hub.shutdown }
  | .wait ms => { s with now := s.now + ms }

/-- Lets a list of things happen. -/
def run (s : Session H) (acts : List (Act H)) : Session H := acts.foldl step s

/-- The states in which the acts of a run were done. -/
def trace (s : Session H) : List (Act H) → List (Session H × Act H)
  | [] => []
  | a :: acts => (s, a) :: trace (s.step a) acts

theorem run_concat (s : Session H) (acts : List (Act H)) (a : Act H) :
    s.run (acts ++ [a]) = (s.run acts).step a := List.foldl_append

theorem trace_concat (s : Session H) (acts : List (Act H)) (a : Act H) :
    s.trace (acts ++ [a]) = s.trace acts ++ [(s.run acts, a)] := by
  induction acts generalizing s with
  | nil => rfl
  | cons a' acts ih => exact congrArg _ (ih (s.step a'))

/-- **Invariants.**  What holds of an empty log and a new hub, and is kept by every
    act, holds after every run. -/
theorem run_induction {P : List (Session H × Act H) → Session H → Prop} {s : Session H}
    (h₀ : P [] s) (h : ∀ log s a, P log s → P (log ++ [(s, a)]) (s.step a))
    (acts : List (Act H)) : P (s.trace acts) (s.run acts) := by
  induction acts using List.reverseRecOn with
  | nil => exact h₀
  | append_singleton acts a ih =>
    rw [run_concat, trace_concat]
    exact h _ _ a ih

end Session

end Switchboard.Hub
