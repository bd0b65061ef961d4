import Mathlib.Data.List.Induction
import Switchboard.Bus.Delivery

/-
  Sessions — a bus, and everything that can happen to it.

  A session is a bus with a clock, the requests that were made on it, and what
  is remembered of the message being delivered.  Acts come in any order:
  subscribing, publishing, requesting and shutting down from outside or from a
  handler that is running, steps of the drainer, handlers that end in any way,
  and time that passes.

  * `Act` lists what can happen, `Session.step` lets it happen;
  * `Session.run` does a list of acts, `Session.trace` lists the states in which
    they were done.
-/

namespace Switchboard.Bus

variable {H : Type}

/-- What can happen to a bus. -/
inductive Act (H : Type) where
  | subscribe (topic : String) (handler : H) (metadata : Metadata)
  | subscribePattern (pattern : String) (handler : H) (metadata : Metadata)
  /-- registers a responder -/
  | serve (topic : String) (handler : H) (metadata : Metadata)
  | unsubscribe (id : String)
  | unsubscribePlugin (plugin : String)
  | publish (topic : String) (payload : Json) (options : PublishOptions)
  | request (topic : String) (payload : Json) (options : RequestOptions)
  /-- looks after a request that waits -/
  | attend (call : Nat)
  /-- gives a request up -/
  | drop (call : Nat)
  | sweep (maxAge : Nat)
  | shutdown
  /-- a step of the drainer -/
  | turn
  /-- the handler that is running ends -/
  | finish (ending : Ending)
  | wait (ms : Nat)
  /-- what follows is done where a host is present, or absent -/
  | host (present : Bool)

/-- The subscription whose handler is running. -/
def running? (b : Bus H) : Option (Subscription (Listener H)) :=
  match b.drainer with
  | .delivering pass => pass.running
  | _ => none

/-- The subscriptions that listen to the message the drainer takes next. -/
def audience (b : Bus H) : List (Subscription (Listener H)) :=
  match b.queue.pop? with
  | some (p, _) => b.index.matching p.message.topic
  | none => []

/-- The failure of a delivery to a subscription whose handler ended. -/
def faultOf (s : Subscription (Listener H)) : Ending → Option HandlerFault
  | .broke f => some f
  | .failed f =>
    match s.handler with
    | .responder _ => none
    | _ => some f
  | .returned _ => none

/-- The failure that the end of the running handler means, with the id of its
    subscription. -/
def faultBy (b : Bus H) (ending : Ending) : List (String × HandlerFault) :=
  match b.running? with
  | some s => ((faultOf s ending).map fun f => (s.id, f)).toList
  | none => []

/-- The requests of a session, each with a number. -/
structure Calls where
  /-- how many were made -/
  made : Nat := 0
  /-- those that were opened -/
  opened : List (Nat × Ticket) := []
  /-- those of them that still wait -/
  waiting : List (Nat × Ticket) := []
  /-- the results they have got -/
  answers : List (Nat × Reply) := []

namespace Calls

/-- A request is opened. -/
def begin (k : Calls) (t : Ticket) : Calls :=
  { k with
    made := k.made + 1
    opened := k.opened ++ [(k.made, t)]
    waiting := k.waiting ++ [(k.made, t)] }

/-- A request is refused. -/
def refuse (k : Calls) (f : BusFault) : Calls :=
  { k with made := k.made + 1, answers := k.answers ++ [(k.made, .error f)] }

/-- A request is given up. -/
def drop (k : Calls) (n : Nat) : Calls := { k with waiting := k.waiting.filter (·.1 ≠ n) }

/-- A request gets its result. -/
def answer (k : Calls) (n : Nat) (r : Reply) : Calls :=
  { k.drop n with answers := k.answers ++ [(n, r)] }

end Calls

/-- A bus amid what happens to it. -/
structure Session (H : Type) where
  bus : Bus H
  now : Nat := 0
  calls : Calls := {}
  /-- the ids of the subscriptions that matched the message being delivered -/
  matched : List String := []
  /-- the failures of this delivery, with the ids of their subscriptions -/
  faults : List (String × HandlerFault) := []

namespace Session

/-- The beginning of a session. -/
def start (config : BusConfig) (hosted : Bool) : Session H := { bus := .create config hosted }

/-- Lets something happen. -/
def step (s : Session H) : Act H → Session H
  | .subscribe topic handler metadata =>
    { s with bus := (s.bus.subscribe topic (.subscriber handler) metadata).2 }
  | .subscribePattern pattern handler metadata =>
    { s with bus := (s.bus.subscribePattern pattern (.subscriber handler) metadata).2 }
  | .serve topic handler metadata =>
    { s with bus := (s.bus.subscribe topic (.responder handler) metadata).2 }
  | .unsubscribe id => { s with bus := (s.bus.unsubscribe id).2 }
  | .unsubscribePlugin plugin => { s with bus := (s.bus.unsubscribePlugin plugin).2 }
  | .publish topic payload options =>
    { s with bus := (s.bus.publish s.now topic payload options).2 }
  | .request topic payload options =>
    match s.bus.openRequest s.now topic payload options with
    | (.ok t, bus) => { s with bus, calls := s.calls.begin t }
    | (.error f, bus) => { s with bus, calls := s.calls.refuse f }
  | .attend n =>
    match s.calls.waiting.lookup n with
    | none => s
    | some t =>
      match s.bus.attend s.now t with
      | (some r, bus) => { s with bus, calls := s.calls.answer n r }
      | (none, bus) => { s with bus }
  | .drop n =>
    match s.calls.waiting.lookup n with
    | none => s
    | some t => { s with bus := s.bus.close t.correlation, calls := s.calls.drop n }
  | .sweep maxAge => { s with bus := (s.bus.sweepStale s.now maxAge).2 }
  | .shutdown => { s with bus := s.bus.shutdown }
  | .turn =>
    match s.bus.drainer with
    | .ready =>
      { s with bus := (s.bus.turn s.now).1, matched := s.bus.audience.map (·.id), faults := [] }
    | _ => { s with bus := (s.bus.turn s.now).1 }
  | .finish ending =>
    { s with bus := s.bus.finish s.now ending, faults := s.faults ++ s.bus.faultBy ending }
  | .wait ms => { s with now := s.now + ms }
  | .host present => { s with bus := { s.bus with hosted := present } }

/-- Lets a list of things happen. -/
def run (s : Session H) (acts : List (Act H)) : Session H := acts.foldl step s

/-- The states in which the acts of a run were done. -/
def trace (s : Session H) : List (Act H) → List (Session H × Act H)
  | [] => []
  | a :: acts => (s, a) :: trace (s.step a) acts

theorem step_request_bus (s : Session H) (topic : String) (payload : Json) (o : RequestOptions) :
    (s.step (.request topic payload o)).bus = (s.bus.openRequest s.now topic payload o).2 := by
  rcases h : s.bus.openRequest s.now topic payload o with ⟨f | t, b⟩ <;> simp only [step, h]

theorem step_turn_bus (s : Session H) : (s.step .turn).bus = (s.bus.turn s.now).1 := by
  rcases h : s.bus.drainer with _ | _ | pass <;> simp only [step, h]

@[simp] theorem run_nil (s : Session H) : s.run [] = s := rfl

@[simp] theorem run_cons (s : Session H) (a : Act H) (acts : List (Act H)) :
    s.run (a :: acts) = (s.step a).run acts := rfl

theorem run_append (s : Session H) (acts acts' : List (Act H)) :
    s.run (acts ++ acts') = (s.run acts).run acts' := List.foldl_append

theorem run_concat (s : Session H) (acts : List (Act H)) (a : Act H) :
    s.run (acts ++ [a]) = (s.run acts).step a := by rw [run_append]; rfl

theorem trace_append (s : Session H) (acts acts' : List (Act H)) :
    s.trace (acts ++ acts') = s.trace acts ++ (s.run acts).trace acts' := by
  induction acts generalizing s with
  | nil => rfl
  | cons a acts ih => simp [trace, ih]

theorem trace_concat (s : Session H) (acts : List (Act H)) (a : Act H) :
    s.trace (acts ++ [a]) = s.trace acts ++ [(s.run acts, a)] := trace_append s acts [a]

/-- What was done in a run was done after the acts before it. -/
theorem mem_trace {s s' : Session H} {a : Act H} {acts : List (Act H)}
    (h : (s', a) ∈ s.trace acts) :
    ∃ before after, acts = before ++ a :: after ∧ s' = s.run before := by
  induction acts generalizing s with
  | nil => cases h
  | cons b acts ih =>
    rcases List.mem_cons.1 h with heq | h
    · cases heq
      exact ⟨[], acts, rfl, rfl⟩
    · obtain ⟨before, after, rfl, rfl⟩ := ih h
      exact ⟨b :: before, after, rfl, rfl⟩

/-- **Invariants.**  What holds at the beginning and is kept by every act holds
    after every run; what is kept may depend on the acts done before. -/
theorem run_induction {P : List (Act H) → Session H → Prop} {s : Session H} (h₀ : P [] s)
    (h : ∀ acts a, P acts (s.run acts) → P (acts ++ [a]) ((s.run acts).step a))
    (acts : List (Act H)) : P acts (s.run acts) := by
  induction acts using List.reverseRecOn with
  | nil => exact h₀
  | append_singleton acts a ih => rw [run_concat]; exact h acts a ih

end Session

end Switchboard.Bus
