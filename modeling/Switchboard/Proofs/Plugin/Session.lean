import Mathlib.Data.List.Induction
import Switchboard.Plugin.Registry
import Switchboard.Proofs.Bus.Session
import Switchboard.Proofs.Plugin.Deed

/-
  Sessions of a registry — plugins that come and go, and what they do meanwhile.

  A session is a registry with the bus and the hub it looks after, and every
  context that was ever handed out: nothing takes a context away from a plugin
  that has been unloaded or loaded anew, so calls are made through any of them.
  Acts come in any order: loading, unloading and reloading, calls of plugins and
  what becomes of them later, and whatever else happens to the bus and the hub.

  * `Act` lists what can happen, `Session.step` lets it happen;
  * `Session.answer` is what a call is answered;
  * `Session.run` does a list of acts, `Session.trace` lists the states in which
    they were done.
-/

namespace Switchboard.Registry

variable {H : Type}

/-- A context that was handed out, and the manifest it was made from. -/
structure Handle where
  manifest : Manifest
  context : PluginContext

/-- What can happen to a registry and its plugins. -/
inductive Act (H : Type) where
  | load (m : Manifest)
  | unload (id : String)
  | reload (m : Manifest)
  /-- a call through one of the contexts handed out -/
  | call (handle : Nat) (call : PluginCall H)
  /-- looks after a call that waits; `draws` says what is drawn for its pauses -/
  | poll (id : Nat) (draws : Nat → Nat)
  /-- gives a call up -/
  | abandon (id : Nat)
  /-- whatever else happens to the bus -/
  | bus (act : Bus.Act H)
  /-- whatever else happens to the hub -/
  | hub (change : Hub H → Hub H)

/-- The call that still waits, if one does. -/
def waiting : Caller.CallProgress → List Call
  | .waiting call => [call]
  | .finished _ => []

/-- The call that an answer leaves waiting, if it does. -/
def left : PluginResult → List Call
  | .ok (.called progress) => waiting progress
  | _ => []

/-- A registry and its plugins amid what happens to them. -/
structure Session (H : Type) where
  registry : Registry := {}
  bus : Bus.Session H
  hub : Option (Hub H)
  caller : Caller
  /-- the contexts handed out, oldest first -/
  handles : List Handle := []
  /-- the calls that wait -/
  calls : List Call := []

namespace Session

/-- The beginning of a session. -/
def start (config : BusConfig) (hosted : Bool) (hub : Option (Hub H)) (caller : CallerConfig) :
    Session H :=
  { bus := .start config hosted, hub, caller := .create caller }

/-- What the registry looks after. -/
def stores (s : Session H) : Stores H := { bus := s.bus.bus, hub := s.hub }

/-- What the calls of plugins act upon. -/
def services (s : Session H) : Services H :=
  { bus := s.bus.bus, caller := s.caller, denied := s.registry.denied }

/-- The session with other stores. -/
def store (s : Session H) (stores : Stores H) : Session H :=
  { s with bus := { s.bus with bus := stores.bus }, hub := stores.hub }

/-- The session when a context has been handed out. -/
def grant (s : Session H) (m : Manifest) (context : PluginContext) : Session H :=
  { s with handles := s.handles ++ [⟨m, context⟩] }

/-- What a call is answered. -/
def answer (s : Session H) (h : Handle) (call : PluginCall H) : PluginResult :=
  (h.context.perform s.services call).1

/-- Lets something happen. -/
def step (s : Session H) : Act H → Session H
  | .load m =>
    match s.registry.load m with
    | (.error _, registry) => { s with registry }
    | (.ok context, registry) => { s with registry }.grant m context
  | .unload id =>
    match s.registry.unload s.stores id with
    | (_, registry, stores) => { s with registry }.store stores
  | .reload m =>
    match s.registry.reload s.stores m with
    | (.error _, registry, stores) => { s with registry }.store stores
    | (.ok context, registry, stores) => ({ s with registry }.store stores).grant m context
  | .call n call =>
    match s.handles[n]? with
    | none => s
    | some h =>
      match h.context.perform s.services call with
      | (result, context, services) =>
        { s with
          registry := { s.registry with denied := services.denied }
          bus := { s.bus with bus := services.bus }
          caller := services.caller
          handles := s.handles.set n { h with context }
          calls := s.calls ++ left result }
  | .poll id draws =>
    match s.calls.find? (·.id = id) with
    | none => s
    | some call =>
      match s.caller.poll s.bus.bus s.bus.now draws call with
      | (progress, caller, bus) =>
        { s with
          bus := { s.bus with bus }
          caller
          calls := s.calls.filter (·.id ≠ id) ++ waiting progress }
  | .abandon id =>
    match s.calls.find? (·.id = id) with
    | none => s
    | some call =>
      match s.caller.abandon s.bus.bus call with
      | (caller, bus) =>
        { s with bus := { s.bus with bus }, caller, calls := s.calls.filter (·.id ≠ id) }
  | .bus act => { s with bus := s.bus.step act }
  | .hub change => { s with hub := s.hub.map change }

/-- Lets a list of things happen. -/
def run (s : Session H) (acts : List (Act H)) : Session H := acts.foldl step s

/-- The states in which the acts of a run were done. -/
def trace (s : Session H) : List (Act H) → List (Session H × Act H)
  | [] => []
  | a :: acts => (s, a) :: trace (s.step a) acts

theorem run_append (s : Session H) (acts acts' : List (Act H)) :
    s.run (acts ++ acts') = (s.run acts).run acts' := List.foldl_append

theorem run_concat (s : Session H) (acts : List (Act H)) (a : Act H) :
    s.run (acts ++ [a]) = (s.run acts).step a := by rw [run_append]; rfl

theorem trace_concat (s : Session H) (acts : List (Act H)) (a : Act H) :
    s.trace (acts ++ [a]) = s.trace acts ++ [(s.run acts, a)] := by
  induction acts generalizing s with
  | nil => rfl
  | cons a' acts ih => exact congrArg _ (ih (s.step a'))

/-- **Invariants.**  What holds of an empty log and the beginning, and is kept by
    every act, holds after every run. -/
theorem run_induction {P : List (Session H × Act H) → Session H → Prop} {s : Session H}
    (h₀ : P [] s) (h : ∀ log s a, P log s → P (log ++ [(s, a)]) (s.step a))
    (acts : List (Act H)) : P (s.trace acts) (s.run acts) := by
  induction acts using List.reverseRecOn with
  | nil => exact h₀
  | append_singleton acts a ih =>
    rw [run_concat, trace_concat]
    exact h _ _ a ih

end Session

end Switchboard.Registry
