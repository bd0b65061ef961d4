import Switchboard.Hub
import Switchboard.Plugin.Guard
import Switchboard.Plugin.Manifest

/-
  The registry of plugins.

  Loading a plugin gives it a context made from its manifest; unloading removes
  all its subscriptions from the bus, and from the hub if the registry looks
  after one.
-/

namespace Switchboard

/-- The loaded plugins, and how many of their calls were denied. -/
structure Registry where
  plugins : Table String Manifest := {}
  denied : Nat := 0
  deriving Repr

/-- The stores that hold subscriptions of plugins. -/
structure Stores (H : Type) where
  bus : Bus H
  hub : Option (Hub H)
  deriving Repr

namespace Registry

variable {H : Type}

/-- Loads a plugin and answers its context. -/
def load (r : Registry) (m : Manifest) : Except PluginFault PluginContext × Registry :=
  if r.plugins.contains m.id then (.error (.alreadyLoaded m.id), r)
  else match Guard.ofPermissions m.id m.permissions with
    | .error f => (.error (.bus f), r)
    | .ok guard =>
      (.ok { plugin := m.id, guard := some guard }, { r with plugins := r.plugins.put m.id m })

/-- Unloads a plugin and answers how many subscriptions it had. -/
def unload (r : Registry) (s : Stores H) (id : String) :
    Except PluginFault Nat × Registry × Stores H :=
  if r.plugins.contains id then
    let (onBus, bus) := s.bus.unsubscribePlugin id
    let r := { r with plugins := r.plugins.erase id }
    match s.hub with
    | none => (.ok onBus, r, { s with bus })
    | some hub =>
      let (onHub, hub) := hub.unsubscribePlugin id
      (.ok (onBus + onHub), r, { bus, hub := some hub })
  else (.error (.notLoaded id), r, s)

/-- Loads a plugin anew, with a manifest that may have changed. -/
def reload (r : Registry) (s : Stores H) (m : Manifest) :
    Except PluginFault PluginContext × Registry × Stores H :=
  let (_, r, s) := r.unload s m.id
  let (result, r) := r.load m
  (result, r, s)

def isLoaded (r : Registry) (id : String) : Bool := r.plugins.contains id

/-- The manifests of the loaded plugins by id. -/
def loaded (r : Registry) : List Manifest := r.plugins.sortedRows.map (·.2)

end Registry

end Switchboard
