import Switchboard.Bus.Config
import Switchboard.Caller.Config
import Switchboard.Hub.Config
import Switchboard.Settings.Environment
import Switchboard.Toml.Reader
import Switchboard.Toml.Writer

/-
  The settings of the program.

  They come in layers: what is built in, then a document, then environment
  variables; a later layer hides what it sets in an earlier one.

  * `Settings.load` lays the layers over each other and reads the result;
  * `Settings.render` writes the settings as a document, `Settings.ofDocument?`
    reads one.
-/

namespace Switchboard

/-- What is logged, and how. -/
structure LogSettings where
  filter : String := "neo_bus=info,bus_runtime=info"
  /-- whether lines are objects -/
  json : Bool := false
  deriving DecidableEq, Repr, Inhabited

namespace LogSettings

def toJson (s : LogSettings) : Json := .obj [("filter", .str s.filter), ("json", .bool s.json)]

def fields : List (Json.Field LogSettings) :=
  [.of "filter" Json.text fun t s => { s with filter := t },
   .of "json" Json.boolean fun b s => { s with json := b }]

def ofJson (surplus : Json.Surplus) : Json.Shape LogSettings :=
  Json.fill "log settings" surplus fields {}

end LogSettings

structure Settings where
  log : LogSettings := {}
  bus : BusConfig := {}
  hub : HubConfig := {}
  caller : CallerConfig := {}
  deriving DecidableEq, Repr, Inhabited

/-- Why settings could not be loaded. -/
inductive SettingsFault where
  | notFound
  /-- what stands at a path cannot be read; the path is empty when the document
      itself is malformed -/
  | invalid (path : List String)
  /-- a value of the environment is cut inside a character -/
  | torn
  deriving DecidableEq, Repr

namespace Settings

def toJson (s : Settings) : Json :=
  .obj
    [("log", s.log.toJson), ("bus", s.bus.toJson), ("patterns", s.hub.toJson),
     ("rpc", s.caller.toJson)]

def fields (surplus : Json.Surplus) : List (Json.Field Settings) :=
  [.of "log" (LogSettings.ofJson surplus) fun c s => { s with log := c },
   .of "bus" (BusConfig.ofJson surplus) fun c s => { s with bus := c },
   .of "patterns" (HubConfig.ofJson surplus) fun c s => { s with hub := c },
   .of "rpc" (CallerConfig.ofJson surplus) fun c s => { s with caller := c }]

def ofJson (surplus : Json.Surplus) : Json.Shape Settings :=
  Json.fill "settings" surplus (fields surplus) {}

/-- The settings in a document, the rest as built in. -/
def ofDocument? (text : String) : Option Settings :=
  (Toml.parse text).bind fun v => (ofJson .passedOver v).toOption

/-- The document of some settings, if all numbers fit into it. -/
def render (s : Settings) : Option String := Toml.render s.toJson

/-- Where the document comes from. -/
inductive Source where
  /-- there is none -/
  | none
  /-- there should be one -/
  | missing
  | document (text : String)
  deriving DecidableEq, Repr

/-- Loads the settings. -/
def load (source : Source) (environment : List (String × String)) : Except SettingsFault Settings :=
  let builtIn := toJson {}
  let layers : Except SettingsFault (Option Json) := match source with
    | .none => .ok (some builtIn)
    | .missing => .error .notFound
    | .document text => .ok ((Toml.parse text).map fun v => Environment.cover v builtIn)
  match layers, Environment.layer environment with
  | .error f, _ => .error f
  | .ok _, none => .error .torn
  | .ok none, some _ => .error (.invalid [])
  | .ok (some v), some top =>
    match ofJson .passedOver (Environment.cover top v) with
    | .ok s => .ok s
    | .error m => .error (.invalid m.path)

end Settings

end Switchboard
