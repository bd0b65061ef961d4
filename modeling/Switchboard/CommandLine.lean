import Switchboard.CommandLine.Usage
import Switchboard.Soak

/-
  The program — printing its settings, or making a soak run and printing the
  report.

  * `perform` does what was asked for, given everything it needs to know of the
    world: the document of the settings, the environment, the plugins
    directory;
  * `Outcome` is what came of it, with its exit status and its output.
-/

namespace Switchboard

def SettingsFault.message : SettingsFault → String
  | .notFound => "Configuration file not found"
  | .invalid [] => "Invalid configuration"
  | .torn => "A value of the environment is cut inside a character"
  | .invalid path => "Invalid configuration: " ++ ".".intercalate path

namespace CommandLine

/-- What came of a call of the program. -/
inductive Outcome where
  | misused (fault : UsageFault)
  | helped
  | failed (message : String)
  /-- the work broke off with nothing left to report on -/
  | brokenOff (message : String)
  /-- the settings as a document -/
  | printed (document : String)
  | reported (report : Soak.Report)
  deriving Repr

namespace Outcome

def status : Outcome → Nat
  | misused _ => 2
  | failed _ => 1
  | brokenOff _ => 101
  | _ => 0

/-- What is printed. -/
def output : Outcome → String
  | misused _ | failed _ | brokenOff _ => ""
  | helped => helpText
  | printed document => document
  | reported r => r.toJson.pretty ++ "\n"

/-- What is complained about, if anything. -/
def complaint : Outcome → Option String
  | misused f => some f.message
  | failed message => some ("Error: " ++ message)
  | brokenOff message => some message
  | _ => none

end Outcome

/-- Does what was asked for. -/
def perform (a : Arguments) (source : Settings.Source) (environment : List (String × String))
    (plugins : Option Soak.Directory) : Outcome :=
  match Settings.load source environment with
  | .error .torn => .brokenOff SettingsFault.torn.message
  | .error f => .failed f.message
  | .ok s =>
    if a.printConfig then
      match s.render with
      | some document => .printed document
      | none => .failed "Failed to render configuration"
    else
      match Soak.run s a.messages plugins with
      | .ok r => .reported r
      | .error f => .failed f.message

end CommandLine

end Switchboard
