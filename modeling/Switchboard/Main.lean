import Switchboard.CommandLine

/-
  The outer layer of the program: it reads the files and the environment that
  the command line speaks of, and prints what comes of it.
-/

namespace Switchboard.Main

/-- The document of the settings that a path leads to; a folder holds none. -/
def sourceAt (path : String) : IO Settings.Source := do
  match ← (IO.FS.realPath path).toBaseIO with
  | .error _ => return .missing
  | .ok place => if ← place.isDir then return .none else return .document (← IO.FS.readFile place)

/-- The files that matter below a plugins directory. -/
def filesAt (path : String) : IO Files := do
  match ← (IO.FS.realPath path).toBaseIO with
  | .error _ => return []
  | .ok place =>
    if !(← place.isDir) then return [([], .file [])]
    let mut files : Files := [([], .folder)]
    for entry in ← place.readDir do
      if ← entry.path.isDir then
        let manifest := entry.path / Files.manifestName
        let inner := [entry.fileName, Files.manifestName]
        files := ([entry.fileName], .folder) :: files
        if ← manifest.isDir then files := (inner, .folder) :: files
        else if ← manifest.pathExists then
          files := (inner, .file (← IO.FS.readBinFile manifest).toList) :: files
    return files

/-- A line of the environment: a name, and a value behind the first equals
    sign. -/
def assignment? (line : List UInt8) : Option (String × String) := do
  let text ← Files.textOf? line
  match text.toList.span (· ≠ '=') with
  | (name, '=' :: value) => some (String.ofList name, String.ofList value)
  | _ => none

/-- The parts of a list between zeros. -/
def betweenZeros (bytes : List UInt8) : List (List UInt8) :=
  bytes.foldr (fun b parts =>
    if b = 0 then [] :: parts
    else match parts with
      | p :: ps => (b :: p) :: ps
      | [] => [[b]]) []

/-- The environment of the program, where the system shows it. -/
def environment : IO (List (String × String)) := do
  match ← (IO.FS.readBinFile "/proc/self/environ").toBaseIO with
  | .error _ => return []
  | .ok bytes => return (betweenZeros bytes.toList).filterMap assignment?

def outcomeOf (args : List String) : IO CommandLine.Outcome := do
  match CommandLine.Request.ofArgs args with
  | .error f => return .misused f
  | .ok .help => return .helped
  | .ok (.work a) =>
    let source ← match a.config with
      | some path => sourceAt path
      | none => pure .none
    let plugins ← match a.plugins with
      | some path => if a.printConfig then pure none else pure (some ⟨path, ← filesAt path, []⟩)
      | none => pure none
    return CommandLine.perform a source (← environment) plugins

end Switchboard.Main

def main (args : List String) : IO UInt32 := do
  let outcome ← try Switchboard.Main.outcomeOf args
    catch e => pure (.failed (toString e))
  if let some complaint := outcome.complaint then IO.eprintln complaint
  IO.print outcome.output
  return outcome.status.toUInt32
