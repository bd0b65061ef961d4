import Switchboard.Json.Reader
import Switchboard.Plugin.Permission

/-
  Manifests — what a plugin says about itself, and where it is read from.

  A plugin folder holds a manifest as JSON text.
-/

namespace Switchboard

/-- What a plugin says about itself. -/
structure Manifest where
  id : String
  name : String
  version : String := "1.0.0"
  description : Option String := none
  permissions : Permissions := {}
  deriving DecidableEq, Repr, Inhabited

namespace Manifest

/-- The manifest of a plugin that is named by its id. -/
def ofId (id : String) (permissions : Permissions) : Manifest := { id, name := id, permissions }

def toJson (m : Manifest) : Json :=
  .obj
    [("id", .str m.id), ("name", .str m.name), ("version", .str m.version),
     ("description", Json.orNull .str m.description), ("permissions", m.permissions.toJson)]

def ofJson (v : Json) : Except Json.Mismatch Manifest := do
  let base : Manifest := default
  let ms ← Json.membersOf "a manifest" ["id", "name", "version", "description", "permissions"] v
  let id ← Json.required ms "id" Json.text
  let name ← Json.required ms "name" Json.text
  let version ← Json.withDefault ms "version" base.version Json.text
  let description ← Json.optional ms "description" Json.text
  let permissions ← Json.withDefault ms "permissions" {} Permissions.ofJson
  return { id, name, version, description, permissions }

/-- The manifest written in a text, if it is one. -/
def ofText? (text : String) : Option Manifest :=
  match Json.skim text with
  | .ok v => (ofJson v).toOption
  | .error _ => none

end Manifest

end Switchboard
