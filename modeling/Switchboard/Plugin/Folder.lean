import Switchboard.Plugin.Manifest
import Switchboard.Table

/-
  Plugin folders — collecting the manifests below a directory.

  Every folder in the directory may hold a manifest.  Folders are visited by
  name; a manifest that cannot be understood, and one whose id was seen before,
  is passed over.  What cannot be read at all ends the collection.

  * `Files` is a tree of files, `Files.look` what stands at a path;
  * `Files.manifests` collects the manifests below a directory.
-/

namespace Switchboard

/-- A file or a folder in a tree of files. -/
inductive FileEntry where
  | folder
  | file (bytes : List UInt8)
  deriving Repr

/-- A tree of files, given by the paths of its entries; the folders on the way
    to an entry need no entry of their own. -/
abbrev Files := List (List String × FileEntry)

/-- What stands at a path. -/
inductive FileView where
  | missing
  /-- the path leads through a file -/
  | blocked
  | folder
  | file (bytes : List UInt8)
  deriving Repr

namespace Files

/-- What stands at a path. -/
def look (files : Files) (path : List String) : FileView :=
  let isFile (e : List String × FileEntry) := match e.2 with
    | .file _ => true
    | .folder => false
  match files.find? fun e => e.1 = path && isFile e with
  | some (_, .file bytes) => .file bytes
  | _ =>
    if files.any fun e => isFile e && e.1.length < path.length && e.1.isPrefixOf path then .blocked
    else if path = [] || files.any fun e => path.isPrefixOf e.1 then .folder
    else .missing

/-- The names of the folders in a folder. -/
def foldersIn (files : Files) (path : List String) : List String :=
  let below := files.filterMap fun e =>
    if path.isPrefixOf e.1 then (e.1.drop path.length).head? else none
  let names := below.eraseDups.filter fun name =>
    match files.look (path ++ [name]) with
    | .folder => true
    | _ => false
  names.mergeSort fun a b => a ≤ b

/-- The name of the manifest in a plugin folder. -/
def manifestName : String := "neo-plugin.json"

/-- The text of a file, if its bytes are one. -/
def textOf? (bytes : List UInt8) : Option String := String.fromUTF8? ⟨bytes.toArray⟩

/-- A file or folder that cannot be read. -/
structure ReadFault where
  path : List String
  deriving Repr

/-- The manifest text in a plugin folder, if there is one. -/
def manifestText (files : Files) (folder : List String) : Except ReadFault (Option String) :=
  let path := folder ++ [manifestName]
  match files.look path with
  | .missing => .ok none
  | .file bytes =>
    match textOf? bytes with
    | some text => .ok (some text)
    | none => .error ⟨path⟩
  | _ => .error ⟨path⟩

/-- Adds a manifest unless its id is known. -/
def addNew (known : Table String Manifest) (m : Manifest) : Table String Manifest :=
  if known.contains m.id then known else known.put m.id m

/-- Collects the manifests of plugin folders. -/
def collect (files : Files) :
    List (List String) → Table String Manifest → Except ReadFault (Table String Manifest)
  | [], known => .ok known
  | folder :: rest, known => do
    let known := match ← files.manifestText folder with
      | some text =>
        match Manifest.ofText? text with
        | some m => addNew known m
        | none => known
      | none => known
    files.collect rest known

/-- The manifests below a directory by id; none if it does not exist. -/
def manifests (files : Files) (directory : List String) : Except ReadFault (List Manifest) :=
  match files.look directory with
  | .missing => .ok []
  | .folder => do
    let folders := (files.foldersIn directory).map fun name => directory ++ [name]
    let known ← files.collect folders {}
    return known.sortedRows.map (·.2)
  | _ => .error ⟨directory⟩

end Files

end Switchboard
