import Switchboard.Json

/-
  Tables under construction.

  While a document is read, a table remembers how it came into being: by a
  header of its own, on the way to another table, or by a dotted key.  What may
  still be added to it depends on that, so that nothing is defined twice.

  * `editAt` descends along a path and changes the table it ends at;
  * `define` gives a key its value, `toJson` is the finished value.
-/

namespace Switchboard.Toml

/-- How a table came into being. -/
inductive Origin where
  /-- by a header, or as an element of an array of tables -/
  | header
  /-- on the way to a table with a header -/
  | passing
  /-- by a dotted key -/
  | dotted
  deriving DecidableEq, Repr

/-- What stands under a key. -/
inductive Item where
  | value (v : Json)
  | table (origin : Origin) (members : List (String × Item))
  /-- an array of tables, the latest last -/
  | tables (elements : List (List (String × Item)))
  deriving Repr

instance : Inhabited Item := ⟨.value .null⟩

abbrev Members := List (String × Item)

/-- Puts an item under a key that is there. -/
def Members.set (ms : Members) (k : String) (i : Item) : Members :=
  ms.map fun m => if m.1 = k then (k, i) else m

mutual

/-- The finished value of an item. -/
def Item.toJson : Item → Json
  | .value v => v
  | .table _ ms => .obj (membersToJson ms)
  | .tables es => .arr (elementsToJson es)

def membersToJson : List (String × Item) → List (String × Json)
  | [] => []
  | (k, i) :: r => (k, i.toJson) :: membersToJson r

def elementsToJson : List (List (String × Item)) → List Json
  | [] => []
  | ms :: r => .obj (membersToJson ms) :: elementsToJson r

end

/-- Descends along a path and changes the members of the table it ends at.
    Missing tables are made; a dotted key may not enter a table that has a
    header. -/
def editAt (way : Origin) (edit : Origin → Members → Option Members) :
    List String → Origin → Members → Option Members
  | [], origin, ms => edit origin ms
  | k :: path, _, ms =>
    match ms.lookup k with
    | none => (editAt way edit path way []).map fun inner => ms ++ [(k, .table way inner)]
    | some (.table origin inner) =>
      if way = .dotted && origin = .header then none
      else (editAt way edit path origin inner).map fun inner => ms.set k (.table origin inner)
    | some (.tables es) =>
      match es.getLast? with
      | some last =>
        (editAt way edit path .header last).map fun last => ms.set k (.tables (es.dropLast ++ [last]))
      | none => none
    | some (.value _) => none

/-- Gives a key its value, below the table that the path leads to.  A table is
    filled by dotted keys or otherwise, not both. -/
def define (path : List String) (key : String) (i : Item) (ms : Members) : Option Members :=
  let put (origin : Origin) (inner : Members) : Option Members :=
    if decide (origin = .dotted) == path.isEmpty then none
    else if (inner.lookup key).isSome then none
    else some (inner ++ [(key, i)])
  editAt .dotted put path .header ms

end Switchboard.Toml
