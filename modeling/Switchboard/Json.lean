import Switchboard.Binary64

/-
  JSON values — payloads, replies and everything that is written out.

  Integers are kept apart from numbers with a fraction or an exponent, so that
  a payload leaves the bus exactly as it came.

  * `Json` is the type of values; an object is its members in order;
  * `field?` looks a member up, `record` builds an object without its unset
    members;
  * `compact` and `pretty` write a value on one line or indented.
-/

namespace Switchboard

/-- A JSON value. -/
inductive Json where
  | null
  | bool (b : Bool)
  | int (n : Int)
  | real (x : Binary64)
  | str (s : String)
  | arr (items : List Json)
  | obj (members : List (String × Json))
  deriving BEq, Repr, Inhabited

namespace Json

/-! ## Access and construction -/

/-- The member of an object under a key. -/
def field? (key : String) : Json → Option Json
  | .obj members => members.lookup key
  | _ => none

def isNull : Json → Bool
  | .null => true
  | _ => false

def nat (n : Nat) : Json := .int n

/-- An object whose unset members are left out. -/
def record (members : List (String × Option Json)) : Json :=
  .obj (members.filterMap fun (k, v) => v.map (k, ·))

/-- The value of an optional member, `null` when unset. -/
def orNull (f : α → Json) : Option α → Json
  | some a => f a
  | none => .null

/-- Gives every key of an object one member, the last one written. -/
def lastWins (members : List (String × Json)) : List (String × Json) :=
  members.foldl (fun seen m => seen.filter (·.1 ≠ m.1) ++ [m]) []

/-! ## Text -/

def hexDigit (n : Nat) : Char := (Nat.toDigits 16 n).headD '0'

/-- How a character is written inside a string. -/
def escape (c : Char) : List Char :=
  if c = '"' then ['\\', '"']
  else if c = '\\' then ['\\', '\\']
  else if c = '\n' then ['\\', 'n']
  else if c = '\r' then ['\\', 'r']
  else if c = '\t' then ['\\', 't']
  else if c.toNat = 8 then ['\\', 'b']
  else if c.toNat = 12 then ['\\', 'f']
  else if c.toNat < 32 then ['\\', 'u', '0', '0', hexDigit (c.toNat / 16), hexDigit (c.toNat % 16)]
  else [c]

/-- A string in quotes. -/
def quoted (s : String) : String :=
  "\"" ++ String.ofList (s.toList.flatMap escape) ++ "\""

mutual

/-- A value on one line, without blanks. -/
def compact : Json → String
  | .null => "null"
  | .bool b => if b then "true" else "false"
  | .int n => toString n
  | .real x => x.text
  | .str s => quoted s
  | .arr items => "[" ++ ",".intercalate (compactItems items) ++ "]"
  | .obj members => "\x7b" ++ ",".intercalate (compactMembers members) ++ "\x7d"

def compactItems : List Json → List String
  | [] => []
  | v :: r => compact v :: compactItems r

def compactMembers : List (String × Json) → List String
  | [] => []
  | (k, v) :: r => (quoted k ++ ":" ++ compact v) :: compactMembers r

end

/-- A line break and the blanks that open a line at a depth. -/
def lineAt (depth : Nat) : String := "\n" ++ String.ofList (List.replicate (2 * depth) ' ')

mutual

/-- A value with one item or member a line, indented by two blanks a level. -/
def prettyAt (depth : Nat) : Json → String
  | .arr [] => "[]"
  | .arr items =>
    "[" ++ lineAt (depth + 1) ++
      ("," ++ lineAt (depth + 1)).intercalate (prettyItems (depth + 1) items) ++
      lineAt depth ++ "]"
  | .obj [] => "\x7b\x7d"
  | .obj members =>
    "\x7b" ++ lineAt (depth + 1) ++
      ("," ++ lineAt (depth + 1)).intercalate (prettyMembers (depth + 1) members) ++
      lineAt depth ++ "\x7d"
  | .null => "null"
  | .bool b => if b then "true" else "false"
  | .int n => toString n
  | .real x => x.text
  | .str s => quoted s

def prettyItems (depth : Nat) : List Json → List String
  | [] => []
  | v :: r => prettyAt depth v :: prettyItems depth r

def prettyMembers (depth : Nat) : List (String × Json) → List String
  | [] => []
  | (k, v) :: r => (quoted k ++ ": " ++ prettyAt depth v) :: prettyMembers depth r

end

def pretty (v : Json) : String := prettyAt 0 v

end Json

end Switchboard
