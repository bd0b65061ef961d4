import Switchboard.Json
import Switchboard.Quote

/-
  Values of a known shape — reading integers, names, lists and records out of
  JSON values.

  A shape reads a value or answers a `Mismatch`: what was found where
  something else was expected, and the path of keys down to it.  A record may
  be written as an object, or as an array of its fields in order; unknown keys
  are passed over, and a known key may occur only once.

  * `integer`, `boolean`, `text`, `named`, `listOf` are the plain shapes;
  * `membersOf` opens a record; `required`, `withDefault` and `optional` read
    one of its fields;
  * `Mismatch.message` is the wording of a mismatch.
-/

namespace Switchboard.Json

/-! ## Mismatches -/

/-- What is wrong with a value. -/
inductive MismatchCause where
  | wrongType (found : Json) (expected : String)
  | outOfRange (found : Json) (expected : String)
  | missing (field : String)
  | repeated (field : String)
  | tooLong (length : Nat)
  | tooShort (length : Nat) (expected : String)
  | unknownName (found : Json)

/-- What is wrong, and the keys that lead to it. -/
structure Mismatch where
  path : List String
  cause : MismatchCause

/-- How a value is named in the wording of a mismatch. -/
def describe : Json → String
  | .null => "null"
  | .bool b => "boolean `" ++ (if b then "true" else "false") ++ "`"
  | .int n => "integer `" ++ toString n ++ "`"
  | .real x => "floating point `" ++ x.text ++ "`"
  | .str s => "string " ++ Quote.shown s
  | .arr _ => "sequence"
  | .obj _ => "map"

def Mismatch.message (m : Mismatch) : String :=
  match m.cause with
  | .wrongType v e => "invalid type: " ++ v.describe ++ ", expected " ++ e
  | .outOfRange v e => "invalid value: " ++ v.describe ++ ", expected " ++ e
  | .missing f => "missing field `" ++ f ++ "`"
  | .repeated f => "duplicate field `" ++ f ++ "`"
  | .tooLong n => "invalid length " ++ toString n ++ ", expected fewer elements in array"
  | .tooShort n e => "invalid length " ++ toString n ++ ", expected " ++ e
  | .unknownName v => "unknown name: " ++ v.describe

/-- A way to read a value. -/
abbrev Shape (α : Type) := Json → Except Mismatch α

def mismatch (cause : MismatchCause) : Except Mismatch α := .error ⟨[], cause⟩

/-- Prepends a key to the path of a mismatch. -/
def under (key : String) : Except Mismatch α → Except Mismatch α
  | .ok a => .ok a
  | .error m => .error { m with path := key :: m.path }

/-! ## Plain shapes -/

/-- The integers from `lo` to `hi`, named `label`. -/
def integer (lo hi : Int) (label : String) : Shape Int
  | .int n => if lo ≤ n ∧ n ≤ hi then .ok n else mismatch (.outOfRange (.int n) label)
  | v => mismatch (.wrongType v label)

def int64 : Shape Int := integer (-(Nat.pow 2 63)) (Nat.pow 2 63 - 1) "i64"

/-- The natural numbers below `2 ^ bits`. -/
def word (bits : Nat) (v : Json) : Except Mismatch Nat :=
  Int.toNat <$> integer 0 (Nat.pow 2 bits - 1) ("u" ++ toString bits) v

def boolean : Shape Bool
  | .bool b => .ok b
  | v => mismatch (.wrongType v "a boolean")

def text : Shape String
  | .str s => .ok s
  | v => mismatch (.wrongType v "a string")

/-- The first key in the order of texts. -/
def leastKey : List (String × Json) → Option String
  | [] => none
  | (k, _) :: r => some <| match leastKey r with
    | some l => if l < k then l else k
    | none => k

/-- One of a list of names, written as a string, or as the only key of an
    object with the value `null`.  Any other object is at fault below its first
    key. -/
def named (names : List (String × α)) (v : Json) : Except Mismatch α :=
  let unknown : Except Mismatch α := mismatch (.unknownName v)
  let look (s : String) := match names.lookup s with
    | some a => .ok a
    | none => unknown
  match v with
  | .str s => look s
  | .obj [(s, .null)] => look s
  | .obj ms => match leastKey ms with
    | some k => under k unknown
    | none => unknown
  | _ => unknown

def each (shape : Shape α) : List Json → Except Mismatch (List α)
  | [] => .ok []
  | v :: r => do
    let a ← shape v
    let as ← each shape r
    .ok (a :: as)

def listOf (shape : Shape α) : Shape (List α)
  | .arr items => each shape items
  | v => mismatch (.wrongType v "a sequence")

def eachMember (shape : Shape α) : List (String × Json) → Except Mismatch (List (String × α))
  | [] => .ok []
  | (k, v) :: r => do
    let a ← under k (shape v)
    let as ← eachMember shape r
    .ok ((k, a) :: as)

/-- An object whose values all have one shape. -/
def mapOf (shape : Shape α) : Shape (List (String × α))
  | .obj ms => eachMember shape ms
  | v => mismatch (.wrongType v "a map")

/-- A value that may be `null`. -/
def nullable (shape : Shape α) : Shape (Option α)
  | .null => .ok none
  | v => some <$> shape v

/-! ## Records -/

/-- A field of a record that is there. -/
structure Member where
  name : String
  /-- how it is found: by its name, or by its position -/
  place : String
  value : Json

abbrev Members := List Member

namespace Members

def ofObject (ms : List (String × Json)) : Members := ms.map fun (k, v) => ⟨k, k, v⟩

/-- Gives items the names of fields, as far as they go. -/
def ofItems : Nat → List String → List Json → Members
  | i, f :: fs, v :: vs => ⟨f, toString i, v⟩ :: ofItems (i + 1) fs vs
  | _, _, _ => []

def get? (ms : Members) (key : String) : Option Member := ms.find? (·.name = key)

end Members

/-- The members of a record named `label` with the given fields. -/
def membersOf (label : String) (fields : List String) : Shape Members
  | .obj ms =>
    match fields.find? fun f => 1 < (ms.filter (·.1 = f)).length with
    | some f => mismatch (.repeated f)
    | none => .ok (.ofObject ms)
  | .arr items =>
    if items.length ≤ fields.length then .ok (.ofItems 0 fields items)
    else mismatch (.tooLong items.length)
  | v => mismatch (.wrongType v label)

/-- A field that has to be there. -/
def required (ms : Members) (key : String) (shape : Shape α) : Except Mismatch α :=
  match ms.get? key with
  | some m => under m.place (shape m.value)
  | none => mismatch (.missing key)

/-- A field that has a value of its own when it is not there. -/
def withDefault (ms : Members) (key : String) (a : α) (shape : Shape α) : Except Mismatch α :=
  match ms.get? key with
  | some m => under m.place (shape m.value)
  | none => .ok a

/-- A field that may be absent or `null`. -/
def optional (ms : Members) (key : String) (shape : Shape α) : Except Mismatch (Option α) :=
  withDefault ms key none (nullable shape)

end Switchboard.Json
