import Switchboard.Json.Shape

/-
  Records of settings — fields that keep a value of their own until they are set.

  A record is written as an object, or as the list of its fields in order, of
  which the last ones may be left out.  Unknown keys are passed over, and a
  known key may occur only once.  Of several mismatches the one that counts is
  that of the first field: first in the list, or by the order of the keys.

  * `Field` is a field together with what its value changes in the record;
  * `fill` reads a record.
-/

namespace Switchboard.Json

/-- What becomes of the items of a list that is longer than the record. -/
inductive Surplus where
  | refused
  | passedOver
  deriving DecidableEq, Repr

/-- A field of a record, and how its value is put into the record. -/
structure Field (ρ : Type) where
  name : String
  put : Json → ρ → Except Mismatch ρ

/-- The field whose value has a shape. -/
def Field.of (name : String) (shape : Shape α) (set : α → ρ → ρ) : Field ρ :=
  ⟨name, fun v r => (set · r) <$> shape v⟩

/-- Puts the members of an object in, one after the other. -/
def putMembers (fields : List (Field ρ)) : List (String × Json) → ρ → Except Mismatch ρ
  | [], r => .ok r
  | (k, v) :: ms, r =>
    match fields.find? (·.name = k) with
    | some f => do putMembers fields ms (← under k (f.put v r))
    | none => putMembers fields ms r

/-- Puts items into fields as far as both go; `i` is the place of the first one. -/
def putItems (i : Nat) : List (Field ρ) → List Json → ρ → Except Mismatch ρ
  | f :: fs, v :: vs, r => do putItems (i + 1) fs vs (← under (toString i) (f.put v r))
  | _, _, r => .ok r

/-- Reads a record named `label` that is `base` as long as nothing is set. -/
def fill (label : String) (surplus : Surplus) (fields : List (Field ρ)) (base : ρ) : Shape ρ
  | .obj ms =>
    match fields.find? fun f => 1 < (ms.filter (·.1 = f.name)).length with
    | some f => mismatch (.repeated f.name)
    | none => putMembers fields (ms.mergeSort fun a b => a.1 ≤ b.1) base
  | .arr items => do
    let r ← putItems 0 fields items base
    if surplus = .refused ∧ fields.length < items.length then mismatch (.tooLong items.length)
    else return r
  | v => mismatch (.wrongType v label)

end Switchboard.Json
