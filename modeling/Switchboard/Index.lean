import Switchboard.Index.Forest
import Switchboard.Index.Shelf
import Switchboard.Subscription

/-
  The index of subscriptions — which of them listen on a topic.

  Each form of pattern has an index of its own, because each is searched in
  another way: exact patterns by the whole topic, `under` patterns along the
  segments of the topic, `ending` patterns along its reversed segments, and
  `between` patterns by replacing one inner segment after the other.

  * `insert`, `erase`, `eraseWhere` change the index, `find?` looks one
    subscription up;
  * `matching` answers the subscriptions listening on a topic: exact ones,
    then `under` ones by increasing depth, `ending` ones by increasing length
    and `between` ones by the place of the wildcard, older ones first;
  * `entries` is everything stored.
-/

namespace Switchboard

variable {H : Type}

/-- Subscriptions filed by the form of their pattern; `size` counts them. -/
structure Index (H : Type) where
  exact : Shelf String (Subscription H) := []
  under : Forest (Subscription H) := .empty
  ending : Forest (Subscription H) := .empty
  between : Shelf (List String × List String) (Subscription H) := []
  size : Nat := 0
  deriving Repr

namespace Index

/-! ## Changing the index -/

/-- Files a subscription under its own pattern. -/
def insert (x : Index H) (s : Subscription H) : Index H :=
  let x : Index H := match s.pattern with
    | .exact t => { x with exact := Shelf.insert t s x.exact }
    | .under fixed => { x with under := x.under.insert s fixed }
    | .ending fixed => { x with ending := x.ending.insert s fixed.reverse }
    | .between before after => { x with between := Shelf.insert (before, after) s x.between }
  { x with size := x.size + 1 }

/-- The subscriptions stored under a pattern. -/
def entriesAt (x : Index H) : Pattern → List (Subscription H)
  | .exact t => Shelf.entriesAt t x.exact
  | .under fixed => x.under.entriesAt fixed
  | .ending fixed => x.ending.entriesAt fixed.reverse
  | .between before after => Shelf.entriesAt (before, after) x.between

/-- Removes the entries under a pattern that fail a test. -/
def eraseAt (x : Index H) (keep : Subscription H → Bool) : Pattern → Index H
  | .exact t => { x with exact := Shelf.eraseAt keep t x.exact }
  | .under fixed => { x with under := x.under.eraseAt keep fixed }
  | .ending fixed => { x with ending := x.ending.eraseAt keep fixed.reverse }
  | .between before after => { x with between := Shelf.eraseAt keep (before, after) x.between }

/-- Removes a subscription from the entries under the pattern with a text;
    answers whether it was there. -/
def erase (x : Index H) (pattern id : String) : Bool × Index H :=
  match Pattern.parse pattern with
  | .error _ => (false, x)
  | .ok p =>
    if (x.entriesAt p).any (·.id = id) then
      (true, { x.eraseAt (·.id ≠ id) p with size := x.size - 1 })
    else (false, x)

/-- Everything stored. -/
def entries (x : Index H) : List (Subscription H) :=
  Shelf.toList x.exact ++ x.under.toList ++ x.ending.toList ++ Shelf.toList x.between

/-- Removes the subscriptions that satisfy a test and answers them. -/
def eraseWhere (x : Index H) (test : Subscription H → Bool) : List (Subscription H) × Index H :=
  let removed := x.entries.filter test
  let keep (s : Subscription H) := !test s
  (removed,
    { exact := Shelf.filter keep x.exact
      under := x.under.filter keep
      ending := x.ending.filter keep
      between := Shelf.filter keep x.between
      size := x.size - removed.length })

/-! ## Searching -/

/-- The `between` patterns that could match a topic with the given segments, by
    the place of the wildcard. -/
def replacements (parts : List String) : List (List String × List String) :=
  (List.range (parts.length - 2)).map fun i => (parts.take (i + 1), parts.drop (i + 2))

/-- The subscriptions listening on a topic, in match order. -/
def matching (x : Index H) (topic : String) : List (Subscription H) :=
  let parts := segments topic
  Shelf.entriesAt topic x.exact ++
    x.under.along parts.dropLast ++
    x.ending.along parts.tail.reverse ++
    (replacements parts).flatMap fun k => Shelf.entriesAt k x.between

/-- The subscription with an id, stored under the pattern with a text. -/
def find? (x : Index H) (pattern id : String) : Option (Subscription H) :=
  match Pattern.parse pattern with
  | .error _ => none
  | .ok p => (x.entriesAt p).find? (·.id = id)

end Index

end Switchboard
