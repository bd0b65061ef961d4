/-
  Shelves — entries filed under single keys.

  A shelf keeps its keys in the order in which they were first used, and under
  each key the entries in the order in which they came.  A key without entries
  is dropped.
-/

namespace Switchboard

variable {κ α : Type} [DecidableEq κ]

/-- Entries by key. -/
abbrev Shelf (κ α : Type) := List (κ × List α)

namespace Shelf

/-- Files an entry under a key, behind those already there. -/
def insert (k : κ) (a : α) : Shelf κ α → Shelf κ α
  | [] => [(k, [a])]
  | (k', es) :: r => if k' = k then (k', es ++ [a]) :: r else (k', es) :: insert k a r

/-- The entries under a key. -/
def entriesAt (k : κ) : Shelf κ α → List α
  | [] => []
  | (k', es) :: r => if k' = k then es else entriesAt k r

/-- Keeps the entries that satisfy a test. -/
def filter (keep : α → Bool) (s : Shelf κ α) : Shelf κ α :=
  s.filterMap fun (k, es) =>
    let es := es.filter keep
    if es.isEmpty then none else some (k, es)

/-- Removes the entries under a key that fail a test. -/
def eraseAt (keep : α → Bool) (k : κ) : Shelf κ α → Shelf κ α
  | [] => []
  | (k', es) :: r =>
    if k' = k then
      let es := es.filter keep
      if es.isEmpty then r else (k', es) :: r
    else (k', es) :: eraseAt keep k r

/-- All entries. -/
def toList (s : Shelf κ α) : List α := s.flatMap (·.2)

end Shelf

end Switchboard
