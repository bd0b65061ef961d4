/-
  Forests — entries filed under paths of segments.

  A forest is a row of branches.  A branch has a segment, the entries filed
  under the path that ends with it, the forest below it and the branches next
  to it.  Branches that hold nothing are cut off, so a forest that is not
  empty holds an entry.

  * `insert`, `eraseAt` and `filter` change a forest;
  * `along` collects the entries under the beginnings of a path, the shortest
    beginning first; `entriesAt` those under one path;
  * `toList` lists all entries, `paths` the entries with their paths.
-/

namespace Switchboard

variable {α : Type}

/-- A row of branches. -/
inductive Forest (α : Type) where
  | empty
  | branch (segment : String) (entries : List α) (below next : Forest α)
  deriving Repr

namespace Forest

/-- Whether there is no branch at all. -/
def isEmpty : Forest α → Bool
  | .empty => true
  | .branch .. => false

/-! ## Filing -/

/-- The forest that holds one entry under a path. -/
def chain (a : α) : List String → Forest α
  | [] => .empty
  | [s] => .branch s [a] .empty .empty
  | s :: r => .branch s [] (chain a r) .empty

/-- Files an entry under a path, behind those already there. -/
def insert (a : α) : Forest α → List String → Forest α
  | .empty, path => chain a path
  | .branch k es below next, [] => .branch k es below next
  | .branch k es below next, s :: r =>
    if k = s then
      if r.isEmpty then .branch k (es ++ [a]) below next
      else .branch k es (insert a below r) next
    else .branch k es below (insert a next (s :: r))

/-! ## Removing -/

/-- A branch, unless it holds nothing. -/
def grow (k : String) (es : List α) (below next : Forest α) : Forest α :=
  if es.isEmpty && below.isEmpty then next else .branch k es below next

/-- Keeps the entries that satisfy a test. -/
def filter (keep : α → Bool) : Forest α → Forest α
  | .empty => .empty
  | .branch k es below next => grow k (es.filter keep) (filter keep below) (filter keep next)

/-- Removes the entries under a path that fail a test. -/
def eraseAt (keep : α → Bool) : Forest α → List String → Forest α
  | .empty, _ => .empty
  | .branch k es below next, [] => .branch k es below next
  | .branch k es below next, s :: r =>
    if k = s then
      if r.isEmpty then grow k (es.filter keep) below next
      else grow k es (eraseAt keep below r) next
    else .branch k es below (eraseAt keep next (s :: r))

/-! ## Looking up -/

/-- The entries under a path. -/
def entriesAt : Forest α → List String → List α
  | .empty, _ => []
  | .branch .., [] => []
  | .branch k es below next, s :: r =>
    if k = s then if r.isEmpty then es else entriesAt below r
    else entriesAt next (s :: r)

/-- The entries under the beginnings of a path, the shortest beginning
    first. -/
def along : Forest α → List String → List α
  | .empty, _ => []
  | .branch .., [] => []
  | .branch k es below next, s :: r =>
    if k = s then es ++ along below r else along next (s :: r)

/-- All entries. -/
def toList : Forest α → List α
  | .empty => []
  | .branch _ es below next => es ++ below.toList ++ next.toList

/-! ## Counting -/

/-- Sums a quantity over the branches; the quantity may depend on the number of
    segments above a branch. -/
def total (f : Nat → String → List α → Nat) : Nat → Forest α → Nat
  | _, .empty => 0
  | depth, .branch k es below next =>
    f depth k es + total f (depth + 1) below + total f depth next

/-- The greatest value of a quantity over the branches. -/
def greatest (f : Nat → List α → Nat) : Nat → Forest α → Nat
  | _, .empty => 0
  | depth, .branch _ es below next =>
    max (f depth es) (max (greatest f (depth + 1) below) (greatest f depth next))

end Forest

end Switchboard
