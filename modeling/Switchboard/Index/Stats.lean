import Switchboard.Index

/-
  Capacity figures of an index.

  The figures count stored subscriptions, distinct patterns by form, the nodes
  they are filed under and an estimate of the memory taken: a fixed cost and
  the bytes of its key for a node, a fixed cost and the bytes of its id and
  pattern for a subscription.
-/

namespace Switchboard

variable {H : Type}

/-- What an index holds. -/
structure IndexStats where
  nodes : Nat
  subscriptions : Nat
  exact : Nat
  under : Nat
  ending : Nat
  between : Nat
  maxDepth : Nat
  /-- the sum of the depths of all distinct patterns -/
  depthSum : Nat
  memory : Nat
  deriving DecidableEq, Repr

namespace IndexStats

/-- The number of distinct patterns. -/
def terminals (s : IndexStats) : Nat := s.exact + s.under + s.ending + s.between

/-- The mean depth of the distinct patterns. -/
def averageDepth (s : IndexStats) : Binary64 :=
  if s.terminals = 0 then .zero false
  else (Binary64.ofRatio? false s.depthSum s.terminals).getD (.zero false)

def toJson (s : IndexStats) : Json :=
  .obj
    [("node_count", .nat s.nodes), ("subscription_count", .nat s.subscriptions),
     ("exact_patterns", .nat s.exact), ("prefix_patterns", .nat s.under),
     ("suffix_patterns", .nat s.ending), ("complex_patterns", .nat s.between),
     ("terminal_count", .nat s.terminals), ("max_depth", .nat s.maxDepth),
     ("average_depth", .real s.averageDepth), ("memory_bytes", .nat s.memory)]

end IndexStats

namespace Index

/-- The fixed cost of a node. -/
def nodeCost : Nat := 64

/-- The fixed cost of a subscription. -/
def subscriptionCost : Nat := 96

/-- The sum of some figures. -/
def addUp (ns : List Nat) : Nat := ns.foldr (· + ·) 0

/-- The memory taken by stored subscriptions. -/
def cost (es : List (Subscription H)) : Nat :=
  addUp (es.map fun s => subscriptionCost + s.id.utf8ByteSize + s.pattern.text.utf8ByteSize)

/-- The depth of the pattern that ends at a branch: the segments above it, its
    own and the wildcard. -/
def branchDepth (above : Nat) (es : List (Subscription H)) : Nat :=
  if es.isEmpty then 0 else above + 2

/-- The distinct patterns in a forest. -/
def patternsIn (f : Forest (Subscription H)) : Nat :=
  f.total (fun _ _ es => if es.isEmpty then 0 else 1) 0

/-- The figures of an index. -/
def stats (x : Index H) : IndexStats :=
  let exactDepths := x.exact.map fun (t, _) => (segments t).length
  let betweenDepths := x.between.map fun ((before, after), _) => before.length + 1 + after.length
  let forests := [x.under, x.ending]
  { nodes := x.exact.length + addUp (forests.map (·.total (fun _ _ _ => 1) 0)) + x.between.length
    subscriptions := x.size
    exact := x.exact.length
    under := patternsIn x.under
    ending := patternsIn x.ending
    between := x.between.length
    maxDepth :=
      (exactDepths ++ forests.map (·.greatest branchDepth 0) ++ betweenDepths).foldl max 0
    depthSum :=
      addUp exactDepths + addUp (forests.map (·.total (fun d _ es => branchDepth d es) 0)) +
        addUp betweenDepths
    memory :=
      addUp (x.exact.map fun (t, es) => nodeCost + t.utf8ByteSize + cost es) +
        addUp (forests.map (·.total (fun _ k es => nodeCost + k.utf8ByteSize + cost es) 0)) +
        addUp (x.between.map fun ((before, after), es) =>
          nodeCost + (Pattern.between before after).text.utf8ByteSize + cost es) }

end Index

end Switchboard
