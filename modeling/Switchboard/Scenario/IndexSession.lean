import Switchboard.Index.Stats
import Switchboard.Mint
import Switchboard.Scenario.Answer

/-
  Sessions on an index — adding, removing and finding subscriptions one step
  after the other.

  Subscriptions go by the labels they were added under.  A step that cannot be
  read ends the session.
-/

namespace Switchboard.Scenario

/-- A step of a session. -/
inductive IndexStep where
  | add (pattern label : String) (metadata : Metadata)
  | insertAgain (label : String)
  | remove (pattern label : String)
  | removePlugin (plugin : String)
  | removeDepth (depth : Nat)
  | find (topic : String)
  | get (pattern label : String)
  | length
  | stats
  | clear
  | debug (label : String)
  deriving Repr

namespace IndexStep

def readers : List (String × (Fields → Except Defect IndexStep)) :=
  [("add", fun fs =>
     return .add (← need fs "pattern" Json.text) (← need fs "as" Json.text)
       (← orElse fs "metadata" {} Metadata.ofJson)),
   ("insert_again", fun fs => return .insertAgain (← need fs "id" Json.text)),
   ("remove", fun fs =>
     return .remove (← need fs "pattern" Json.text) (← need fs "id" Json.text)),
   ("remove_plugin", fun fs => return .removePlugin (← need fs "plugin" Json.text)),
   ("remove_depth", fun fs => return .removeDepth (← need fs "depth" (Json.word 64))),
   ("find", fun fs => return .find (← need fs "topic" Json.text)),
   ("get", fun fs => return .get (← need fs "pattern" Json.text) (← need fs "id" Json.text)),
   ("len", fun _ => .ok .length),
   ("stats", fun _ => .ok .stats),
   ("clear", fun _ => .ok .clear),
   ("debug", fun fs => return .debug (← need fs "id" Json.text))]

def ofJson (v : Json) : Except Defect IndexStep := do
  let fs := fieldsOf v
  let name ← need fs "do" Json.text
  match readers.lookup name with
  | some read => read fs
  | none => .error ⟨"do"⟩

end IndexStep

/-- An index, and every subscription that was ever added to it by its label. -/
structure IndexSession where
  index : Index Unit := {}
  added : Table String (Subscription Unit) := {}
  labels : Table String String := {}
  mint : Mint := { series := 1 }
  deriving Repr

namespace IndexSession

/-- The id behind a label; an unknown label is an id itself. -/
def idOf (x : IndexSession) (label : String) : String :=
  ((x.added.get? label).map (·.id)).getD label

def shown (x : IndexSession) (s : Subscription Unit) : Json :=
  .arr [.str ((x.labels.get? s.id).getD s.id), .str s.pattern.text]

/-- The characters in front of the first place where a phrase begins. -/
def charsBefore (phrase : List Char) : List Char → List Char
  | [] => []
  | c :: r => if phrase.isPrefixOf (c :: r) then [] else c :: charsBefore phrase r

/-- The text in front of the first place where a phrase begins. -/
def before (phrase text : String) : String :=
  String.ofList (charsBefore phrase.toList text.toList)

/-- The subscriptions that were removed, by their text. -/
def showSorted (x : IndexSession) (removed : List (Subscription Unit)) : Json :=
  .arr ((removed.map x.shown).mergeSort fun a b => a.compact ≤ b.compact)

def add (x : IndexSession) (pattern label : String) (metadata : Metadata) : Json × IndexSession :=
  match Address.pattern pattern with
  | .error f => (Answer.ofBusFault f, x)
  | .ok p =>
    let (id, mint) := x.mint.take
    let s : Subscription Unit := ⟨id, p, (), metadata⟩
    (.obj [("kind", .str p.kind.label), ("plugin", Json.orNull .str metadata.plugin)],
      { index := x.index.insert s, added := x.added.put label s, labels := x.labels.put id label,
        mint })

/-- Removes the subscriptions that satisfy a test. -/
def removeWhere (x : IndexSession) (test : Subscription Unit → Bool) : Json × IndexSession :=
  let (removed, index) := x.index.eraseWhere test
  (x.showSorted removed, { x with index })

def take (x : IndexSession) : IndexStep → Except Defect (Json × IndexSession)
  | .add pattern label metadata => .ok (x.add pattern label metadata)
  | .insertAgain label =>
    match x.added.get? label with
    | some s =>
      let x := { x with index := x.index.insert s }
      .ok (.nat x.index.size, x)
    | none => .error ⟨"id"⟩
  | .remove pattern label =>
    let (found, index) := x.index.erase pattern (x.idOf label)
    .ok (.bool found, { x with index })
  | .removePlugin plugin => .ok (x.removeWhere (·.isOwnedBy plugin))
  | .removeDepth depth => .ok (x.removeWhere (·.pattern.depth = depth))
  | .find topic => .ok (.arr ((x.index.matching topic).map x.shown), x)
  | .get pattern label =>
    .ok (Json.orNull x.shown (x.index.find? pattern (x.idOf label)), x)
  | .length => .ok (.arr [.nat x.index.size, .bool (x.index.size = 0)], x)
  | .stats => .ok (x.index.stats.toJson, x)
  | .clear => .ok (.null, { x with index := {} })
  | .debug label =>
    match x.added.get? label with
    | some s => .ok (.str (before ", created_at" s.summary), x)
    | none => .error ⟨"id"⟩

def takeAll : List Json → IndexSession → Except Defect (List Json)
  | [], _ => .ok []
  | v :: rest, x => do
    let (r, x) ← x.take (← IndexStep.ofJson v)
    let rs ← takeAll rest x
    .ok (r :: rs)

/-- Answers a session. -/
def play (v : Json) : Json :=
  let answers : Except Defect (List Json) := do
    takeAll (← need (fieldsOf v) "steps" (Json.listOf .ok)) {}
  match answers with
  | .ok rs => .obj [("steps", .arr rs)]
  | .error d => Answer.ofDefect d

end IndexSession

end Switchboard.Scenario
