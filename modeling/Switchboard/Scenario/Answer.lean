import Switchboard.Plugin.Registry
import Switchboard.Scenario.Step

/-
  Answers — how results and faults of steps are written.

  A fault is an object with its kind and its wording; results are written as
  they are.
-/

namespace Switchboard.Scenario.Answer

def fault (kind message : String) : Json := .obj [("error", .str kind), ("message", .str message)]

def ofDefect (d : Defect) : Json := fault "BadInput" d.field

def ofBusFault (f : BusFault) : Json := fault f.kind f.message

def ofCallFault (f : CallFault) : Json :=
  .obj [("error", .str "RpcError"), ("message", .str f.display), ("rpc", f.toJson)]

def ofPluginFault (f : PluginFault) : Json :=
  match f with
  | .permissionDenied .. =>
    .obj
      [("error", .str "PermissionDenied"), ("message", .str f.message), ("denied", .bool true)]
  | .bus g => ofBusFault g
  | .call g => ofCallFault g
  | .alreadyLoaded _ => fault "AlreadyLoaded" f.message
  | .notLoaded _ => fault "NotLoaded" f.message

/-- A result that stands under the key `ok`. -/
def ok (v : Json) : Json := .obj [("ok", v)]

def either (onError : ε → Json) (onValue : α → Json) : Except ε α → Json
  | .ok a => onValue a
  | .error e => onError e

def ofOutcome : PublishOutcome → Json
  | .queued _ => .str "queued"
  | .expired _ => .str "expired"

/-- A call that has ended at a time. -/
def finished (now : Nat) (r : Json) : Json := .obj [("at", .nat now), ("r", r)]

/-! ## Replies read as values of a shape -/

/-- A point as it is written. -/
def point (x : Int) (y : Option Int) : Json := .obj [("x", .int x), ("y", Json.orNull .int y)]

/-- A point written as the list of its fields; the second may be left out. -/
def pointOfItems : List Json → Except Json.Mismatch Json
  | [] => Json.mismatch (.tooShort 0 "struct Point with 2 elements")
  | x :: rest => do
    let x ← Json.int64 x
    match rest with
    | [] => return point x none
    | y :: extra =>
      let y ← Json.nullable Json.int64 y
      if extra.isEmpty then return point x y
      else Json.mismatch (.tooLong (extra.length + 2))

/-- A point: `x`, and perhaps `y`.  A field that cannot be read is reported
    before one that is missing. -/
def pointShape (v : Json) : Except Json.Mismatch Json :=
  match v with
  | .arr items => pointOfItems items
  | v => do
    let ms ← Json.membersOf "struct Point" ["x", "y"] v
    let x ← (ms.get? "x").mapM fun m => Json.int64 m.value
    let y ← Json.optional ms "y" Json.int64
    match x with
    | some x => return point x y
    | none => Json.mismatch (.missing "x")

/-- The value that a reply holds when it is read as a shape. -/
def shapeOf : ReplyShape → Json.Shape Json
  | .integer => fun v => .int <$> Json.int64 v
  | .boolean => fun v => .bool <$> Json.boolean v
  | .text => fun v => .str <$> Json.text v
  | .integers => fun v => (fun ns => .arr (ns.map .int)) <$> Json.listOf Json.int64 v
  | .point => pointShape

/-- The answer of a call that has ended. -/
def ofCall (topic : String) (shape : Option ReplyShape) (r : CallResult) : Json :=
  let read := match r, shape with
    | .ok v, some s => Caller.readReply (shapeOf s) topic v
    | r, _ => r
  either ofCallFault ok read

end Switchboard.Scenario.Answer
