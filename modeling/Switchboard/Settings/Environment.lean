import Switchboard.Toml.Scalar
import Switchboard.Topic

/-
  Settings from environment variables.

  A variable whose name begins with `NEO_BUS_`, letters of either case counting
  alike, sets the value at the path that the rest of its name spells: two
  underscores, or a dot, go one level down.

  * `value` reads what a variable holds;
  * `layer` gathers the variables into one value.
-/

namespace Switchboard.Environment

open Toml (signed)

/-! ## Values -/

/-- White space as it is trimmed off a value. -/
def isSpace (c : Char) : Bool :=
  (9 ≤ c.toNat && c.toNat ≤ 13) || (0x2000 ≤ c.toNat && c.toNat ≤ 0x200A) ||
    [0x20, 0x85, 0xA0, 0x1680, 0x2028, 0x2029, 0x202F, 0x205F, 0x3000].contains c.toNat

def trim (cs : List Char) : List Char :=
  ((cs.dropWhile isSpace).reverse.dropWhile isSpace).reverse

/-- White space between the parts of a value. -/
def isGap (c : Char) : Bool := [9, 10, 12, 13, 32].contains c.toNat

def skipGap (cs : List Char) : List Char := cs.dropWhile isGap

def isSeparator (c : Char) : Bool := c = ',' || c = '\x7b' || c = '\x7d' || c = '[' || c = ']'

def isNameChar (c : Char) : Bool := c.isAlphanum || c = '_' || c = '-'

def valueOfDigits (ds : List Char) : Nat := ds.foldl (fun n c => 10 * n + (c.toNat - 48)) 0

def isNumeral (cs : List Char) : Bool := !cs.isEmpty && cs.all Char.isDigit

/-- An integer that fits into 64 bits, with or without sign. -/
def integer? (cs : List Char) : Option Json :=
  let (neg, ds) := signed cs
  if !isNumeral ds then none
  else
    let n := valueOfDigits ds
    if neg then (if n ≤ Nat.pow 2 63 then some (.int (-n)) else none)
    else if n < Nat.pow 2 64 then some (.int n) else none

/-- A number with a point. -/
def decimal? (cs : List Char) : Option Json :=
  let (neg, cs) := signed cs
  let isE (c : Char) : Bool := c = 'e' || c = 'E'
  let mantissa := cs.takeWhile (!isE ·)
  let whole := mantissa.takeWhile (· ≠ '.')
  let fraction := mantissa.dropWhile (· ≠ '.')
  let exponent : Option Int := match cs.dropWhile (!isE ·) with
    | [] => some 0
    | _ :: r =>
      let (neg, ds) := signed r
      if !isNumeral ds then none
      else some (if neg then -(valueOfDigits ds : Int) else valueOfDigits ds)
  match fraction, exponent with
  | '.' :: f, some e =>
    if !(whole ++ f).isEmpty && (whole ++ f).all Char.isDigit then
      let digits := valueOfDigits (whole ++ f)
      let e := e - f.length
      let near : Bool := -800 < e && e < 800
      some (.real ((if near then Binary64.ofDecimal? neg digits e else none).getD (.zero neg)))
    else none
  | _, _ => none

/-- A word without quotes: a number, or a text. -/
def plain (cs : List Char) : Json :=
  let w := trim cs
  let decimal := if w.contains '.' then decimal? w else none
  (decimal.or (integer? w)).getD (.str (String.ofList w))

/-! ## Reading a value -/

/-- Why a text is no value. -/
inductive Refusal where
  /-- it is written otherwise, and stands for itself -/
  | otherwise
  /-- it is cut inside a character, and nothing can be made of it -/
  | torn
  deriving DecidableEq, Repr

/-- What is read from the front of a text, with the rest of the text. -/
abbrev Reader (α : Type) := List Char → Except Refusal (α × List Char)

def refuse : Except Refusal α := .error .otherwise

/-- The text up to a double quote that no backslash precedes. -/
def quotedUpTo (acc : List Char) : Reader (List Char)
  | [] => refuse
  | '"' :: r => .ok (acc.reverse, r)
  | '\\' :: c :: r => quotedUpTo (c :: '\\' :: acc) r
  | c :: r => quotedUpTo (c :: acc) r

/-- As many whole characters as fill `n` bytes. -/
def bytes? : Nat → List Char → Except Refusal (List Char)
  | 0, _ | _, [] => .ok []
  | n, c :: r => if c.utf8Size ≤ n then (c :: ·) <$> bytes? (n - c.utf8Size) r else .error .torn

/-- The text that stands between quotes.  Before the first escape, if there is
    one, only as many bytes count as there are characters. -/
def unquoted? (cs : List Char) : Except Refusal String :=
  let (front, rest) := cs.span (· ≠ '\\')
  if !front.all Toml.isPrintable then refuse
  else if rest.isEmpty then .ok (String.ofList front)
  else do
    let kept ← bytes? front.length front
    match Toml.unescapeUpTo rest.length rest with
    | some more => return String.ofList (kept ++ more)
    | none => refuse

/-- A string behind its opening quote. -/
def quoted? : Reader String := fun cs => do
  let (inner, r) ← quotedUpTo [] cs
  return (← unquoted? inner, r)

/-- The key of a member, and the white space around it. -/
def name? : Reader String := fun cs => do
  let (k, r) ← match skipGap cs with
    | '"' :: r => quoted? r
    | cs =>
      match cs.span isNameChar with
      | ([], _) => refuse
      | (k, r) => .ok (String.ofList k, r)
  return (k, skipGap r)

mutual

/-- A value nested at most `fuel` deep, and the white space around it. -/
def value? : Nat → Reader Json
  | 0, _ => refuse
  | fuel + 1, cs => do
    let (v, r) ← match skipGap cs with
      | 't' :: 'r' :: 'u' :: 'e' :: r => .ok (.bool true, r)
      | 'f' :: 'a' :: 'l' :: 's' :: 'e' :: r => .ok (.bool false, r)
      | '\x7b' :: r => members? fuel [] r
      | '[' :: r => elements? fuel [] r
      | '"' :: r => (fun (s, r) => (.str s, r)) <$> quoted? r
      | '\'' :: c :: '\'' :: r => .ok (.str (String.ofList [c]), r)
      | '\'' :: _ => refuse
      | cs =>
        let (w, r) := cs.span (!isSeparator ·)
        .ok (plain w, r)
    return (v, skipGap r)

def elements? : Nat → List Json → Reader Json
  | 0, _, _ => refuse
  | fuel + 1, acc, cs =>
    match cs with
    | ']' :: r => .ok (.arr acc.reverse, r)
    | cs => do
      match ← value? fuel cs with
      | (v, ',' :: r) => elements? fuel (v :: acc) r
      | (v, ']' :: r) => return (.arr (v :: acc).reverse, r)
      | _ => refuse

def members? : Nat → List (String × Json) → Reader Json
  | 0, _, _ => refuse
  | fuel + 1, acc, cs =>
    match cs with
    | '\x7d' :: r => .ok (.obj (Json.lastWins acc.reverse), r)
    | cs => do
      match ← name? cs with
      | (k, '=' :: r) =>
        match ← value? fuel r with
        | (v, ',' :: r) => members? fuel ((k, v) :: acc) r
        | (v, '\x7d' :: r) => return (.obj (Json.lastWins ((k, v) :: acc).reverse), r)
        | _ => refuse
      | _ => refuse

end

/-- What a variable holds, if anything can be made of it; a text that is no
    value stands for itself. -/
def value (s : String) : Option Json :=
  match value? (s.length + 2) s.toList with
  | .ok (v, []) => some v
  | .ok _ | .error .otherwise => some (.str s)
  | .error .torn => none

/-! ## Names -/

/-- The beginning of the names that count. -/
def marker : List Char := "neo_bus_".toList

/-- Turns two underscores into a dot. -/
def dots : List Char → List Char
  | '_' :: '_' :: r => '.' :: dots r
  | c :: r => c :: dots r
  | [] => []

/-- The path that a name spells, if it counts and no level is empty. -/
def path? (name : String) : Option (List String) :=
  let cs := trim (name.toList.map Char.toLower)
  if marker.isPrefixOf cs then
    let ps := cut (trim (dots (cs.drop marker.length)))
    if ps.any (·.isEmpty) then none else some (ps.map String.ofList)
  else none

/-! ## Layers -/

mutual

/-- Lays one value over another: objects are joined member by member, anything
    else hides what lies below. -/
def cover : Json → Json → Json
  | .obj top, .obj base => .obj (coverMembers top base)
  | top, _ => top

def coverMembers : List (String × Json) → List (String × Json) → List (String × Json)
  | [], base => base
  | (k, v) :: r, base =>
    match base.lookup k with
    | some b => coverMembers r (base.map fun m => if m.1 = k then (k, cover v b) else m)
    | none => coverMembers r (base ++ [(k, v)])

end

/-- A value at a path. -/
def nest (path : List String) (v : Json) : Json :=
  path.foldr (fun k inner => .obj [(k, inner)]) v

/-- All variables that count, as one value; none if one of them holds nothing
    that can be made out. -/
def layer (environment : List (String × String)) : Option Json :=
  let sorted := environment.mergeSort fun a b => a.1 ≤ b.1
  sorted.foldlM
    (fun base (name, text) =>
      match path? name with
      | some path => (value text).map fun v => cover (nest path v) base
      | none => some base)
    (.obj [])

end Switchboard.Environment
