import Switchboard.Toml.Scalar
import Switchboard.Toml.Tree

/-
  Reading a settings document.

  A document is a sequence of lines: a header opens a table, every other line
  gives a key of the open table its value.  A document in which anything is
  malformed, or defined twice, has no value.

  * `value?` reads a value, `key?` a key with its dots;
  * `parse` reads a document.
-/

namespace Switchboard.Toml

/-! ## Keys -/

def isBareKeyChar (c : Char) : Bool := c.isAlphanum || c = '-' || c = '_'

/-- One part of a key. -/
def keyPart? : Reader String := fun cs =>
  match cs with
  | '"' :: _ | '\'' :: _ => oneLine? cs
  | cs =>
    match cs.span isBareKeyChar with
    | ([], _) => none
    | (k, r) => some (String.ofList k, r)

/-- A key of at most `fuel` parts joined by dots. -/
def keyUpTo : Nat → Reader (List String)
  | 0, _ => none
  | fuel + 1, cs =>
    match keyPart? (skipBlanks cs) with
    | none => none
    | some (k, r) =>
      match skipBlanks r with
      | '.' :: r => (keyUpTo fuel r).map fun (ks, r) => (k :: ks, r)
      | r => some ([k], r)

/-- How many parts a key may have, and how deep a value may be nested. -/
def deepest : Nat := 79

/-- A key with its dots, and the blanks around it. -/
def key? : Reader (List String) := keyUpTo deepest

/-! ## Values -/

/-- Drops the comment at the front of a text, if there is one. -/
def skipComment : List Char → List Char
  | '#' :: r => r.dropWhile isPrintable
  | cs => cs

/-- Drops blanks, comments and line breaks, at most `fuel` times. -/
def skipLines : Nat → List Char → List Char
  | 0, cs => cs
  | fuel + 1, cs =>
    let cs := skipComment (skipBlanks cs)
    match afterLineBreak? cs with
    | some r => skipLines fuel r
    | none => cs

def skipFiller (cs : List Char) : List Char := skipLines (cs.length + 1) cs

mutual

/-- A value with at most `depth` brackets or braces around its innermost part. -/
def value? : Nat → Nat → Reader Json
  | 0, _, _ => none
  | fuel + 1, depth, cs =>
    match cs, depth with
    | '"' :: _, _ | '\'' :: _, _ => (string? cs).map fun (s, r) => (.str s, r)
    | '[' :: _, 0 | '\x7b' :: _, 0 => none
    | '[' :: r, depth + 1 => elements? fuel depth [] (skipFiller r)
    | '\x7b' :: r, depth + 1 =>
      match skipBlanks r with
      | '\x7d' :: r => some (.obj [], r)
      | r => inlineMembers? fuel depth [] r
    | cs, _ => scalar? cs

/-- The elements of an array up to its bracket. -/
def elements? : Nat → Nat → List Json → Reader Json
  | 0, _, _, _ => none
  | fuel + 1, depth, acc, cs =>
    match cs with
    | ']' :: r => some (.arr acc.reverse, r)
    | cs =>
      match value? fuel depth cs with
      | none => none
      | some (v, r) =>
        match skipFiller r with
        | ',' :: r => elements? fuel depth (v :: acc) (skipFiller r)
        | ']' :: r => some (.arr (v :: acc).reverse, r)
        | _ => none

/-- The members of a table on one line, up to its brace. -/
def inlineMembers? : Nat → Nat → Members → Reader Json
  | 0, _, _, _ => none
  | fuel + 1, depth, ms, cs =>
    match key? cs with
    | some (path, '=' :: r) =>
      match value? fuel depth (skipBlanks r) with
      | none => none
      | some (v, r) =>
        match define path.dropLast (path.getLastD "") (.value v) ms with
        | none => none
        | some ms =>
          match skipBlanks r with
          | ',' :: r => inlineMembers? fuel depth ms r
          | '\x7d' :: r => some (.obj (membersToJson ms), r)
          | _ => none
    | _ => none

end

/-! ## Lines -/

/-- A document being read: the finished part, and the open table. -/
structure Draft where
  root : Members := []
  /-- the path of the open table, and whether it joins an array of tables -/
  opened : Option (List String × Bool) := none
  current : Members := []

namespace Draft

/-- Puts the open table where it belongs. -/
def close (d : Draft) : Option Members :=
  match d.opened with
  | none => some d.current
  | some (path, inArray) =>
    let key := path.getLastD ""
    let put (_ : Origin) (ms : Members) : Option Members :=
      if inArray then
        match ms.lookup key with
        | none => some (ms ++ [(key, .tables [d.current])])
        | some (.tables es) => some (ms.set key (.tables (es ++ [d.current])))
        | some _ => none
      else some (ms ++ [(key, .table .header d.current)])
    editAt .passing put path.dropLast .header d.root

/-- The members of the table at a path; none if there is no such table. -/
def inside : List String → Members → Members
  | [], ms => ms
  | k :: path, ms =>
    match ms.lookup k with
    | some (.table _ inner) => inside path inner
    | some (.tables es) => inside path (es.getLastD [])
    | _ => []

/-- Opens the table of a header.  A table that was made on the way to another
    one may still be opened; no other table twice. -/
def openTable (d : Draft) (path : List String) : Option Draft := do
  let root ← d.close
  let key := path.getLastD ""
  let take (_ : Origin) (ms : Members) : Option Members :=
    match ms.lookup key with
    | none => some ms
    | some (.table .passing _) => some (ms.filter (·.1 ≠ key))
    | some _ => none
  let rest ← editAt .passing take path.dropLast .header root
  return { root := rest, opened := some (path, false), current := inside path root }

/-- Opens a new element of an array of tables. -/
def openElement (d : Draft) (path : List String) : Option Draft := do
  let root ← d.close
  let key := path.getLastD ""
  let check (_ : Origin) (ms : Members) : Option Members :=
    match ms.lookup key with
    | none | some (.tables _) => some ms
    | some _ => none
  let root ← editAt .passing check path.dropLast .header root
  return { root, opened := some (path, true), current := [] }

end Draft

/-- One line without its end: an empty one, a header, or a key with its value. -/
def line? (d : Draft) (cs : List Char) : Option (Draft × List Char) :=
  match cs with
  | [] => some (d, [])
  | '#' :: _ | '\n' :: _ | '\r' :: _ => some (d, cs)
  | '[' :: '[' :: r =>
    match key? r with
    | some (path, ']' :: ']' :: r) => (d.openElement path).map (·, r)
    | _ => none
  | '[' :: r =>
    match key? r with
    | some (path, ']' :: r) => (d.openTable path).map (·, r)
    | _ => none
  | cs =>
    match key? cs with
    | some (path, '=' :: r) =>
      match value? (r.length + 1) deepest (skipBlanks r) with
      | some (v, r) =>
        (define path.dropLast (path.getLastD "") (.value v) d.current).map fun current =>
          ({ d with current }, r)
      | none => none
    | _ => none

/-- Lines, at most `fuel`, up to the end of the document. -/
def lines? : Nat → Draft → List Char → Option Members
  | 0, _, _ => none
  | fuel + 1, d, cs =>
    match line? d (skipBlanks cs) with
    | none => none
    | some (d, r) =>
      match skipComment (skipBlanks r) with
      | [] => d.close
      | r =>
        match afterLineBreak? r with
        | some r => lines? fuel d r
        | none => none

/-- Reads a document; it may begin with a byte order mark. -/
def parse (text : String) : Option Json :=
  let cs := match text.toList with
    | '\uFEFF' :: r => r
    | cs => cs
  (lines? (cs.length + 1) {} cs).map fun ms => .obj (membersToJson ms)

end Switchboard.Toml
