import Switchboard.Json

/-
  Writing a settings document.

  Tables are written under a header each, their plain members first.  A string
  takes the first form that needs no escapes.

  * `writtenString` is a string in the form that suits it;
  * `render` writes a document.
-/

namespace Switchboard.Toml

/-! ## Strings -/

/-- The length of the longest run of a character. -/
def longestRun (c : Char) (cs : List Char) : Nat :=
  (cs.foldl (fun (s : Nat × Nat) d => if d = c then (s.1 + 1, max s.2 (s.1 + 1)) else (0, s.2))
    (0, 0)).2

/-- Whether a character can only be written as an escape. -/
def needsEscape (c : Char) : Bool := (c.toNat < 32 && c ≠ '\t' && c ≠ '\n') || c.toNat = 127

/-- The hexadecimal digits of a code point, four of them. -/
def fourDigits (n : Nat) : List Char :=
  let ds := (Nat.toDigits 16 n).map Char.toUpper
  List.replicate (4 - ds.length) '0' ++ ds

/-- How a character is written between double quotes; in a string of many lines
    line breaks stand for themselves. -/
def escaped (manyLines : Bool) (c : Char) : List Char :=
  if c = '"' then ['\\', '"']
  else if c = '\\' then ['\\', '\\']
  else if c = '\t' then ['\\', 't']
  else if c = '\n' then (if manyLines then ['\n'] else ['\\', 'n'])
  else if c = '\r' then ['\\', 'r']
  else if c.toNat = 8 then ['\\', 'b']
  else if c.toNat = 12 then ['\\', 'f']
  else if needsEscape c then '\\' :: 'u' :: fourDigits c.toNat
  else [c]

/-- The content of a string of many lines: of double quotes in a row, every
    third one is escaped; `run` counts those before. -/
def escapedLines : Nat → List Char → List Char
  | _, [] => []
  | run, c :: r =>
    if c = '"' then
      if run < 2 then '"' :: escapedLines (run + 1) r else '\\' :: '"' :: escapedLines 0 r
    else escaped true c ++ escapedLines 0 r

/-- A string in the form that suits it. -/
def writtenString (s : String) : String :=
  let cs := s.toList
  let plain := !cs.any needsEscape
  let backslash := cs.contains '\\'
  let newline := cs.contains '\n'
  let doubles := longestRun '"' cs
  let singles := longestRun '\'' cs
  let gap := if newline then "\n" else ""
  let lines := "\"\"\"" ++ gap ++ String.ofList (escapedLines 0 cs) ++ "\"\"\""
  let oneLine := "\"" ++ String.ofList (cs.flatMap (escaped false)) ++ "\""
  if plain && !backslash && doubles = 0 && !newline then oneLine
  else if plain && singles = 0 && !newline then "'" ++ s ++ "'"
  else if plain && !backslash && doubles ≤ 2 then lines
  else if plain && singles ≤ 2 then "\x27\x27\x27" ++ gap ++ s ++ "\x27\x27\x27"
  else if newline then lines
  else oneLine

/-! ## Documents -/

/-- A plain value, if the format has a form for it. -/
def scalarText? : Json → Option String
  | .bool b => some (if b then "true" else "false")
  | .int n => if -(Nat.pow 2 63) ≤ n && n < Nat.pow 2 63 then some (toString n) else none
  | .str s => some (writtenString s)
  | _ => none

def isTable : Json → Bool
  | .obj _ => true
  | _ => false

/-- The lines of the plain members of a table. -/
def memberLines? (ms : List (String × Json)) : Option (List String) :=
  (ms.filter fun m => !isTable m.2).mapM fun (k, v) =>
    (scalarText? v).map fun t => k ++ " = " ++ t ++ "\n"

mutual

/-- The sections of a table: its own, unless it is the document itself without
    plain members, and those of the tables in it. -/
def sections? (path : List String) : Json → Option (List String)
  | .obj ms =>
    match memberLines? ms, innerSections? path ms with
    | some own, some inner =>
      let header := "[" ++ ".".intercalate path ++ "]\n"
      if path.isEmpty then
        some (if own.isEmpty then inner else String.join own :: inner)
      else some ((header ++ String.join own) :: inner)
    | _, _ => none
  | _ => some []

def innerSections? (path : List String) : List (String × Json) → Option (List String)
  | [] => some []
  | (k, v) :: r =>
    match sections? (path ++ [k]) v, innerSections? path r with
    | some a, some b => some (a ++ b)
    | _, _ => none

end

/-- Writes a document of named values, if all of them can be written. -/
def render (v : Json) : Option String := (sections? [] v).map fun ss => "\n".intercalate ss

end Switchboard.Toml
