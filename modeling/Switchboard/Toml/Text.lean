/-
  Strings of a settings document — the four written forms and how they are read.

  A string stands between double quotes, with escapes, or between single quotes,
  as it is; three quotes of either kind open a string of many lines.

  * `escape?` reads the character behind a backslash, `unescapeUpTo` a text with
    escapes;
  * `string?` reads a string in any of the four forms, `oneLine?` in one of the
    two that stay on a line.
-/

namespace Switchboard.Toml

/-- What is read from the front of a text, with the rest of the text. -/
abbrev Reader (α : Type) := List Char → Option (α × List Char)

/-! ## Characters -/

def isBlank (c : Char) : Bool := c = ' ' || c = '\t'

/-- Characters that may stand for themselves on a line. -/
def isPrintable (c : Char) : Bool := c = '\t' || (32 ≤ c.toNat && c.toNat ≠ 127)

def skipBlanks (cs : List Char) : List Char := cs.dropWhile isBlank

/-- What follows a line break. -/
def afterLineBreak? : List Char → Option (List Char)
  | '\n' :: r => some r
  | '\r' :: '\n' :: r => some r
  | _ => none

def hexValue? (c : Char) : Option Nat :=
  if c.isDigit then some (c.toNat - 48)
  else if 'a' ≤ c && c ≤ 'f' then some (c.toNat - 87)
  else if 'A' ≤ c && c ≤ 'F' then some (c.toNat - 55)
  else none

/-- The number that a list of hexadecimal digits stands for. -/
def hexNumber? (cs : List Char) : Option Nat :=
  cs.foldlM (fun n c => (hexValue? c).map (16 * n + ·)) 0

/-! ## Escapes -/

/-- The character whose code point is written in `n` digits. -/
def codePoint? (n : Nat) (cs : List Char) : Option (Char × List Char) :=
  let digits := cs.take n
  if digits.length = n then
    match hexNumber? digits with
    | some v => if v.isValidChar then some (Char.ofNat v, cs.drop n) else none
    | none => none
  else none

/-- The character behind a backslash. -/
def escape? : Reader Char
  | 'b' :: r => some ('\x08', r)
  | 't' :: r => some ('\t', r)
  | 'n' :: r => some ('\n', r)
  | 'f' :: r => some ('\x0c', r)
  | 'r' :: r => some ('\r', r)
  | '"' :: r => some ('"', r)
  | '\\' :: r => some ('\\', r)
  | 'u' :: r => codePoint? 4 r
  | 'U' :: r => codePoint? 8 r
  | _ => none

/-- Reads escapes, at most `fuel` characters. -/
def unescapeUpTo : Nat → List Char → Option (List Char)
  | _, [] => some []
  | 0, _ => none
  | fuel + 1, '\\' :: r =>
    match escape? r with
    | some (c, r) => (unescapeUpTo fuel r).map (c :: ·)
    | none => none
  | fuel + 1, c :: r => if isPrintable c then (unescapeUpTo fuel r).map (c :: ·) else none

/-! ## Strings of one line -/

/-- The content up to the closing double quote. -/
def basicUpTo : Nat → List Char → Reader (List Char)
  | 0, _, _ => none
  | _, acc, '"' :: r => some (acc.reverse, r)
  | fuel + 1, acc, '\\' :: r =>
    match escape? r with
    | some (c, r) => basicUpTo fuel (c :: acc) r
    | none => none
  | fuel + 1, acc, c :: r => if isPrintable c then basicUpTo fuel (c :: acc) r else none
  | _, _, [] => none

/-- The content up to the closing single quote. -/
def literal? : Reader (List Char) := fun cs =>
  match cs.span fun c => isPrintable c && c ≠ '\'' with
  | (inner, '\'' :: r) => some (inner, r)
  | _ => none

/-- A string on one line. -/
def oneLine? : Reader String
  | '"' :: r => (basicUpTo (r.length + 1) [] r).map fun (cs, r) => (String.ofList cs, r)
  | '\'' :: r => (literal? r).map fun (cs, r) => (String.ofList cs, r)
  | _ => none

/-! ## Strings of many lines -/

/-- What a run of `n` closing quotes leaves to the content: up to two quotes may
    precede the three that close the string. -/
def closingRun? (quote : Char) (n : Nat) : Option (List Char) :=
  if 3 ≤ n && n ≤ 5 then some (List.replicate (n - 3) quote) else none

/-- Blanks and line breaks at the front of a text are dropped, at most `fuel`. -/
def skipSpace : Nat → List Char → List Char
  | 0, cs => cs
  | fuel + 1, c :: r =>
    if isBlank c then skipSpace fuel r
    else match afterLineBreak? (c :: r) with
      | some r => skipSpace fuel r
      | none => c :: r
  | _, [] => []

/-- The content of a string of many lines up to its closing quotes. -/
def linesUpTo (quote : Char) : Nat → List Char → Reader (List Char)
  | 0, _, _ => none
  | _, _, [] => none
  | fuel + 1, acc, c :: r =>
    if c = quote then
      let run := (c :: r).takeWhile (· = quote)
      let rest := (c :: r).dropWhile (· = quote)
      if run.length < 3 then linesUpTo quote fuel (run ++ acc) rest
      else match closingRun? quote run.length with
        | some more => some (acc.reverse ++ more, rest)
        | none => none
    else if c = '\\' && quote = '"' then
      match afterLineBreak? (skipBlanks r) with
      | some r => linesUpTo quote fuel acc (skipSpace r.length r)
      | none =>
        match escape? r with
        | some (c, r) => linesUpTo quote fuel (c :: acc) r
        | none => none
    else match afterLineBreak? (c :: r) with
      | some r => linesUpTo quote fuel ('\n' :: acc) r
      | none => if isPrintable c then linesUpTo quote fuel (c :: acc) r else none

/-- A string of many lines behind its opening quotes; a line break right there
    does not count. -/
def manyLines? (quote : Char) : Reader String := fun cs =>
  let cs := (afterLineBreak? cs).getD cs
  (linesUpTo quote (cs.length + 1) [] cs).map fun (inner, r) => (String.ofList inner, r)

/-- A string in any form. -/
def string? : Reader String
  | '"' :: '"' :: '"' :: r => manyLines? '"' r
  | '\'' :: '\'' :: '\'' :: r => manyLines? '\'' r
  | cs => oneLine? cs

end Switchboard.Toml
