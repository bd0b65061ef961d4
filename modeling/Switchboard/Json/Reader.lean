import Switchboard.Json

/-
  Reading JSON text.

  The reader walks over the bytes of a text with a cursor that knows line and
  column, so that every error says where it was noticed: at the cursor, or at
  the byte the cursor looks at.  Arrays and objects nest 127 deep at most.

  A reading may be tolerant: what is well written but has no value — a number
  out of range, a text with half a surrogate pair — then stands as `false`, and
  nesting has no bound.  This is how a record is read whose unknown members do
  not matter.

  * `Cursor` is a position in the text and the bytes after it;
  * `SyntaxError` is a cause with its place, `SyntaxError.message` its wording;
  * the leaves (`literal`, `number`, `string`) come first, then `value`;
  * `parse` reads a text, and keeps the last of repeated members; `skim` is
    tolerant and keeps all of them.
-/

namespace Switchboard.Json

/-! ## Errors -/

/-- Why a text is no JSON value. -/
inductive SyntaxCause where
  | endInList
  | endInObject
  | endInString
  | endInValue
  | expectedColon
  | expectedCommaOrBracket
  | expectedCommaOrBrace
  | expectedWord
  | expectedValue
  | badEscape
  | badNumber
  | hugeNumber
  | controlCharacter
  | keyNotString
  | loneSurrogate
  | endOfEscape
  | trailingComma
  | trailingText
  | tooDeep
  deriving DecidableEq, Repr

def SyntaxCause.text : SyntaxCause → String
  | .endInList => "EOF while parsing a list"
  | .endInObject => "EOF while parsing an object"
  | .endInString => "EOF while parsing a string"
  | .endInValue => "EOF while parsing a value"
  | .expectedColon => "expected `:`"
  | .expectedCommaOrBracket => "expected `,` or `]`"
  | .expectedCommaOrBrace => "expected `,` or `\x7d`"
  | .expectedWord => "expected ident"
  | .expectedValue => "expected value"
  | .badEscape => "invalid escape"
  | .badNumber => "invalid number"
  | .hugeNumber => "number out of range"
  | .controlCharacter => "control character (\\u0000-\\u001F) found while parsing a string"
  | .keyNotString => "key must be a string"
  | .loneSurrogate => "lone leading surrogate in hex escape"
  | .endOfEscape => "unexpected end of hex escape"
  | .trailingComma => "trailing comma"
  | .trailingText => "trailing characters"
  | .tooDeep => "recursion limit exceeded"

/-- A cause and the place where it was noticed. -/
structure SyntaxError where
  cause : SyntaxCause
  line : Nat
  column : Nat
  deriving DecidableEq, Repr

def SyntaxError.message (e : SyntaxError) : String :=
  e.cause.text ++ " at line " ++ toString e.line ++ " column " ++ toString e.column

/-! ## The cursor -/

/-- The bytes still to be read, and how many lines were begun and bytes of the
    current line passed before them. -/
structure Cursor where
  rest : List UInt8
  line : Nat
  column : Nat
  /-- whether what has no value is passed over -/
  tolerant : Bool

namespace Cursor

def start (tolerant : Bool) (bytes : List UInt8) : Cursor := ⟨bytes, 1, 0, tolerant⟩

def byte (c : Char) : UInt8 := c.toNat.toUInt8

/-- Passes one byte; a newline begins a line. -/
def next (c : Cursor) : Cursor :=
  match c.rest with
  | [] => c
  | b :: r =>
    if b = byte '\n' then { c with rest := r, line := c.line + 1, column := 0 }
    else { c with rest := r, column := c.column + 1 }

def skip : Nat → Cursor → Cursor
  | 0, c => c
  | n + 1, c => skip n c.next

/-- An error noticed behind the bytes passed so far. -/
def fail (c : Cursor) (cause : SyntaxCause) : Except SyntaxError α :=
  .error ⟨cause, c.line, c.column⟩

/-- An error noticed at the byte the cursor looks at. -/
def failAhead (c : Cursor) (cause : SyntaxCause) : Except SyntaxError α := c.next.fail cause

def isBlank (b : UInt8) : Bool :=
  b = byte ' ' || b = byte '\n' || b = byte '\t' || b = byte '\r'

def skipBlanks (c : Cursor) : Cursor := skip (c.rest.takeWhile isBlank).length c

end Cursor

open Cursor

/-- What stands for a part that has no value. -/
def noValue : Json := .bool false

/-- A part that has no value: an error, unless the reading is tolerant. -/
def Cursor.passOver (c : Cursor) (cause : SyntaxCause) : Except SyntaxError (Json × Cursor) :=
  if c.tolerant then .ok (noValue, c) else c.fail cause

/-! ## Leaves -/

/-- Reads the rest of a word such as `true`. -/
def literal : List Char → Json → Cursor → Except SyntaxError (Json × Cursor)
  | [], v, c => .ok (v, c)
  | w :: ws, v, c =>
    match c.rest with
    | [] => c.fail .endInValue
    | b :: _ => if b = byte w then literal ws v c.next else c.next.fail .expectedWord

def isDigit (b : UInt8) : Bool := byte '0' ≤ b && b ≤ byte '9'

def digitValue (b : UInt8) : Nat := b.toNat - 48

/-- The digits ahead. -/
def digitsAhead (c : Cursor) : List UInt8 := c.rest.takeWhile isDigit

/-- The largest significand whose digits are all kept. -/
def maxWord : Nat := Nat.pow 2 64 - 1

/-- Appends digits to a significand as long as it stays within 64 bits;
    answers it with the count of digits taken. -/
def accumulate (sig : Nat) : List UInt8 → Nat × Nat
  | [] => (sig, 0)
  | b :: r =>
    let sig' := sig * 10 + digitValue b
    if maxWord < sig' then (sig, 0)
    else
      let (s, n) := accumulate sig' r
      (s, n + 1)

def realOf (neg : Bool) (sig : Nat) (e : Int) (c : Cursor) : Except SyntaxError (Json × Cursor) :=
  match Binary64.ofDecimal? neg sig e with
  | some x => .ok (.real x, c)
  | none => c.passOver .hugeNumber

/-- The largest exponent that is still told apart. -/
def maxExponent : Nat := Nat.pow 2 31 - 1

/-- Appends digits to an exponent up to its bound; answers it with the count
    of digits passed, the first digit beyond the bound included. -/
def exponentOf (e : Nat) : List UInt8 → Option Nat × Nat
  | [] => (some e, 0)
  | b :: r =>
    let e' := e * 10 + digitValue b
    if maxExponent < e' then (none, 1)
    else
      let (x, n) := exponentOf e' r
      (x, n + 1)

/-- Reads an exponent, the cursor looking at its `e`. -/
def exponent (neg : Bool) (sig : Nat) (e : Int) (c : Cursor) : Except SyntaxError (Json × Cursor) :=
  let c := c.next
  let (down, c) :=
    match c.rest with
    | b :: _ => if b = byte '-' then (true, c.next) else if b = byte '+' then (false, c.next)
                else (false, c)
    | [] => (false, c)
  match c.rest with
  | [] => c.fail .endInValue
  | b :: _ =>
    let c := c.next
    if isDigit b then
      let (x, n) := exponentOf (digitValue b) (digitsAhead c)
      let c := skip n c
      match x with
      | some x => realOf neg sig (if down then e - x else e + x) c
      | none =>
        let rest := skip (digitsAhead c).length c
        if sig = 0 || down then .ok (.real (.zero neg), rest)
        else if c.tolerant then .ok (noValue, rest)
        else c.fail .hugeNumber
    else c.fail .badNumber

def looksAt (c : Cursor) (chars : List Char) : Bool :=
  match c.rest with
  | b :: _ => chars.any (byte · = b)
  | [] => false

/-- Reads what may follow the digits of a fraction or of a long integer. -/
def afterDigits (neg : Bool) (sig : Nat) (e : Int) (c : Cursor) : Except SyntaxError (Json × Cursor) :=
  if looksAt c ['e', 'E'] then exponent neg sig e c else realOf neg sig e c

/-- Reads a fraction, the cursor looking at its point; `e` is the exponent
    left over from digits before the point. -/
def fraction (neg : Bool) (sig : Nat) (e : Int) (c : Cursor) : Except SyntaxError (Json × Cursor) :=
  let c := c.next
  let digits := digitsAhead c
  if digits.isEmpty then
    if c.rest.isEmpty then c.fail .endInValue else c.failAhead .badNumber
  else
    let (sig, n) := accumulate sig digits
    afterDigits neg sig (e - n) (skip digits.length c)

/-- Reads a number, the cursor behind its sign. -/
def number (neg : Bool) (c : Cursor) : Except SyntaxError (Json × Cursor) :=
  match c.rest with
  | [] => c.fail .endInValue
  | b :: _ =>
    let digits := digitsAhead c
    if !isDigit b then c.next.fail .badNumber
    else if b = byte '0' && 1 < digits.length then c.next.failAhead .badNumber
    else
      let (sig, n) := accumulate 0 digits
      let spare := digits.length - n
      let c := skip digits.length c
      if looksAt c ['.'] then fraction neg sig spare c
      else if looksAt c ['e', 'E'] then exponent neg sig spare c
      else if 0 < spare then realOf neg sig spare c
      else if !neg then .ok (.int sig, c)
      else if sig = 0 || Nat.pow 2 63 < sig then realOf true sig 0 c
      else .ok (.int (-(sig : Int)), c)

/-! ## Strings -/

def hexValue? (b : UInt8) : Option Nat :=
  let n := b.toNat
  if 48 ≤ n && n ≤ 57 then some (n - 48)
  else if 97 ≤ n && n ≤ 102 then some (n - 87)
  else if 65 ≤ n && n ≤ 70 then some (n - 55)
  else none

/-- Reads four hexadecimal digits. -/
def hexFour (c : Cursor) : Except SyntaxError (Nat × Cursor) :=
  match c.rest with
  | a :: b :: d :: e :: _ =>
    match hexValue? a, hexValue? b, hexValue? d, hexValue? e with
    | some a, some b, some d, some e => .ok (((a * 16 + b) * 16 + d) * 16 + e, skip 4 c)
    | _, _, _, _ => (skip 4 c).fail .badEscape
  | r => (skip r.length c).fail .endInString

/-- The bytes of the character with a code point. -/
def encoded (n : Nat) : List UInt8 := (Char.ofNat n).toString.toUTF8.toList

/-- Passes one expected byte of a second escape. -/
def expectEscape (w : Char) (c : Cursor) : Except SyntaxError Cursor :=
  match c.rest with
  | [] => c.fail .endInString
  | b :: _ => if b = byte w then .ok c.next else c.next.fail .endOfEscape

/-- A byte that no text contains. -/
def noByte : UInt8 := 0xFF

/-- Reads the second escape of a pair, the cursor behind the first one. -/
def secondHalf (n : Nat) (c : Cursor) : Except SyntaxError (List UInt8 × Cursor) := do
  let c ← expectEscape '\\' c
  let c ← expectEscape 'u' c
  let (m, c) ← hexFour c
  if m < 0xDC00 || 0xDFFF < m then c.fail .loneSurrogate
  else .ok (encoded ((n - 0xD800) * 0x400 + (m - 0xDC00) + 0x10000), c)

/-- Reads an escape for a code point, the cursor behind its `u`; a point
    beyond the basic plane is written as two escapes. -/
def codePoint (c : Cursor) : Except SyntaxError (List UInt8 × Cursor) := do
  let (n, c) ← hexFour c
  if n < 0xD800 || 0xDFFF < n then .ok (encoded n, c)
  else if n < 0xDC00 then
    match secondHalf n c with
    | .ok r => .ok r
    | .error e => if c.tolerant then .ok ([noByte], c) else .error e
  else if c.tolerant then .ok ([noByte], c)
  else c.fail .loneSurrogate

/-- Reads an escape, the cursor behind its backslash. -/
def escaped (c : Cursor) : Except SyntaxError (List UInt8 × Cursor) :=
  match c.rest with
  | [] => c.fail .endInString
  | b :: _ =>
    let c := c.next
    if b = byte '"' || b = byte '\\' || b = byte '/' then .ok ([b], c)
    else if b = byte 'b' then .ok ([8], c)
    else if b = byte 'f' then .ok ([12], c)
    else if b = byte 'n' then .ok ([10], c)
    else if b = byte 'r' then .ok ([13], c)
    else if b = byte 't' then .ok ([9], c)
    else if b = byte 'u' then codePoint c
    else c.fail .badEscape

def isPlain (b : UInt8) : Bool := b ≠ byte '"' && b ≠ byte '\\' && 32 ≤ b

/-- Reads the bytes of a string up to its closing quote, piece by piece. -/
def stringBytes : Nat → List UInt8 → Cursor → Except SyntaxError (List UInt8 × Cursor)
  | 0, _, c => c.fail .endInString
  | fuel + 1, done, c =>
    let plain := c.rest.takeWhile isPlain
    let done := done ++ plain
    let c := skip plain.length c
    match c.rest with
    | [] => c.fail .endInString
    | b :: _ =>
      if b = byte '"' then .ok (done, c.next)
      else if b = byte '\\' then do
        let (bytes, c) ← escaped c.next
        stringBytes fuel (done ++ bytes) c
      else c.next.fail .controlCharacter

/-- Reads a string, the cursor behind its opening quote; there is none when the
    bytes are no text. -/
def string (c : Cursor) : Except SyntaxError (Option String × Cursor) := do
  let (bytes, c) ← stringBytes (c.rest.length + 1) [] c
  match String.fromUTF8? ⟨bytes.toArray⟩ with
  | some s => .ok (some s, c)
  | none => if c.tolerant then .ok (none, c) else c.fail .badEscape

/-! ## Values -/

/-- Arrays and objects may nest to less than this depth. -/
def maxDepth : Nat := 128

/-- Passes the blanks and the comma before an item that is not the first. -/
def afterComma (close : Char) (c : Cursor) : Except SyntaxError Cursor :=
  let c := c.next.skipBlanks
  if c.rest.isEmpty then c.failAhead .endInValue
  else if looksAt c [close] then c.failAhead .trailingComma
  else .ok c

mutual

/-- Reads a value; `depth` is how many more levels may be opened. -/
def value : Nat → Nat → Cursor → Except SyntaxError (Json × Cursor)
  | 0, _, c => c.fail .tooDeep
  | fuel + 1, depth, c =>
    let c := c.skipBlanks
    match c.rest with
    | [] => c.failAhead .endInValue
    | b :: _ =>
      if b = byte 'n' then literal ['u', 'l', 'l'] .null c.next
      else if b = byte 't' then literal ['r', 'u', 'e'] (.bool true) c.next
      else if b = byte 'f' then literal ['a', 'l', 's', 'e'] (.bool false) c.next
      else if b = byte '-' then number true c.next
      else if isDigit b then number false c
      else if b = byte '"' then do
        let (s, c) ← string c.next
        .ok ((s.map Json.str).getD noValue, c)
      else if b = byte '[' then
        if depth ≤ 1 && !c.tolerant then c.failAhead .tooDeep
        else items fuel (depth - 1) [] c.next
      else if b = byte '\x7b' then
        if depth ≤ 1 && !c.tolerant then c.failAhead .tooDeep
        else members fuel (depth - 1) (some []) c.next
      else c.failAhead .expectedValue

/-- Reads the items of an array up to its bracket. -/
def items : Nat → Nat → List Json → Cursor → Except SyntaxError (Json × Cursor)
  | 0, _, _, c => c.fail .tooDeep
  | fuel + 1, depth, done, c =>
    let c := c.skipBlanks
    if c.rest.isEmpty then c.failAhead .endInList
    else if looksAt c [']'] then .ok (.arr done, c.next)
    else do
      let c ←
        if done.isEmpty then pure c
        else if looksAt c [','] then afterComma ']' c
        else c.failAhead .expectedCommaOrBracket
      let (v, c) ← value fuel depth c
      items fuel depth (done ++ [v]) c

/-- Reads the members of an object up to its brace; there are none left when a
    key had no value. -/
def members : Nat → Nat → Option (List (String × Json)) → Cursor →
    Except SyntaxError (Json × Cursor)
  | 0, _, _, c => c.fail .tooDeep
  | fuel + 1, depth, done, c =>
    let c := c.skipBlanks
    if c.rest.isEmpty then c.failAhead .endInObject
    else if looksAt c ['\x7d'] then .ok ((done.map Json.obj).getD noValue, c.next)
    else do
      let c ←
        if done.any List.isEmpty then pure c
        else if looksAt c [','] then afterComma '\x7d' c
        else c.failAhead .expectedCommaOrBrace
      if looksAt c ['"'] then
        let (key, c) ← string c.next
        let c := c.skipBlanks
        if c.rest.isEmpty then c.failAhead .endInObject
        else if looksAt c [':'] then
          let (v, c) ← value fuel depth c.next
          let member := key.map (·, v)
          members fuel depth (done.bind fun ms => member.map fun m => ms ++ [m]) c
        else c.failAhead .expectedColon
      else c.failAhead .keyNotString

end

/-- Reads a text that holds one value and nothing else; repeated members of an
    object are all kept. -/
def parseMembers (tolerant : Bool) (text : String) : Except SyntaxError Json := do
  let bytes := text.toUTF8.toList
  let (v, c) ← value (2 * bytes.length + 2) maxDepth (Cursor.start tolerant bytes)
  let c := c.skipBlanks
  if c.rest.isEmpty then .ok v else c.failAhead .trailingText

mutual

/-- Keeps the last of repeated members, at every level. -/
def withoutRepeats : Json → Json
  | .arr items => .arr (withoutRepeatsItems items)
  | .obj ms => .obj (lastWins (withoutRepeatsMembers ms))
  | v => v

def withoutRepeatsItems : List Json → List Json
  | [] => []
  | v :: r => withoutRepeats v :: withoutRepeatsItems r

def withoutRepeatsMembers : List (String × Json) → List (String × Json)
  | [] => []
  | (k, v) :: r => (k, withoutRepeats v) :: withoutRepeatsMembers r

end

/-- Reads a text that holds one value; of repeated members the last counts. -/
def parse (text : String) : Except SyntaxError Json := withoutRepeats <$> parseMembers false text

/-- Reads a text that holds one value, passing over what has none. -/
def skim (text : String) : Except SyntaxError Json := parseMembers true text

end Switchboard.Json
