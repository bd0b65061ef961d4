import Switchboard.Json
import Switchboard.Toml.Text

/-
  Numbers, truth values and dates of a settings document.

  Each of them is one word without quotes.  Digits may be grouped by single
  underscores; integers fit into 64 bits.

  * `scalar?` reads a word.
-/

namespace Switchboard.Toml

/-! ## Digits -/

/-- Digits without the underscores that group them, if every underscore stands
    between two digits. -/
def ungrouped? (isDigit : Char → Bool) : List Char → Option (List Char)
  | [] => none
  | [c] => if isDigit c then some [c] else none
  | c :: '_' :: r => if isDigit c then (ungrouped? isDigit r).map (c :: ·) else none
  | c :: r => if isDigit c then (ungrouped? isDigit r).map (c :: ·) else none

/-- The number that digits of a base stand for. -/
def valueOf (base : Nat) (cs : List Char) : Nat :=
  cs.foldl (fun n c => base * n + (hexValue? c).getD 0) 0

def digitOf (base : Nat) (c : Char) : Bool :=
  match hexValue? c with
  | some v => v < base
  | none => false

/-- Decimal digits without a superfluous zero in front. -/
def wholePart? (cs : List Char) : Option (List Char) :=
  match ungrouped? Char.isDigit cs with
  | some ('0' :: _ :: _) => none
  | ds => ds

/-- Splits the sign off a word: whether it is a minus, and the rest. -/
def signed : List Char → Bool × List Char
  | '-' :: r => (true, r)
  | '+' :: r => (false, r)
  | cs => (false, cs)

/-! ## Numbers -/

def int64? (n : Int) : Option Json :=
  if -(Nat.pow 2 63) ≤ n && n < Nat.pow 2 63 then some (.int n) else none

/-- An integer of a base other than ten. -/
def basedInteger? (base : Nat) (cs : List Char) : Option Json :=
  (ungrouped? (digitOf base) cs).bind fun ds => int64? (valueOf base ds)

def integer? (cs : List Char) : Option Json :=
  match cs with
  | '0' :: 'x' :: r => basedInteger? 16 r
  | '0' :: 'o' :: r => basedInteger? 8 r
  | '0' :: 'b' :: r => basedInteger? 2 r
  | cs =>
    let (neg, digits) := signed cs
    (wholePart? digits).bind fun ds =>
      int64? (if neg then -(valueOf 10 ds : Int) else valueOf 10 ds)

/-- The digits behind a point; none without one. -/
def fraction? : List Char → Option (List Char)
  | [] => some []
  | '.' :: r => ungrouped? Char.isDigit r
  | _ => none

/-- The exponent behind an `e`; zero without one. -/
def exponent? : List Char → Option Int
  | [] => some 0
  | _ :: r =>
    let (neg, digits) := signed r
    (ungrouped? Char.isDigit digits).map fun ds =>
      if neg then -(valueOf 10 ds : Int) else valueOf 10 ds

/-- A number with a fraction or an exponent.  One that is too large is none, one
    that is too small stands for zero. -/
def real? (cs : List Char) : Option Json :=
  let (neg, cs) := signed cs
  if cs = "inf".toList || cs = "nan".toList then some (.real (.zero neg))
  else
    let isE (c : Char) : Bool := c = 'e' || c = 'E'
    let mantissa := cs.takeWhile (!isE ·)
    if !cs.any isE && !mantissa.contains '.' then none else
    let whole := mantissa.takeWhile (· ≠ '.')
    match wholePart? whole, fraction? (mantissa.dropWhile (· ≠ '.')),
        exponent? (cs.dropWhile (!isE ·)) with
    | some w, some f, some e =>
      let digits := valueOf 10 (w ++ f)
      let e := e - f.length
      let size : Int := e + (w ++ f).length
      if digits = 0 || size < -400 then some (.real (.zero neg))
      else if 400 < size then if neg then some (.real (.zero neg)) else none
      else match Binary64.ofDecimal? neg digits e with
        | some x => some (.real x)
        | none => if neg then some (.real (.zero neg)) else none
    | _, _, _ => none

/-! ## Dates and times -/

/-- The number written in exactly `n` digits at the front. -/
def fixedDigits? (n : Nat) : Reader Nat := fun cs =>
  let ds := cs.take n
  if ds.length = n && ds.all Char.isDigit then some (valueOf 10 ds, cs.drop n) else none

def isLeapYear (y : Nat) : Bool := (y % 4 = 0 && y % 100 ≠ 0) || y % 400 = 0

def daysIn (y m : Nat) : Nat :=
  if m = 2 then (if isLeapYear y then 29 else 28)
  else if [4, 6, 9, 11].contains m then 30 else 31

/-- What follows a date. -/
def afterDate? (cs : List Char) : Option (List Char) :=
  match fixedDigits? 4 cs with
  | some (y, '-' :: r) =>
    match fixedDigits? 2 r with
    | some (m, '-' :: r) =>
      match fixedDigits? 2 r with
      | some (d, r) =>
        if 1 ≤ m && m ≤ 12 && 1 ≤ d && d ≤ daysIn y m then some r else none
      | none => none
    | _ => none
  | _ => none

/-- What follows hours and minutes. -/
def afterHourMinute? (cs : List Char) : Option (List Char) :=
  match fixedDigits? 2 cs with
  | some (h, ':' :: r) =>
    match fixedDigits? 2 r with
    | some (m, r) => if h ≤ 23 && m ≤ 59 then some r else none
    | none => none
  | _ => none

/-- What follows a time of day. -/
def afterTime? (cs : List Char) : Option (List Char) :=
  match afterHourMinute? cs with
  | some (':' :: r) =>
    match fixedDigits? 2 r with
    | some (s, r) =>
      if s ≤ 60 then
        match r with
        | '.' :: f => if (f.takeWhile Char.isDigit).isEmpty then none else some (f.dropWhile Char.isDigit)
        | r => some r
      else none
    | none => none
  | _ => none

/-- Whether a text is an offset from universal time. -/
def isOffset : List Char → Bool
  | ['Z'] | ['z'] => true
  | '+' :: r | '-' :: r => afterHourMinute? r = some []
  | _ => false

/-- Whether a word is a date, a time, or both. -/
def isMoment (cs : List Char) : Bool :=
  match afterDate? cs with
  | some [] => true
  | some (c :: r) =>
    (c = 'T' || c = 't' || c = ' ') &&
      match afterTime? r with
      | some rest => rest.isEmpty || isOffset rest
      | none => false
  | none => afterTime? cs = some []

/-! ## Words -/

/-- Characters of words without quotes. -/
def isWordChar (c : Char) : Bool := c.isAlphanum || ['+', '-', '_', '.', ':'].contains c

/-- Splits a word off a text.  A date and a time may be joined by a blank. -/
def word (cs : List Char) : List Char × List Char :=
  let (w, rest) := cs.span isWordChar
  match rest with
  | ' ' :: a :: b :: ':' :: r =>
    if afterDate? w = some [] && a.isDigit && b.isDigit then
      let (t, rest) := (a :: b :: ':' :: r).span isWordChar
      (w ++ ' ' :: t, rest)
    else (w, rest)
  | _ => (w, rest)

/-- The key under which the text of a date stands. -/
def momentKey : String := "$__toml_private_datetime"

/-- A date as a value: an object, so that nothing else is mistaken for it. -/
def moment (cs : List Char) : Json := .obj [(momentKey, .str (String.ofList cs))]

/-- The value of a word. -/
def wordValue? (w : List Char) : Option Json :=
  if w = "true".toList then some (.bool true)
  else if w = "false".toList then some (.bool false)
  else if isMoment w then some (moment w)
  else (integer? w).or (real? w)

/-- A value without quotes or brackets. -/
def scalar? : Reader Json := fun cs =>
  let (w, rest) := word cs
  (wordValue? w).map (·, rest)

end Switchboard.Toml
