/-
  Binary floating-point numbers with 53 bits of precision.

  A number is `± mant · 2^exp`.  In the normal form kept by `ofRatio?` the
  significand has exactly 53 bits, or the exponent is the least one.  All
  arithmetic is exact arithmetic of natural numbers followed by one rounding.

  * `ofRatio?` is the number nearest to a quotient, an exact half going to the
    even neighbour; `none` if it is too large;
  * `ofDecimal?` reads `digits · 10^e`: the nearest number of the digits,
    scaled by the nearest number of the power of ten;
  * `shortest` is the decimal with fewest digits that rounds to the number,
    `text` writes it, and `fixed` writes a given count of decimals.
-/

namespace Switchboard

/-- The quotient rounded to the nearest natural number, an exact half to the
    even one. -/
def roundDiv (num den : Nat) : Nat :=
  let q := num / den
  let r := num % den
  if 2 * r < den then q
  else if den < 2 * r then q + 1
  else if q % 2 = 0 then q else q + 1

/-- `± mant · 2^exp`. -/
structure Binary64 where
  neg : Bool
  mant : Nat
  exp : Int
  deriving DecidableEq, Repr

namespace Binary64

/-- The exponent of the smallest positive number. -/
def minExp : Int := -1074

/-- The largest exponent of a finite number with a 53-bit significand. -/
def maxExp : Int := 971

def zero (neg : Bool) : Binary64 := ⟨neg, 0, minExp⟩

/-- Multiplies a quotient by a power of two, keeping numerator and denominator
    natural. -/
def scaleTwo (num den : Nat) (e : Int) : Nat × Nat :=
  if 0 ≤ e then (num * Nat.pow 2 e.toNat, den) else (num, den * Nat.pow 2 (-e).toNat)

/-- The magnitude as a quotient. -/
def ratio (x : Binary64) : Nat × Nat := scaleTwo x.mant 1 x.exp

/-- The number nearest to `± num / den`; `none` beyond the largest one. -/
def ofRatio? (neg : Bool) (num den : Nat) : Option Binary64 :=
  if num = 0 then some (zero neg)
  else
    let guess : Int := (Nat.log2 num : Int) - Nat.log2 den - 52
    let low := scaleTwo num den (-guess)
    let exp := max (if low.1 < low.2 * Nat.pow 2 52 then guess - 1 else guess) minExp
    let exact := scaleTwo num den (-exp)
    let mant := roundDiv exact.1 exact.2
    let x : Binary64 :=
      if mant = Nat.pow 2 53 then ⟨neg, Nat.pow 2 52, exp + 1⟩ else ⟨neg, mant, exp⟩
    if maxExp < x.exp then none else some x

/-! ## Decimal literals -/

/-- The nearest number of `10^e`, for the exponents a literal is scaled by. -/
def powerOfTen (e : Nat) : Binary64 := (ofRatio? false (Nat.pow 10 e) 1).getD (zero false)

def times? (x y : Binary64) : Option Binary64 :=
  let a := x.ratio
  let b := y.ratio
  ofRatio? x.neg (a.1 * b.1) (a.2 * b.2)

/-- The quotient by a positive number; it is never too large when the divisor
    is at least one. -/
def dividedBy (x y : Binary64) : Binary64 :=
  let a := x.ratio
  let b := y.ratio
  (ofRatio? x.neg (a.1 * b.2) (a.2 * b.1)).getD (zero x.neg)

/-- The largest power of ten a literal is scaled by in one step. -/
def maxPower : Nat := 308

/-- Reads `± digits · 10^e`; `none` if the number is too large.  Two steps
    below the largest power leave nothing of a 64-bit significand. -/
def ofDecimal? (neg : Bool) (digits : Nat) (e : Int) : Option Binary64 := do
  let f ← ofRatio? neg digits 1
  if f.mant = 0 then some f
  else if 0 ≤ e then
    if e ≤ maxPower then f.times? (powerOfTen e.toNat) else none
  else if -maxPower ≤ e then some (f.dividedBy (powerOfTen (-e).toNat))
  else
    let f := f.dividedBy (powerOfTen maxPower)
    if -2 * maxPower ≤ e then some (f.dividedBy (powerOfTen ((-e).toNat - maxPower)))
    else some (zero neg)

/-! ## Shortest decimals -/

/-- The decimal exponent of a positive quotient: the largest `e` with
    `10^e ≤ num / den`. -/
def decimalExp (num den : Nat) : Int :=
  if den ≤ num then (Nat.toDigits 10 (num / den)).length - 1
  else
    let n := (Nat.toDigits 10 (den / num)).length
    if den ≤ num * Nat.pow 10 (n - 1) then 1 - (n : Int) else -(n : Int)

/-- Multiplies a quotient by a power of ten. -/
def scaleTen (num den : Nat) (e : Int) : Nat × Nat :=
  if 0 ≤ e then (num * Nat.pow 10 e.toNat, den) else (num, den * Nat.pow 10 (-e).toNat)

/-- Whether `d · 10^e` rounds to the positive number `x`: it lies between the
    midpoints to the two neighbours, ends included for an even significand. -/
def roundsTo (x : Binary64) (d : Nat) (e : Int) : Bool :=
  let narrow : Bool := x.mant = Nat.pow 2 52 && minExp < x.exp
  let lo := scaleTwo (if narrow then 4 * x.mant - 1 else 4 * x.mant - 2) 1 (x.exp - 2)
  let hi := scaleTwo (4 * x.mant + 2) 1 (x.exp - 2)
  let v := scaleTen d 1 e
  if x.mant % 2 = 0 then
    lo.1 * v.2 ≤ v.1 * lo.2 && v.1 * hi.2 ≤ hi.1 * v.2
  else
    lo.1 * v.2 < v.1 * lo.2 && v.1 * hi.2 < hi.1 * v.2

/-- The decimals with `n` digits next to the positive number `x` that round to
    it, the nearer one first. -/
def candidate? (x : Binary64) (n : Nat) : Option (Nat × Int) :=
  let v := x.ratio
  let e := decimalExp v.1 v.2 - n + 1
  let s := scaleTen v.1 v.2 (-e)
  let near := roundDiv s.1 s.2
  let below := s.1 / s.2
  let far := if near = below then below + 1 else below
  if x.roundsTo near e then some (near, e)
  else if x.roundsTo far e then some (far, e)
  else none

/-- Drops trailing zeros of a decimal. -/
def stripZeros : Nat → Nat → Int → Nat × Int
  | 0, d, e => (d, e)
  | fuel + 1, d, e => if d % 10 = 0 && d ≠ 0 then stripZeros fuel (d / 10) (e + 1) else (d, e)

/-- The decimal `d · 10^e` with fewest digits that rounds to the positive
    number `x`; seventeen digits always suffice. -/
def shortest (x : Binary64) : Nat × Int :=
  match (List.range 17).findSome? (fun n => x.candidate? (n + 1)) with
  | some (d, e) => stripZeros 20 d e
  | none => (x.mant, 0)

/-! ## Text -/

def zeros (n : Nat) : String := String.ofList (List.replicate n '0')

/-- Numbers whose point stands within four zeros of the digits, or among the
    first sixteen places, are written positionally; all others with an `e` and
    the sign of the exponent. -/
def positional (point : Int) : Bool := -5 < point && point ≤ 16

/-- The shortest decimal, always with a point or an exponent. -/
def text (x : Binary64) : String :=
  let sign := if x.neg then "-" else ""
  if x.mant = 0 then sign ++ "0.0"
  else
    let (d, e) := x.shortest
    let digits := Nat.toDigits 10 d
    let count := digits.length
    let point := (count : Int) + e
    let all := String.ofList digits
    sign ++
      if positional point then
        if 0 ≤ e then all ++ zeros e.toNat ++ ".0"
        else if 0 < point then
          String.ofList (digits.take point.toNat) ++ "." ++ String.ofList (digits.drop point.toNat)
        else "0." ++ zeros (-point).toNat ++ all
      else
        let power := (if 0 ≤ point - 1 then "+" else "") ++ toString (point - 1)
        match digits with
        | [c] => c.toString ++ "e" ++ power
        | c :: r => c.toString ++ "." ++ String.ofList r ++ "e" ++ power
        | [] => ""

/-- The number with a fixed count of decimals, rounded to nearest. -/
def fixed (x : Binary64) (places : Nat) : String :=
  let v := x.ratio
  let n := roundDiv (v.1 * Nat.pow 10 places) v.2
  let frac := toString (n % Nat.pow 10 places)
  (if x.neg then "-" else "") ++ toString (n / Nat.pow 10 places) ++ "." ++
    zeros (places - frac.length) ++ frac

end Binary64

end Switchboard
