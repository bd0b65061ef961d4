/-
  Identifiers.

  Every store hands out identifiers of its own: texts of five groups of
  hexadecimal digits, or one run of them.  A mint counts what it has handed
  out, and mints of different series never hand out the same text.

  The texts stand for identifiers drawn at random elsewhere.  Two things alone
  are relied on: an identifier is none that the same store has handed out
  before, and the wildcard character does not occur in it.

  * `Mint.take` hands out an identifier, `Mint.takeRun` a run of digits;
  * `grouped` and `run` are the two forms of the text.
-/

namespace Switchboard

/-- The hexadecimal digits of a number, zeros in front up to a width. -/
def hexPadded (width n : Nat) : List Char :=
  let digits := Nat.toDigits 16 n
  List.replicate (width - digits.length) '0' ++ digits

/-- Hands out identifiers: the series tells mints apart, `next` counts. -/
structure Mint where
  series : Nat
  next : Nat := 0
  deriving DecidableEq, Repr, Inhabited

namespace Mint

/-- Five groups of digits, of the lengths 8, 4, 4, 4 and 12. -/
def grouped (series n : Nat) : String :=
  String.ofList (hexPadded 8 series ++ "-b05e-4000-a000-".toList ++ hexPadded 12 n)

/-- One run of 32 digits. -/
def run (series n : Nat) : String :=
  String.ofList (hexPadded 16 series ++ hexPadded 16 n)

def advance (m : Mint) : Mint := { m with next := m.next + 1 }

/-- A new identifier. -/
def take (m : Mint) : String × Mint := (grouped m.series m.next, m.advance)

/-- A new run of digits. -/
def takeRun (m : Mint) : String × Mint := (run m.series m.next, m.advance)

end Mint

end Switchboard
