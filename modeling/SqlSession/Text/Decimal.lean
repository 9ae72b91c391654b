import SqlSession.Text.Numeral
/-!
# Decimal fractions

Numbers written as digits with an optional point and an optional power of ten, and whether such a
number rounds to a finite number of double precision.

* `readDecimal?` reads a number.
* `isFinite` tells whether the number stays below the first one that rounds to infinity.
-/

namespace SqlSession.Text

/-- A number: digits, and the power of ten they count for. -/
structure Decimal where
  /-- The decimal digits, without zeros in front; zero has none. -/
  digits : List Char
  power : Int
  deriving DecidableEq, Repr

/-- Reads a power of ten behind its mark. -/
def readPower? : List Char → Option Int
  | '-' :: cs => (readDigits 10 cs).map fun n => -(n : Int)
  | '+' :: cs => (readDigits 10 cs).map Int.ofNat
  | cs => (readDigits 10 cs).map Int.ofNat

/-- Reads a number without sign: digits with at most one point among them, then the power of ten. -/
def readDecimal? (cs : List Char) : Option Decimal :=
  let whole := cs.takeWhile Char.isDigit
  let behind := cs.dropWhile Char.isDigit
  let fraction := match behind with
    | '.' :: more => more.takeWhile Char.isDigit
    | _ => []
  let behind := match behind with
    | '.' :: more => more.dropWhile Char.isDigit
    | other => other
  let power : Option Int := match behind with
    | [] => some 0
    | 'e' :: more => readPower? more
    | 'E' :: more => readPower? more
    | _ => none
  let digits := whole ++ fraction
  if digits.isEmpty then none
  else power.map fun power => ⟨digits.dropWhile (· = '0'), power - fraction.length⟩

/-- The least number that rounds to infinity: half a step above the largest finite number. -/
def overflowBound : Nat := (Nat.pow 2 54 - 1) * Nat.pow 2 970

/-- Whether a number rounds to a finite one.  The count of its digits decides unless it is near the
bound. -/
def Decimal.isFinite (d : Decimal) : Bool :=
  let places : Int := d.digits.length + d.power
  if d.digits.isEmpty || places ≤ 308 then true
  else if places ≥ 310 then false
  else
    let n := (readDigits 10 d.digits).getD 0
    if d.power ≥ 0 then n * Nat.pow 10 d.power.toNat < overflowBound
    else n < overflowBound * Nat.pow 10 (-d.power).toNat

end SqlSession.Text
