import SqlSession.Text.Blank
/-!
# Numerals

Decimal numbers as attributes and versions write them: ASCII digits, at least one, with an optional
sign.  Leading zeros are allowed.

* `readDigits` reads digits in a base, `readNatural` takes an optional plus sign, `readInteger`
  either sign.
* `padded` writes a number with leading zeros.
-/

namespace SqlSession.Text

/-- The value of an ASCII digit or letter in the given base. -/
def digitValue? (base : Nat) (c : Char) : Option Nat :=
  let v :=
    if '0' ≤ c ∧ c ≤ '9' then c.toNat - '0'.toNat
    else if 'a' ≤ c ∧ c ≤ 'z' then c.toNat - 'a'.toNat + 10
    else if 'A' ≤ c ∧ c ≤ 'Z' then c.toNat - 'A'.toNat + 10
    else base
  if v < base then some v else none

/-- Continues a number by more digits. -/
def appendDigits (base : Nat) : Nat → List Char → Option Nat
  | n, [] => some n
  | n, c :: cs => (digitValue? base c).bind fun d => appendDigits base (base * n + d) cs

/-- Reads one or more digits of a base. -/
def readDigits (base : Nat) : List Char → Option Nat
  | [] => none
  | c :: cs => appendDigits base 0 (c :: cs)

/-- Reads decimal digits behind an optional plus sign. -/
def readNatural : List Char → Option Nat
  | '+' :: cs => readDigits 10 cs
  | cs => readDigits 10 cs

/-- Reads a number below `limit`. -/
def readBelow (limit : Nat) (cs : List Char) : Option Nat := (readNatural cs).filter (· < limit)

/-- Reads decimal digits behind an optional sign. -/
def readInteger : List Char → Option Int
  | '-' :: cs => (readDigits 10 cs).map fun n => -(n : Int)
  | cs => (readNatural cs).map Int.ofNat

/-- Reads a 16-bit number. -/
def readUInt16 (cs : List Char) : Option UInt16 := (readBelow UInt16.size cs).map UInt16.ofNat

/-- Reads a 32-bit number. -/
def readUInt32 (cs : List Char) : Option UInt32 := (readBelow UInt32.size cs).map UInt32.ofNat

/-- Reads a 64-bit number. -/
def readUInt64 (cs : List Char) : Option UInt64 := (readBelow UInt64.size cs).map UInt64.ofNat

/-- Writes a number in at least `width` places, the sign of a negative one included. -/
def padded (width : Nat) (n : Int) : String :=
  let digits := Nat.toDigits 10 n.natAbs
  let sign := if n < 0 then ['-'] else []
  String.ofList (sign ++ List.replicate (width - sign.length - digits.length) '0' ++ digits)

end SqlSession.Text
