import SqlSession.Text.Decimal
import SqlSession.Yaml.Node
/-!
# What plain scalars mean

A plain scalar may stand for nothing, a truth value or a number; a quoted one is always a text.

* `readFlag?` and `readNumber?` read a truth value and a whole number.
* `isText` tells whether a plain scalar is read as a text by every reader.
-/

namespace SqlSession.Yaml

open Text

/-- Whether a plain text stands for nothing. -/
def isNull (text : String) : Bool := ["null", "Null", "NULL", "~"].contains text

/-- Reads a truth value. -/
def readFlag? (text : String) : Option Bool :=
  if ["true", "True", "TRUE"].contains text then some true
  else if ["false", "False", "FALSE"].contains text then some false
  else none

/-- Drops a plus sign. -/
def withoutPlus : List Char → List Char
  | '+' :: cs => cs
  | cs => cs

/-- Whether a text is digits with zeros in front, which no number has. -/
def hasLeadingZeros (cs : List Char) : Bool :=
  let digits := match cs with
    | '-' :: more => more
    | other => withoutPlus other
  digits.length > 1 && digits.head? == some '0' && digits.all Char.isDigit

/-- Reads digits behind the mark of their base: `0x`, `0o` or `0b`. -/
def readBased? : List Char → Option Nat
  | '0' :: 'x' :: cs => readDigits 16 cs
  | '0' :: 'o' :: cs => readDigits 8 cs
  | '0' :: 'b' :: cs => readDigits 2 cs
  | _ => none

/-- Reads a whole number below a limit. -/
def readNumber? (limit : Nat) (text : String) : Option Nat :=
  let cs := text.toList
  let n := match readBased? (withoutPlus cs) with
    | some n => some n
    | none => if hasLeadingZeros cs then none else readDigits 10 (withoutPlus cs)
  n.filter (· < limit)

/-- Whether a text is a number with the mark of a base that fits into 128 bits. -/
def isBasedNumber (cs : List Char) : Bool :=
  match cs with
  | '-' :: more => (readBased? more).any (· ≤ Nat.pow 2 127)
  | _ => (readBased? (withoutPlus cs)).any (· < Nat.pow 2 128)

/-- Whether a text is a decimal number of double precision, or stands for one that is not finite. -/
def isDecimalNumber (cs : List Char) : Bool :=
  let unsigned := match cs with
    | '-' :: more => more
    | other => withoutPlus other
  (readDecimal? unsigned).any Decimal.isFinite ||
    [".inf", ".Inf", ".INF"].contains (String.ofList unsigned) ||
    [".nan", ".NaN", ".NAN"].contains (String.ofList cs)

/-- Whether a plain scalar is a text: it is not empty and stands for no other value.  Digits with
zeros in front count as a number here, since other readers take them for one. -/
def isText (text : String) : Bool :=
  let cs := text.toList
  !(text.isEmpty || isNull text || (readFlag? text).isSome || isBasedNumber cs ||
    hasLeadingZeros cs || isDecimalNumber cs)

end SqlSession.Yaml
