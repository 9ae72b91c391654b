import SqlSession.Text.Numeral
import SqlSession.Wire.Error
/-!
# Protocol versions

A version is three signed 16-bit numbers, compared from the left.  The client speaks two of them.

* `Version.parse` reads `major.minor.maintenance`, trimmed; each part is a number from 0 to 32767,
  and a sign is allowed where it does not make the part negative.
* `Version.text` writes a version in that form.
-/

namespace SqlSession

/-- A protocol version. -/
structure Version where
  major : Int16
  minor : Int16
  maintenance : Int16
  deriving DecidableEq, Repr, Inhabited

namespace Version

/-- The first version the client speaks. -/
def v2_1_0 : Version := ⟨2, 1, 0⟩

/-- The version that added the lazy flag. -/
def v2_1_5 : Version := ⟨2, 1, 5⟩

/-- The versions the client speaks. -/
def supported : List Version := [v2_1_0, v2_1_5]

/-- The version asked for unless another is configured. -/
def current : Version := v2_1_5

/-- Whether the client speaks a version. -/
def isSupported (v : Version) : Bool := supported.contains v

/-- Component-wise order, the major number first. -/
def compare (a b : Version) : Ordering :=
  (Ord.compare a.major.toInt b.major.toInt).then
    ((Ord.compare a.minor.toInt b.minor.toInt).then
      (Ord.compare a.maintenance.toInt b.maintenance.toInt))

/-- Whether `a` is not later than `b`. -/
def le (a b : Version) : Bool := (compare a b).isLE

/-- The later of two versions. -/
def latest (a b : Version) : Version := if le a b then b else a

/-- Versions in ascending order. -/
def ascending (vs : List Version) : List Version := vs.mergeSort le

/-- Writes `major.minor.maintenance`. -/
def text (v : Version) : String :=
  toString v.major.toInt ++ "." ++ toString v.minor.toInt ++ "." ++ toString v.maintenance.toInt

/-- Reads one part: a number from 0 to 32767. -/
def part? (cs : List Char) : Option Int16 :=
  (Text.readInteger cs).bind fun n => if 0 ≤ n ∧ n < 0x8000 then some (Int16.ofInt n) else none

/-- Reads `major.minor.maintenance`; the error carries the text as given. -/
def parse (s : String) : Except WireError Version :=
  match Text.fields '.' (Text.trim s.toList) with
  | [a, b, c] =>
    match part? a, part? b, part? c with
    | some major, some minor, some maintenance => .ok ⟨major, minor, maintenance⟩
    | _, _, _ => .error (.invalidVersion s)
  | _ => .error (.invalidVersion s)

end Version

end SqlSession
