import SqlSession.Bytes
import SqlSession.Text.Numeral
import SqlSession.Yaml.Character
import SqlSession.Yaml.Token
/-!
# Tags and directives

A tag is a handle and a suffix; a directive in front of a document says what a handle stands for, or
which version of YAML the document has.

* `readUri?` reads a suffix.  A percent sign and two digits are an octet.  The first octet of a
  character says how many follow it, as in UTF-8, but not every character that comes out needs to be
  one that UTF-8 knows.
* `readTag?` and `readDirective?` read a tag and a directive, each behind its first mark.
-/

namespace SqlSession.Yaml

open Text

/-! ## Suffixes -/

/-- How many octets follow the first one of a character. -/
def octetsBehind? (n : Nat) : Option Nat :=
  if n < 0x80 then some 0
  else if n < 0xC0 then none
  else if n < 0xE0 then some 1
  else if n < 0xF0 then some 2
  else if n < 0xF8 then some 3
  else none

/-- How many octets are due behind an octet, when `due` were due before it. -/
def octetsDue? (due n : Nat) : Option Nat :=
  match due with
  | 0 => octetsBehind? n
  | due + 1 => if 0x80 ≤ n ∧ n < 0xC0 then some due else none

/-- Reads octets behind others, which are given and come out the last one first.  A percent sign and
two digits are one octet, any other character is one too. -/
def readOctets? (due : Nat) (octets : Bytes) : List Char → Option Bytes
  | '%' :: a :: b :: cs => do
    let n := 16 * (← digitValue? 16 a) + (← digitValue? 16 b)
    let due ← octetsDue? due n
    readOctets? due (UInt8.ofNat n :: octets) cs
  | c :: cs => if due > 0 ∨ c = '%' then none else readOctets? 0 (UInt8.ofNat c.toNat :: octets) cs
  | [] => if due > 0 then none else some octets

/-- Reads a suffix, which may be empty, and how many characters it takes.  It goes on as long as
characters that tags may hold do; of its octets those in front of the first zero count. -/
def readUri? (bracketed : Bool) (cs : List Char) : Option (Bytes × Nat) :=
  let written := cs.takeWhile (isTagChar bracketed)
  (readOctets? 0 [] written).map fun octets =>
    (octets.reverse.takeWhile (· ≠ 0), written.length)

/-- Reads a suffix that takes at least one character. -/
def readSuffix? (bracketed : Bool) (cs : List Char) : Option (Bytes × Nat) :=
  (readUri? bracketed cs).filter fun r => r.2 > 0

/-! ## Tags -/

/-- Reads a tag: its handle, its suffix, and how many characters it takes.  A single exclamation
mark is a suffix. -/
def readTag? (cs : List Char) : Option (String × Bytes × Nat) :=
  match cs with
  | '<' :: cs =>
    (readSuffix? true cs).bind fun (suffix, n) =>
      if (cs.drop n).head? = some '>' then some ("", suffix, n + 2) else none
  | cs =>
    let word := cs.takeWhile isWordChar
    match cs.dropWhile isWordChar with
    | '!' :: behind =>
      (readSuffix? false behind).map fun (suffix, n) =>
        (String.ofList ('!' :: word ++ ['!']), suffix, word.length + 1 + n)
    | _ =>
      (readUri? false cs).map fun (suffix, n) =>
        if suffix.isEmpty then ("", Bytes.utf8 "!", n) else ("!", suffix, n)

/-! ## Directives -/

/-- Reads a part of a version: at most nine digits. -/
def readVersionPart? (cs : List Char) : Option (Nat × List Char) :=
  let digits := cs.takeWhile Char.isDigit
  if digits.length ≤ 9 then
    (readDigits 10 digits).map fun n => (n, cs.dropWhile Char.isDigit)
  else none

/-- Reads a version; only 1.1 and 1.2 are known. -/
def readVersion? (cs : List Char) : Option (Token × List Char) := do
  let (major, rest) ← readVersionPart? cs
  match rest with
  | '.' :: rest =>
    let (minor, rest) ← readVersionPart? rest
    if major = 1 ∧ (minor = 1 ∨ minor = 2) then return (.versionDirective, rest) else none
  | _ => none

/-- Reads a handle and what it stands for. -/
def readHandle? (cs : List Char) : Option (Token × List Char) :=
  match cs with
  | '!' :: cs =>
    let word := cs.takeWhile isWordChar
    let named := match cs.dropWhile isWordChar with
      | '!' :: rest => some ('!' :: word ++ ['!'], rest)
      | rest => if word.isEmpty then some (['!'], rest) else none
    match named with
    | some (handle, c :: rest) =>
      if isWhite c then
        let rest := rest.dropWhile isWhite
        (readSuffix? true rest).bind fun (stem, n) =>
          let behind := rest.drop n
          if atGap behind then some (.tagDirective (String.ofList handle) stem, behind) else none
      else none
    | _ => none
  | _ => none

/-- Reads a directive, the rest of its line; only a comment may follow. -/
def readDirective? (line : List Char) : Option Token := do
  let name := String.ofList (line.takeWhile isWordChar)
  let behind := line.dropWhile isWordChar
  let value := behind.dropWhile isWhite
  let (token, rest) ←
    if ¬ atGap behind then none
    else if name = "YAML" then readVersion? value
    else if name = "TAG" then readHandle? value
    else none
  match rest.dropWhile isWhite with
  | [] => return token
  | c :: _ => if c = '#' then return token else none

end SqlSession.Yaml
