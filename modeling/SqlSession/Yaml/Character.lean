/-!
# Characters of YAML

Which characters a document may hold, which end a line, and which are written as they are.
-/

namespace SqlSession.Yaml

/-- Line feed, carriage return, next line, and the line and paragraph separators end a line. -/
def isBreak (c : Char) : Bool :=
  c = '\n' || c = '\r' || c = '\u0085' || c = '\u2028' || c = '\u2029'

/-- A space or a tab. -/
def isWhite (c : Char) : Bool := c = ' ' || c = '\t'

/-- White space or the end of a line. -/
def isGap (c : Char) : Bool := isWhite c || isBreak c

/-- Whether a text goes on with white space or the end of a line, or ends. -/
def atGap : List Char → Bool
  | [] => true
  | c :: _ => isGap c

/-- An ASCII letter or digit, a hyphen or an underscore. -/
def isWordChar (c : Char) : Bool := c.isAlphanum || c = '-' || c = '_'

/-- A character that tags may hold; commas and square brackets only inside angle brackets. -/
def isTagChar (bracketed : Bool) (c : Char) : Bool :=
  isWordChar c || ";/?:@&=+$.!~*'()%".toList.contains c || (bracketed && ",[]".toList.contains c)

/-- Whether a document may hold a character: no control character but tab and the ends of lines. -/
def isAllowed (c : Char) : Bool :=
  let n := c.toNat
  n = 0x09 || n = 0x0A || n = 0x0D || (0x20 ≤ n && n ≤ 0x7E) || n = 0x85 ||
    (0xA0 ≤ n && n ≤ 0xD7FF) || (0xE000 ≤ n && n ≤ 0xFFFD) || 0x10000 ≤ n

/-- Whether a character is written as it is: a line feed, or one that shows on paper. -/
def isPrintable (c : Char) : Bool :=
  let n := c.toNat
  n = 0x0A || (0x20 ≤ n && n ≤ 0x7E) || (0xA0 ≤ n && n ≤ 0xD7FF) ||
    (0xE000 ≤ n && n ≤ 0xFFFD && n ≠ 0xFEFF) || 0x10000 ≤ n

/-- Writes the ends of lines as line feeds; the two separators stay what they are.  A line feed
behind a carriage return ends the same line. -/
def unifyBreaks (cs : List Char) : List Char :=
  (('\n' :: cs).zip cs).filterMap fun (before, c) =>
    if before = '\r' ∧ c = '\n' then none
    else some (if c = '\r' ∨ c = '\u0085' then '\n' else c)

end SqlSession.Yaml
