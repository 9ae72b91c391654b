import SqlSession.Bytes
import SqlSession.Yaml.Character
import SqlSession.Yaml.Scalar
/-!
# Writing YAML

The documents written here are mappings in block style, with two blanks of indentation for each
level.

* `Scalar.ofText` chooses how a text is written: plain if it reads back as the same text, else in
  single quotes; in double quotes if it holds characters that do not show; as a literal block if it
  holds line feeds.
* `Tree.render` writes a document.
-/

namespace SqlSession.Yaml

/-! ## The style of a text -/

/-- Whether two neighbouring characters somewhere satisfy a condition. -/
def anyPair (p : Char → Char → Bool) : List Char → Bool
  | a :: b :: cs => p a b || anyPair p (b :: cs)
  | _ => false

/-- Whether a text holds a mark where a plain scalar must not. -/
def hasMark (cs : List Char) : Bool :=
  (match cs with
    | [] => false
    | c :: rest =>
      "#,[]\x7b\x7d&*!|>'\"%@`".toList.contains c ||
        ((c = '?' || c = ':' || c = '-') && atGap rest)) ||
    cs.take 3 == ['-', '-', '-'] || cs.take 3 == ['.', '.', '.'] ||
    anyPair (fun a b => (a = ':' && isGap b) || (isGap a && b = '#')) cs ||
    cs.getLast? == some ':'

/-- Whether a text starts or ends with a character of a class. -/
def touches (p : Char → Bool) (cs : List Char) : Bool := cs.head?.any p || cs.getLast?.any p

/-- Whether a text can stand in single quotes: all its characters show, and no space touches the end
of a line. -/
def fitsSingleQuotes (cs : List Char) : Bool :=
  cs.all isPrintable && !anyPair (fun a b => (isBreak a && b = ' ') || (a = ' ' && isBreak b)) cs

/-- Whether a text can stand without quotes. -/
def fitsPlain (cs : List Char) : Bool :=
  fitsSingleQuotes cs && !cs.any isBreak && !touches (· = ' ') cs && !hasMark cs

/-- Whether a text can stand as a literal block. -/
def fitsLiteral (cs : List Char) : Bool :=
  cs.all isPrintable && !anyPair (fun a b => a = ' ' && isBreak b) cs && cs.getLast? != some ' '

/-- The style in which a text is written. -/
def styleOf (text : String) : ScalarStyle :=
  let cs := text.toList
  if cs.contains '\n' then if fitsLiteral cs then .literal else .doubleQuoted
  else if isText text && fitsPlain cs then .plain
  else if fitsSingleQuotes cs then .singleQuoted
  else .doubleQuoted

/-- The scalar of a text. -/
def Scalar.ofText (text : String) : Scalar := { style := styleOf text, text }

/-- The scalar of a number or truth value. -/
def Scalar.ofWord (text : String) : Scalar := { style := .plain, text }

/-! ## Scalars -/

/-- A margin of blanks. -/
def margin (indent : Nat) : List Char := List.replicate indent ' '

/-- Puts a margin in front of each line that is not empty; `before` is the character in front of the
text, which tells whether a line starts there. -/
def indentLines (indent : Nat) (before : Char) (cs : List Char) : List Char :=
  ((before :: cs).zip cs).flatMap fun (before, c) =>
    if isBreak before && !isBreak c then margin indent ++ [c] else [c]

/-- A text with each single quote written twice. -/
def doubleQuotes (cs : List Char) : List Char :=
  cs.flatMap fun c => if c = '\'' then [c, c] else [c]

/-- Digits in base sixteen, in capitals. -/
def hexadecimal (width n : Nat) : List Char :=
  let digits := (Nat.toDigits 16 n).map Char.toUpper
  List.replicate (width - digits.length) '0' ++ digits

/-- A character as it stands in double quotes. -/
def escaped (c : Char) : List Char :=
  if isPrintable c && !isBreak c && c ≠ '"' && c ≠ '\\' then [c]
  else
    '\\' ::
      match c with
      | '\x00' => ['0']
      | '\x07' => ['a']
      | '\x08' => ['b']
      | '\t' => ['t']
      | '\n' => ['n']
      | '\x0b' => ['v']
      | '\x0c' => ['f']
      | '\r' => ['r']
      | '\x1b' => ['e']
      | '"' => ['"']
      | '\\' => ['\\']
      | '\u0085' => ['N']
      | '\u2028' => ['L']
      | '\u2029' => ['P']
      | _ =>
        let n := c.toNat
        if n ≤ 0xFF then 'x' :: hexadecimal 2 n
        else if n ≤ 0xFFFF then 'u' :: hexadecimal 4 n
        else 'U' :: hexadecimal 8 n

/-- The signs behind the mark of a literal block: its indentation where the first line does not show
it, and how it ends. -/
def literalSigns (cs : List Char) : List Char :=
  let indentation := if cs.head?.any fun c => c = ' ' || isBreak c then ['2'] else []
  let ending := match cs.reverse with
    | [] => ['-']
    | c :: rest =>
      if !isBreak c then ['-']
      else match rest with
        | [] => ['+']
        | d :: _ => if isBreak d then ['+'] else []
  indentation ++ ending

/-- Writes a scalar; further lines are indented. -/
def Scalar.render (indent : Nat) (s : Scalar) : List Char :=
  let cs := s.text.toList
  match s.style with
  | .plain => cs
  | .singleQuoted =>
    let closing := if cs.getLast?.any isBreak then margin indent else []
    '\'' :: indentLines indent '\'' (doubleQuotes cs) ++ closing ++ ['\'']
  | .literal => '|' :: literalSigns cs ++ '\n' :: indentLines indent '\n' cs
  | _ => '"' :: cs.flatMap escaped ++ ['"']

/-- Ends the line a scalar stands on, unless its text has ended it. -/
def endLine (cs : List Char) : List Char := if cs.getLast?.any isBreak then cs else cs ++ ['\n']

/-- Whether a scalar can be a key on the line of its value. -/
def Scalar.isShortKey (s : Scalar) : Bool :=
  !s.text.toList.any isBreak && (Bytes.utf8 s.text).length ≤ 128

/-! ## Documents -/

/-- A document to be written: a scalar, or a mapping with scalars for keys. -/
inductive Tree where
  | leaf (s : Scalar)
  | branch (fields : List (Scalar × Tree))

namespace Tree

/-- What stands in front of the mark between key and value. -/
def renderKey (indent : Nat) (key : Scalar) : List Char :=
  if key.isShortKey then key.render (indent + 2)
  else '?' :: ' ' :: endLine (key.render (indent + 2)) ++ margin indent

/-- What stands between that mark and the first field of a mapping. -/
def fieldsStart (indent : Nat) (key : Scalar) : List Char :=
  if key.isShortKey then '\n' :: margin (indent + 2) else [' ']

mutual

/-- Writes what stands behind the mark of a key. -/
def renderValue (indent : Nat) (key : Scalar) : Tree → List Char
  | .leaf s => ' ' :: endLine (s.render (indent + 2))
  | .branch fields =>
    if fields.isEmpty then " \x7b\x7d\n".toList
    else fieldsStart indent key ++ renderFields (indent + 2) fields

/-- Writes fields, the first of them behind its margin. -/
def renderFields (indent : Nat) : List (Scalar × Tree) → List Char
  | [] => []
  | (key, value) :: rest =>
    renderKey indent key ++ ':' :: renderValue indent key value ++
      if rest.isEmpty then [] else margin indent ++ renderFields indent rest

end

/-- Writes a document. -/
def render : Tree → String
  | .leaf s => String.ofList (endLine (s.render 0))
  | .branch fields =>
    if fields.isEmpty then "\x7b\x7d\n" else String.ofList (renderFields 0 fields)

mutual

/-- The node that a document is read as. -/
def toNode : Tree → Node
  | .leaf s => .scalar s
  | .branch fields => .mapping (fieldNodes fields)

/-- The pairs that fields are read as. -/
def fieldNodes : List (Scalar × Tree) → List (Node × Node)
  | [] => []
  | (key, value) :: rest => (.scalar key, toNode value) :: fieldNodes rest

end

end Tree

end SqlSession.Yaml
