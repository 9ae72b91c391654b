import SqlSession.Yaml.Token.Tag
/-!
# Cutting a document into tokens

The lexer reads a document one character at a time and looks at most a few characters ahead.

* A key is known as one only at the colon behind it.  Where a key could start, the lexer keeps a
  `PendingKey`; the colon puts the key token in front of what came since.  A pending key ends with
  its line.
* The columns of the open block collections are kept, innermost first.  A token to the left of one
  ends it.
* `tokens?` gives the tokens of a document, if it can be cut.
-/

namespace SqlSession.Yaml

/-- A place where a key may have started. -/
structure PendingKey where
  /-- How many tokens there were. -/
  index : Nat
  /-- Whether nothing but a key can start there. -/
  required : Bool
  line : Nat
  column : Nat
  offset : Nat

/-- White space inside a scalar, known to belong to it only when more text follows. -/
inductive Gap where
  /-- Spaces and tabs, the last one first. -/
  | white (cs : List Char)
  /-- The end of a line, unless it was escaped, and the ends of the empty lines behind it, the last
  one first. -/
  | lines (first : Option Char) (more : List Char)

namespace Gap

/-- No white space. -/
def empty : Gap := .white []

/-- Whether there is white space. -/
def isEmpty : Gap → Bool
  | .white [] => true
  | _ => false

/-- Whether a line ended. -/
def hasBreak : Gap → Bool
  | .white _ => false
  | .lines _ _ => true

/-- More white space; at the start of a line it is indentation. -/
def addWhite (c : Char) : Gap → Gap
  | .white cs => .white (c :: cs)
  | .lines first more => .lines first more

/-- The end of a line; white space in front of it is dropped. -/
def addBreak (c : Char) : Gap → Gap
  | .white _ => .lines (some c) []
  | .lines first more => .lines first (c :: more)

/-- What the white space stands for, the last character first: a single line feed is a space, and of
several the first is dropped. -/
def joined : Gap → List Char
  | .white cs => cs
  | .lines none more => more
  | .lines (some c) more => if c = '\n' then if more.isEmpty then [' '] else more else more ++ [c]

end Gap

/-- What happens to the ends of lines behind a block scalar. -/
inductive Chomp where
  | clip
  | strip
  | keep

/-- A literal or folded scalar being read. -/
structure BlockScalar where
  folded : Bool
  chomp : Chomp
  /-- The column of its lines; zero until it is known. -/
  indent : Nat
  /-- The widest of the empty lines in front. -/
  widest : Nat := 0
  /-- The text so far, the last character first. -/
  text : List Char := []
  /-- The end of the last line. -/
  lastBreak : Option Char := none
  /-- The ends of the empty lines behind it, the last one first. -/
  emptyLines : List Char := []
  /-- Whether the last line started with white space. -/
  indented : Bool := false
  /-- Whether a line is being read. -/
  inLine : Bool := false

namespace BlockScalar

/-- Starts a line.  Folding turns a single end of line between lines that start with text into a
space. -/
def startLine (b : BlockScalar) (c : Char) : BlockScalar :=
  let joined :=
    if b.folded ∧ b.lastBreak = some '\n' ∧ ¬ b.indented ∧ ¬ isWhite c then
      if b.emptyLines.isEmpty then [' '] else []
    else b.lastBreak.toList
  { b with
    text := c :: (b.emptyLines ++ joined ++ b.text)
    lastBreak := none
    emptyLines := []
    indented := isWhite c
    inLine := true }

/-- The text of the scalar when no line follows. -/
def finished (b : BlockScalar) : String :=
  let ending := match b.chomp with
    | .strip => []
    | .clip => b.lastBreak.toList
    | .keep => b.emptyLines ++ b.lastBreak.toList
  String.ofList (ending ++ b.text).reverse

/-- The style of the scalar. -/
def style (b : BlockScalar) : ScalarStyle := if b.folded then .folded else .literal

end BlockScalar

/-- What the lexer is in the middle of. -/
inductive Mode where
  | between
  | comment
  | plain (text : List Char) (gap : Gap)
  | quoted (double : Bool) (text : List Char) (gap : Gap)
  | blockHeader (b : BlockScalar) (inComment : Bool)
  | blockBody (b : BlockScalar)

/-- The state of the lexer. -/
structure Lexer where
  line : Nat := 0
  column : Nat := 0
  /-- How many bytes the UTF-8 form of what was read has. -/
  offset : Nat := 0
  /-- How many characters are used up already. -/
  skip : Nat := 0
  mode : Mode := .between
  /-- The columns of the open block collections, innermost first. -/
  indents : List Nat := []
  /-- The key that may have started in the innermost flow collection, or outside of all. -/
  pending : Option PendingKey := none
  /-- The same for the collections around it. -/
  outer : List (Option PendingKey) := []
  /-- Whether a key may start here. -/
  keyAllowed : Bool := true
  /-- The tokens so far, the last one first. -/
  tokens : List Token := []
  /-- How many tokens there are. -/
  count : Nat := 0

namespace Lexer

/-! ## Position, tokens and keys -/

/-- Moves past a character. -/
def advance (l : Lexer) (c : Char) : Lexer :=
  let offset := l.offset + c.utf8Size
  if isBreak c then { l with line := l.line + 1, column := 0, offset := offset }
  else { l with column := l.column + 1, offset := offset }

/-- Whether a flow collection is open. -/
def inFlow (l : Lexer) : Bool := !l.outer.isEmpty

/-- The first column to the right of the innermost block collection. -/
def minColumn (l : Lexer) : Nat :=
  match l.indents with
  | [] => 0
  | n :: _ => n + 1

/-- Appends a token. -/
def emit (l : Lexer) (t : Token) : Lexer :=
  { l with tokens := t :: l.tokens, count := l.count + 1 }

/-- Ends the block collections that `leaves` says. -/
def closeBlocks (leaves : Nat → Bool) (l : Lexer) : Lexer :=
  let ended := l.indents.takeWhile leaves
  { l with
    indents := l.indents.dropWhile leaves
    tokens := ended.map (fun _ => .blockEnd) ++ l.tokens
    count := l.count + ended.length }

/-- Ends the block collections to the right of the column. -/
def closeToColumn (l : Lexer) : Lexer :=
  if l.inFlow then l else l.closeBlocks fun n => l.column < n

/-- Ends all block collections. -/
def closeAll (l : Lexer) : Lexer := l.closeBlocks fun _ => true

/-- Gives a pending key up, unless only a key could start there. -/
def giveUp : Option PendingKey → Option Unit
  | some k => if k.required then none else some ()
  | none => some ()

/-- Gives the innermost pending key up. -/
def dropKey (l : Lexer) : Option Lexer := (giveUp l.pending).map fun _ => { l with pending := none }

/-- Whether a pending key is too far behind: on an earlier line, or more than 1024 bytes. -/
def isStale (l : Lexer) (k : PendingKey) : Bool := k.line < l.line || k.offset + 1024 < l.offset

/-- A pending key unless it is too far behind. -/
def fresh (l : Lexer) (key : Option PendingKey) : Option (Option PendingKey) :=
  match key with
  | some k => if l.isStale k then (giveUp key).map fun _ => none else some key
  | none => some none

/-- Gives up the innermost pending key if it is too far behind.  Those around it are looked at when
they are the innermost again: nothing is read from them before. -/
def dropStale (l : Lexer) : Option Lexer :=
  (l.fresh l.pending).map fun pending => { l with pending := pending }

/-- Notes that a key may start here. -/
def noteKey (l : Lexer) : Option Lexer :=
  if l.keyAllowed then
    l.dropKey.map fun l =>
      { l with
        pending := some
          { index := l.count
            required := !l.inFlow && l.indents.head? = some l.column
            line := l.line
            column := l.column
            offset := l.offset } }
  else some l

/-- Whether a block collection at a column has to be opened. -/
def opensBlock (l : Lexer) (column : Nat) : Bool := !l.inFlow && l.minColumn ≤ column

/-- Opens a block collection at the column, unless it is open. -/
def openBlock (l : Lexer) (start : Token) : Lexer :=
  if l.opensBlock l.column then { l.emit start with indents := l.column :: l.indents } else l

/-- Puts tokens behind the first `index` tokens. -/
def insertAt (l : Lexer) (index : Nat) (ts : List Token) : Lexer :=
  let since := l.count - index
  { l with
    tokens := l.tokens.take since ++ ts.reverse ++ l.tokens.drop since
    count := l.count + ts.length }

/-! ## Starts of tokens -/

/-- Whether three equal marks stand here alone. -/
def isMarker (mark c : Char) (rest : List Char) : Bool :=
  match rest with
  | c1 :: c2 :: rest => c = mark && c1 = mark && c2 = mark && atGap rest
  | _ => false

/-- Whether the start or end of a document stands here. -/
def atDocumentMarker (l : Lexer) (c : Char) (rest : List Char) : Bool :=
  l.column = 0 && (isMarker '-' c rest || isMarker '.' c rest)

/-- The start or end of a document. -/
def documentMarker (l : Lexer) (t : Token) : Option Lexer :=
  l.closeAll.dropKey.map fun l => { l.emit t with keyAllowed := false, skip := 2 }

/-- A directive: the rest of its line, and the end of the line. -/
def directive (l : Lexer) (rest : List Char) : Option Lexer := do
  let l ← l.closeAll.dropKey
  let line := rest.takeWhile fun c => !isBreak c
  let token ← readDirective? line
  return { l.emit token with keyAllowed := false, skip := line.length + 1 }

/-- An opening bracket. -/
def flowStart (l : Lexer) (t : Token) : Option Lexer :=
  l.noteKey.map fun l =>
    { l.emit t with pending := none, outer := l.pending :: l.outer, keyAllowed := true }

/-- A closing bracket. -/
def flowEnd (l : Lexer) (t : Token) : Option Lexer :=
  l.dropKey.map fun l =>
    match l.outer with
    | [] => { l.emit t with keyAllowed := false }
    | key :: outer => { l.emit t with pending := key, outer := outer, keyAllowed := false }

/-- A comma. -/
def flowEntry (l : Lexer) : Option Lexer :=
  l.dropKey.map fun l => { l.emit .flowEntry with keyAllowed := true }

/-- A hyphen. -/
def blockEntry (l : Lexer) : Option Lexer :=
  if l.inFlow ∨ l.keyAllowed then
    (l.openBlock .blockSequenceStart).dropKey.map fun l =>
      { l.emit .blockEntry with keyAllowed := true }
  else none

/-- A question mark. -/
def explicitKey (l : Lexer) : Option Lexer :=
  if l.inFlow ∨ l.keyAllowed then
    (l.openBlock .blockMappingStart).dropKey.map fun l =>
      { l.emit .key with keyAllowed := !l.inFlow }
  else none

/-- A colon: what came since the pending key is a key. -/
def valueMark (l : Lexer) : Option Lexer :=
  match l.pending with
  | some k =>
    let opens := l.opensBlock k.column
    let l := l.insertAt k.index (if opens then [.blockMappingStart, .key] else [.key])
    let l := { l with indents := if opens then k.column :: l.indents else l.indents }
    some { l.emit .value with pending := none, keyAllowed := false }
  | none =>
    if l.inFlow ∨ l.keyAllowed then
      some { (l.openBlock .blockMappingStart).emit .value with keyAllowed := !l.inFlow }
    else none

/-- An anchor or alias: its name. -/
def named (l : Lexer) (token : String → Token) (rest : List Char) : Option Lexer :=
  let name := rest.takeWhile isWordChar
  let behind := rest.dropWhile isWordChar
  if name = [] then none
  else if atGap behind ∨ "?:,]\x7d%@`".toList.contains (behind.headD ' ') then
    l.noteKey.map fun l =>
      { l.emit (token (String.ofList name)) with keyAllowed := false, skip := name.length }
  else none

/-- A tag. -/
def tagMark (l : Lexer) (rest : List Char) : Option Lexer := do
  let (handle, suffix, used) ← readTag? rest
  let behind := rest.drop used
  if atGap behind ∨ (l.inFlow ∧ behind.head? = some ',') then
    let l ← l.noteKey
    return { l.emit (.tag handle suffix) with keyAllowed := false, skip := used }
  else none

/-- Reads the signs behind the mark of a block scalar: how it ends, its indentation, the characters
used. -/
def readBlockSigns (rest : List Char) : Option (Chomp × Nat × Nat) :=
  let chomp (c : Char) : Option Chomp :=
    if c = '+' then some .keep else if c = '-' then some .strip else none
  let digit (c : Char) : Option Nat := Text.digitValue? 10 c
  match rest with
  | [] => some (.clip, 0, 0)
  | a :: more =>
    match chomp a, digit a with
    | some ch, _ =>
      match more.head?.bind digit with
      | some 0 => none
      | some d => some (ch, d, 2)
      | none => some (ch, 0, 1)
    | none, some 0 => none
    | none, some d =>
      match more.head?.bind chomp with
      | some ch => some (ch, d, 2)
      | none => some (.clip, d, 1)
    | none, none => some (.clip, 0, 0)

/-- The mark of a literal or folded scalar. -/
def blockScalar (l : Lexer) (folded : Bool) (rest : List Char) : Option Lexer := do
  let (chomp, increment, used) ← readBlockSigns rest
  let l ← l.dropKey
  let indent := if increment = 0 then 0 else l.indents.headD 0 + increment
  return { l with
    keyAllowed := true
    skip := used
    mode := .blockHeader { folded, chomp, indent } false }

/-- The quote of a quoted scalar. -/
def quotedScalar (l : Lexer) (double : Bool) : Option Lexer :=
  l.noteKey.map fun l => { l with keyAllowed := false, mode := .quoted double [] .empty }

/-- The first character of a plain scalar. -/
def plainScalar (l : Lexer) (c : Char) : Option Lexer :=
  l.noteKey.map fun l => { l with keyAllowed := false, mode := .plain [c] .empty }

/-- Whether a plain scalar can start with a character.  Most marks cannot start one; a hyphen, and
outside of flow collections a question mark or colon, can if text follows. -/
def startsPlain (l : Lexer) (c : Char) (rest : List Char) : Bool :=
  if c = '-' then !(rest.headD 'x' |> isWhite)
  else if c = '?' ∨ c = ':' then !l.inFlow && !atGap rest
  else !isGap c && !",[]\x7b\x7d#&*!|>'\"%@`".toList.contains c

/-- In a flow collection a colon inside a plain scalar must not touch one of these. -/
def isFlowMark (c : Char) : Bool := ",[]\x7b\x7d".toList.contains c

/-- The token that starts with a character. -/
def start (l : Lexer) (c : Char) (rest : List Char) : Option Lexer := do
  let l ← l.dropStale
  let l := l.closeToColumn
  if l.column = 0 ∧ c = '%' then l.directive rest
  else if l.column = 0 ∧ isMarker '-' c rest then l.documentMarker .documentStart
  else if l.column = 0 ∧ isMarker '.' c rest then l.documentMarker .documentEnd
  else match c with
    | '[' => l.flowStart .flowSequenceStart
    | '\x7b' => l.flowStart .flowMappingStart
    | ']' => l.flowEnd .flowSequenceEnd
    | '\x7d' => l.flowEnd .flowMappingEnd
    | ',' => l.flowEntry
    | '*' => l.named .reference rest
    | '&' => l.named .anchor rest
    | '!' => l.tagMark rest
    | '\'' => l.quotedScalar false
    | '"' => l.quotedScalar true
    | _ =>
      if c = '-' ∧ atGap rest then l.blockEntry
      else if c = '?' ∧ (l.inFlow ∨ atGap rest) then l.explicitKey
      else if c = ':' ∧ (l.inFlow ∨ atGap rest) then l.valueMark
      else if c = '|' ∧ ¬ l.inFlow then l.blockScalar false rest
      else if c = '>' ∧ ¬ l.inFlow then l.blockScalar true rest
      else if l.startsPlain c rest then l.plainScalar c
      else none

/-! ## One character -/

/-- A character between tokens.  Tabs are white space only where no key may start. -/
def between (l : Lexer) (c : Char) (rest : List Char) : Option Lexer :=
  if l.column = 0 ∧ c = '\ufeff' then some l
  else if c = ' ' ∨ (c = '\t' ∧ (l.inFlow ∨ ¬ l.keyAllowed)) then some l
  else if c = '#' then some { l with mode := .comment }
  else if isBreak c then some (if l.inFlow then l else { l with keyAllowed := true })
  else l.start c rest

/-- Ends a scalar. -/
def endScalar (l : Lexer) (style : ScalarStyle) (text : String) : Lexer :=
  { l.emit (.scalar style text) with mode := .between }

/-- Ends a plain scalar; a key may start behind it if it ended with a line. -/
def endPlain (l : Lexer) (text : List Char) (gap : Gap) : Lexer :=
  let l := l.endScalar .plain (String.ofList text.reverse)
  { l with keyAllowed := l.keyAllowed || gap.hasBreak }

/-- Whether a plain scalar ends before a character. -/
def endsPlain (l : Lexer) (gap : Gap) (c : Char) (rest : List Char) : Bool :=
  (!gap.isEmpty &&
    ((gap.hasBreak && !l.inFlow && l.column < l.minColumn) || l.atDocumentMarker c rest ||
      c = '#')) ||
  (c = ':' && atGap rest) || (l.inFlow && isFlowMark c)

/-- A character of a plain scalar, or the first one behind it. -/
def plain (l : Lexer) (text : List Char) (gap : Gap) (c : Char) (rest : List Char) : Option Lexer :=
  if isWhite c then
    if gap.hasBreak ∧ c = '\t' ∧ l.column < l.minColumn then none
    else some { l with mode := .plain text (gap.addWhite c) }
  else if isBreak c then some { l with mode := .plain text (gap.addBreak c) }
  else if l.endsPlain gap c rest then (l.endPlain text gap).between c rest
  else if l.inFlow ∧ c = ':' ∧ (rest.head?.any fun c => isFlowMark c || c = '?') then none
  else some { l with mode := .plain (c :: (gap.joined ++ text)) .empty }

/-- What an escape stands for: one character, and how many are used behind the backslash. -/
def escape (rest : List Char) : Option (Char × Nat) :=
  let code (width : Nat) (behind : List Char) : Option (Char × Nat) :=
    let digits := behind.take width
    if digits.length < width then none
    else (Text.readDigits 16 digits).bind fun n =>
      if h : n.isValidChar then some (Char.ofNatAux n h, width + 1) else none
  match rest with
  | [] => none
  | c :: digits =>
    match c with
    | '0' => some ('\x00', 1)
    | 'a' => some ('\x07', 1)
    | 'b' => some ('\x08', 1)
    | 't' => some ('\t', 1)
    | '\t' => some ('\t', 1)
    | 'n' => some ('\n', 1)
    | 'v' => some ('\x0b', 1)
    | 'f' => some ('\x0c', 1)
    | 'r' => some ('\r', 1)
    | 'e' => some ('\x1b', 1)
    | ' ' => some (' ', 1)
    | '"' => some ('"', 1)
    | '/' => some ('/', 1)
    | '\\' => some ('\\', 1)
    | 'N' => some ('\u0085', 1)
    | '_' => some ('\u00a0', 1)
    | 'L' => some ('\u2028', 1)
    | 'P' => some ('\u2029', 1)
    | 'x' => code 2 digits
    | 'u' => code 4 digits
    | 'U' => code 8 digits
    | _ => none

/-- A character of a quoted scalar. -/
def quoted (l : Lexer) (double : Bool) (text : List Char) (gap : Gap) (c : Char)
    (rest : List Char) : Option Lexer :=
  if isWhite c then some { l with mode := .quoted double text (gap.addWhite c) }
  else if isBreak c then some { l with mode := .quoted double text (gap.addBreak c) }
  else if l.atDocumentMarker c rest then none
  else
    let text := gap.joined ++ text
    let more (c : Char) (used : Nat) : Lexer :=
      { l with mode := .quoted double (c :: text) .empty, skip := used }
    if double then
      if c = '"' then some (l.endScalar .doubleQuoted (String.ofList text.reverse))
      else if c = '\\' then
        if rest.head?.any isBreak then
          some { l with mode := .quoted double text (.lines none []), skip := 1 }
        else (escape rest).map fun (c, used) => more c used
      else some (more c 0)
    else if c = '\'' then
      if rest.head? = some '\'' then some (more c 1)
      else some (l.endScalar .singleQuoted (String.ofList text.reverse))
    else some (more c 0)

/-- A character of the line that starts a block scalar. -/
def blockHeader (l : Lexer) (b : BlockScalar) (inComment : Bool) (c : Char) : Option Lexer :=
  if isBreak c then some { l with mode := .blockBody b }
  else if inComment ∨ isWhite c then some l
  else if c = '#' then some { l with mode := .blockHeader b true }
  else none

/-- A character of a block scalar, or the first one behind it. -/
def blockBody (l : Lexer) (b : BlockScalar) (c : Char) (rest : List Char) : Option Lexer :=
  if b.inLine then
    if isBreak c then
      some { l with mode := .blockBody { b with inLine := false, lastBreak := some c } }
    else some { l with mode := .blockBody { b with text := c :: b.text } }
  else
    let b := { b with widest := max b.widest l.column }
    let indenting : Bool := b.indent = 0 || l.column < b.indent
    if indenting ∧ c = ' ' then some { l with mode := .blockBody b }
    else if indenting ∧ c = '\t' then none
    else if isBreak c then
      some { l with mode := .blockBody { b with emptyLines := c :: b.emptyLines } }
    else
      let b :=
        { b with
          indent := if b.indent = 0 then max (max b.widest l.minColumn) 1 else b.indent }
      if l.column = b.indent then some { l with mode := .blockBody (b.startLine c) }
      else (l.endScalar b.style b.finished).between c rest

/-- One character, with the text behind it. -/
def step (l : Lexer) (c : Char) (rest : List Char) : Option Lexer :=
  if l.skip > 0 then some { l with skip := l.skip - 1 }
  else match l.mode with
    | .between => l.between c rest
    | .comment => if isBreak c then { l with mode := .between }.between c rest else some l
    | .plain text gap => l.plain text gap c rest
    | .quoted double text gap => l.quoted double text gap c rest
    | .blockHeader b inComment => l.blockHeader b inComment c
    | .blockBody b => l.blockBody b c rest

/-! ## A whole document -/

/-- Reads all characters. -/
def run (l : Lexer) : List Char → Option Lexer
  | [] => some l
  | c :: rest => (l.step c rest).bind fun l => (l.advance c).run rest

/-- Ends the scalar in hand at the end of the text; a quoted one cannot end there. -/
def endOfText (l : Lexer) : Option Lexer :=
  match l.mode with
  | .between => some l
  | .comment => some l
  | .plain text gap => some (l.endPlain text gap)
  | .quoted _ _ _ => none
  | .blockHeader b _ => some (l.endScalar b.style b.finished)
  | .blockBody b => some (l.endScalar b.style b.finished)

/-- Ends the document: all collections end, and no key may be missing. -/
def finish (l : Lexer) : Option (List Token) := do
  let l ← l.endOfText
  let l ← l.dropStale
  let l ← l.closeAll.dropKey
  return l.tokens.reverse

end Lexer

/-- The tokens of a document. -/
def tokens? (text : String) : Option (List Token) :=
  if text.toList.all isAllowed then
    (({} : Lexer).run (unifyBreaks text.toList)).bind Lexer.finish
  else none

end SqlSession.Yaml
