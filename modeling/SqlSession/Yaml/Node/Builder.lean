import SqlSession.Yaml.Node
import SqlSession.Yaml.Token.Lexer
/-!
# Building the node of a document

The tokens of a document are read one by one; the collections that are open are kept as frames,
innermost first.  A node that is complete goes to the innermost frame.

* A key without a value, a value without a key and an entry without a node stand for a blank scalar.
* An anchor marks its node with the number of names that were in use before it, and an alias has the
  mark of the last anchor with its name.  If two nodes get the same mark, aliases stand for the one
  that starts later.
* `Document.ofText?` reads a text: it gives `none` inside for a text without a document, and `none`
  for a text that is not well formed or holds several documents.
-/

namespace SqlSession.Yaml

/-- What a mapping waits for. -/
inductive Slot where
  /-- A pair may start. -/
  | ready
  /-- In a flow mapping, a comma is due. -/
  | done
  /-- The key of a pair. -/
  | key
  /-- The mark between key and value. -/
  | mark (k : Node)
  /-- The value of a pair. -/
  | value (k : Node)

/-- The kinds of sequences. -/
inductive SequenceKind where
  | block
  /-- A sequence at the column of the mapping that holds it; it has no start and end of its own. -/
  | compact
  | flow
  deriving DecidableEq

/-- A part of the document that is not complete. -/
inductive Frame where
  /-- An anchor, a tag or both; their node follows. -/
  | properties (anchored : Bool) (tag : Option Bytes)
  /-- A sequence, its last item first, and whether an item is due. -/
  | sequence (kind : SequenceKind) (items : List Node) (due : Bool)
  /-- A mapping, its last pair first. -/
  | mapping (flow : Bool) (pairs : List (Node × Node)) (slot : Slot)
  /-- A mapping with one pair, written in a flow sequence without braces. -/
  | pair (slot : Slot)

/-- The state of the builder. -/
structure Builder where
  /-- The open parts, innermost first. -/
  frames : List Frame := []
  /-- The node of the document. -/
  root : Option Node := none
  /-- Whether the end of the document was marked. -/
  ended : Bool := false
  /-- The anchors so far, the last one first: each has its name and its mark. -/
  names : List (String × Nat) := []
  /-- How many names are in use. -/
  used : Nat := 0
  /-- The marked nodes, the last one first; one that is not given is still open. -/
  marked : List (Nat × Option Node) := []
  /-- The tag handles that directives define. -/
  handles : List (String × Bytes) := []
  /-- The parts of the nodes that are complete. -/
  parts : Nat := 0

namespace Builder

/-! ## Nodes -/

/-- Gives the innermost open mark its node. -/
def settleMark (n : Node) : List (Nat × Option Node) → List (Nat × Option Node)
  | [] => []
  | (mark, none) :: rest => (mark, some n) :: rest
  | (mark, some n') :: rest => (mark, some n') :: settleMark n rest

/-- The builder with other open parts. -/
def inside (b : Builder) (frames : List Frame) : Builder := { b with frames := frames }

/-- Adds a blank item where one is due. -/
def withBlank (due : Bool) (items : List Node) : List Node := if due then .blank :: items else items

/-- Puts a tag on a scalar; collections have no use for one. -/
def tagged (tag : Option Bytes) : Node → Node
  | .scalar s => .scalar { s with tag := tag }
  | n => n

/-- Counts the parts of a node. -/
def count (b : Builder) (n : Node) : Builder := { b with parts := b.parts + n.parts }

/-- Hands a complete node to frames without properties in front. -/
def giveFrame (b : Builder) (n : Node) (frames : List Frame) : Option Builder :=
  let b := b.count n
  match frames with
  | [] => if b.root.isNone ∧ ¬ b.ended then some { b with frames := [], root := some n } else none
  | .sequence kind items true :: frames =>
    some (b.inside (.sequence kind (n :: items) false :: frames))
  | .mapping flow pairs .key :: frames =>
    some (b.inside (.mapping flow pairs (.mark n) :: frames))
  | .mapping flow pairs (.value k) :: frames =>
    let slot := if flow then .done else .ready
    some (b.inside (.mapping flow ((k, n) :: pairs) slot :: frames))
  | .mapping true pairs .ready :: frames =>
    some ((b.count .blank).inside (.mapping true ((n, .blank) :: pairs) .done :: frames))
  | .pair .key :: frames => some (b.inside (.pair (.mark n) :: frames))
  | .pair (.value k) :: .sequence .flow items true :: frames =>
    let pair := .mapping [(k, n)]
    some ((b.count pair).inside (.sequence .flow (pair :: items) false :: frames))
  | _ => none

/-- Hands a complete node to the innermost frames. -/
def give (b : Builder) (n : Node) : Option Builder :=
  match b.frames with
  | .properties anchored tag :: frames =>
    let n := tagged tag n
    giveFrame { b with marked := if anchored then settleMark n b.marked else b.marked } n frames
  | frames => giveFrame b n frames

/-- Whether the innermost frame waits for a node. -/
def expectsNode (b : Builder) : Bool :=
  match b.frames with
  | [] => b.root.isNone && !b.ended
  | .properties _ _ :: _ => true
  | .sequence _ _ due :: _ => due
  | .mapping _ _ .key :: _ => true
  | .mapping _ _ (.value _) :: _ => true
  | .mapping flow _ .ready :: _ => flow
  | .pair .key :: _ => true
  | .pair (.value _) :: _ => true
  | _ => false

/-- Opens a frame where a node is due. -/
def push (b : Builder) (f : Frame) : Option Builder :=
  if b.expectsNode then some { b with frames := f :: b.frames } else none

/-- Hands a blank scalar to an anchor or tag that no node follows. -/
def settleProperties (b : Builder) : Option Builder :=
  match b.frames with
  | .properties _ _ :: _ => b.give .blank
  | _ => some b

/-- Completes a sequence without an end of its own. -/
def settleCompact (b : Builder) : Option Builder :=
  match b.frames with
  | .sequence .compact items due :: frames =>
    (b.inside frames).give
      (.sequence (withBlank due items).reverse)
  | _ => some b

/-- Gives a blank value to a key that waits for one. -/
def settleKey (b : Builder) : Option Builder :=
  match b.frames with
  | .mapping flow pairs (.mark k) :: frames =>
    (b.inside (.mapping flow pairs (.value k) :: frames)).give .blank
  | .pair (.mark k) :: frames => (b.inside (.pair (.value k) :: frames)).give .blank
  | _ => some b

/-- Completes a pair whose value is not written. -/
def settlePair (b : Builder) : Option Builder :=
  match b.frames with
  | .mapping _ _ .key :: _ => (b.give .blank).bind settleKey
  | .mapping _ _ (.mark _) :: _ => b.settleKey
  | .mapping _ _ (.value _) :: _ => b.give .blank
  | .pair .key :: _ => (b.give .blank).bind settleKey
  | .pair (.mark _) :: _ => b.settleKey
  | .pair (.value _) :: _ => b.give .blank
  | _ => some b

/-- Completes what the next mark shows to be complete. -/
def settle (b : Builder) : Option Builder := b.settleProperties.bind settleCompact

/-! ## Tokens -/

/-- Resolves a tag. -/
def resolveTag (b : Builder) (handle : String) (suffix : Bytes) : Option Bytes :=
  match b.handles.lookup handle with
  | some stem => some (stem ++ suffix)
  | none =>
    if handle = "" then some suffix
    else if handle = "!" then some (Bytes.utf8 "!" ++ suffix)
    else if handle = "!!" then some (Bytes.utf8 "tag:yaml.org,2002:" ++ suffix)
    else none

/-- An anchor in front of a node. -/
def anchor (b : Builder) (name : String) : Option Builder :=
  let mark := b.used
  let b' :=
    { b with
      names := (name, mark) :: b.names
      used := if (b.names.lookup name).isSome then b.used else b.used + 1
      marked := (mark, none) :: b.marked }
  match b.frames with
  | .properties false tag :: frames => some (b'.inside (.properties true tag :: frames))
  | .properties true _ :: _ => none
  | _ => b'.push (.properties true none)

/-- A tag in front of a node. -/
def tag (b : Builder) (handle : String) (suffix : Bytes) : Option Builder := do
  let tag ← b.resolveTag handle suffix
  match b.frames with
  | .properties anchored none :: frames =>
    return b.inside (.properties anchored (some tag) :: frames)
  | .properties _ (some _) :: _ => none
  | _ => b.push (.properties false (some tag))

/-- A scalar; a single exclamation mark in front of it is no tag. -/
def scalar (b : Builder) (s : Scalar) : Option Builder :=
  match b.frames with
  | .properties anchored tag :: frames =>
    let tag := tag.filter (· ≠ Bytes.utf8 "!")
    (b.inside (.properties anchored tag :: frames)).give (.scalar s)
  | _ => if b.expectsNode then b.give (.scalar s) else none

/-- An alias. -/
def reference (b : Builder) (name : String) : Option Builder :=
  match b.frames, b.names.lookup name with
  | .properties _ _ :: _, _ => none
  | _, none => none
  | _, some mark => if b.expectsNode then b.give (.reference mark) else none

/-- A hyphen: an item of a block sequence, or the first one of a sequence without a start of its
own. -/
def blockEntry (b : Builder) : Option Builder :=
  match b.frames with
  | .properties _ _ :: .mapping false _ .key :: _ => b.push (.sequence .compact [] true)
  | .properties _ _ :: .mapping false _ (.value _) :: _ => b.push (.sequence .compact [] true)
  | .mapping false _ .key :: _ => b.push (.sequence .compact [] true)
  | .mapping false _ (.value _) :: _ => b.push (.sequence .compact [] true)
  | _ => do
    let b ← b.settleProperties
    match b.frames with
    | .sequence .flow _ _ :: _ => none
    | .sequence kind items due :: frames =>
      return b.inside (.sequence kind (withBlank due items) true :: frames)
    | _ => none

/-- A key follows. -/
def key (b : Builder) : Option Builder := do
  let b ← b.settle
  match b.frames with
  | .mapping false _ _ :: _ =>
    let b ← b.settlePair
    match b.frames with
    | .mapping false pairs .ready :: frames =>
      return b.inside (.mapping false pairs .key :: frames)
    | _ => none
  | .mapping true pairs .ready :: frames =>
    return b.inside (.mapping true pairs .key :: frames)
  | .sequence .flow _ true :: _ => return b.inside (.pair .key :: b.frames)
  | _ => none

/-- A value follows.  In a pair without braces, the mark behind a missing key is used up with the
key. -/
def value (b : Builder) : Option Builder :=
  match b.frames with
  | .pair .key :: _ => b.give .blank
  | _ => do
    let b ← b.settle
    let b ← match b.frames with
      | .mapping _ _ .key :: _ => b.give .blank
      | _ => some b
    match b.frames with
    | .mapping flow pairs (.mark k) :: frames =>
      return b.inside (.mapping flow pairs (.value k) :: frames)
    | .pair (.mark k) :: frames => return b.inside (.pair (.value k) :: frames)
    | _ => none

/-- The end of a block collection. -/
def blockEnd (b : Builder) : Option Builder := do
  let b ← b.settle
  match b.frames with
  | .sequence .block items due :: frames =>
    (b.inside frames).give (.sequence (withBlank due items).reverse)
  | .mapping false _ _ :: _ =>
    let b ← b.settlePair
    match b.frames with
    | .mapping false pairs .ready :: frames =>
      (b.inside frames).give (.mapping pairs.reverse)
    | _ => none
  | _ => none

/-- A comma of a flow collection; behind a missing key of a pair without braces it is used up with
the key. -/
def flowEntry (b : Builder) : Option Builder :=
  match b.frames with
  | .pair .key :: _ => b.give .blank
  | _ => do
    let b ← b.settleProperties
    let b ← b.settlePair
    match b.frames with
    | .sequence .flow items false :: frames =>
      return b.inside (.sequence .flow items true :: frames)
    | .mapping true pairs .done :: frames =>
      return b.inside (.mapping true pairs .ready :: frames)
    | _ => none

/-- The end of a flow sequence; behind a missing key of a pair without braces it is used up with the
key. -/
def flowSequenceEnd (b : Builder) : Option Builder :=
  match b.frames with
  | .pair .key :: _ => b.give .blank
  | _ => do
    let b ← b.settleProperties
    let b ← b.settlePair
    match b.frames with
    | .sequence .flow items _ :: frames =>
      (b.inside frames).give (.sequence items.reverse)
    | _ => none

/-- The end of a flow mapping. -/
def flowMappingEnd (b : Builder) : Option Builder := do
  let b ← b.settleProperties
  let b ← b.settlePair
  match b.frames with
  | .mapping true pairs _ :: frames =>
    (b.inside frames).give (.mapping pairs.reverse)
  | _ => none

/-- Ends the node of the document; one that is not written is blank. -/
def finishNode (b : Builder) : Option Builder := do
  let b ← b.settleProperties
  if b.frames.isEmpty then
    if b.root.isNone then b.give .blank else some b
  else none

/-- One token inside a document. -/
def step (b : Builder) : Token → Option Builder
  | .scalar style text => b.scalar { style, text }
  | .reference name => b.reference name
  | .anchor name => b.anchor name
  | .tag handle suffix => b.tag handle suffix
  | .blockSequenceStart => b.push (.sequence .block [] false)
  | .blockMappingStart => b.push (.mapping false [] .ready)
  | .flowSequenceStart => b.push (.sequence .flow [] true)
  | .flowMappingStart => b.push (.mapping true [] .ready)
  | .blockEntry => b.blockEntry
  | .key => b.key
  | .value => b.value
  | .blockEnd => b.blockEnd
  | .flowEntry => b.flowEntry
  | .flowSequenceEnd => b.flowSequenceEnd
  | .flowMappingEnd => b.flowMappingEnd
  | .documentEnd => b.finishNode.map fun b => { b with ended := true }
  | .documentStart => none
  | .versionDirective => none
  | .tagDirective _ _ => none

/-- The marked nodes that are complete. -/
def settled (marked : List (Nat × Option Node)) : List (Nat × Node) :=
  marked.filterMap fun m => m.2.map fun n => (m.1, n)

/-- The document that tokens make. -/
def run (b : Builder) : List Token → Option Document
  | [] => b.finishNode.bind fun b =>
    b.root.map fun root => { root := root, marked := settled b.marked, parts := b.parts }
  | t :: ts => (b.step t).bind fun b => b.run ts

/-- Reads the directives in front of a document that is marked with a start. -/
def directives (b : Builder) (versioned : Bool) : List Token → Option Document
  | .documentStart :: ts => b.run ts
  | .versionDirective :: ts => if versioned then none else b.directives true ts
  | .tagDirective handle stem :: ts =>
    if (b.handles.lookup handle).isSome then none
    else directives { b with handles := (handle, stem) :: b.handles } versioned ts
  | _ => none

end Builder

namespace Document

/-- The document that a list of tokens makes, if there is one. -/
def ofTokens? (ts : List Token) : Option (Option Document) :=
  let b : Builder := {}
  match ts with
  | [] => some none
  | .documentStart :: _ => (b.directives false ts).map some
  | .versionDirective :: _ => (b.directives false ts).map some
  | .tagDirective _ _ :: _ => (b.directives false ts).map some
  | .documentEnd :: _ => none
  | _ => (b.run ts).map some

/-- The document of a text, if there is one. -/
def ofText? (text : String) : Option (Option Document) := (tokens? text).bind ofTokens?

end Document

end SqlSession.Yaml
