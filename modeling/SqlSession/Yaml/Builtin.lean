import SqlSession.Yaml.Library
import SqlSession.Yaml.Node.Builder
import SqlSession.Yaml.Node.Printer
/-!
# The built-in YAML library

The library that is used where no other is given.  It writes a value as a document in block style,
and reads scalars by what is expected of them:

    a text                          any scalar
    a text that may be missing      any scalar, but plain null is none
    a number, a truth value         a plain scalar, or a literal one with the tag
    a mapping                       a mapping, or nothing at all

It does not say what is wrong with a document: the texts of its complaints are empty.
-/

namespace SqlSession.Yaml

/-! ## Reading -/

/-- The tag of a value that is nothing. -/
def nullTag : Bytes := Bytes.utf8 "tag:yaml.org,2002:null"

/-- The tag of a truth value. -/
def flagTag : Bytes := Bytes.utf8 "tag:yaml.org,2002:bool"

/-- The tag of a whole number. -/
def numberTag : Bytes := Bytes.utf8 "tag:yaml.org,2002:int"

namespace Node

/-- The text that may stand for a value of the type with a tag: a plain scalar, or a literal one
with the tag. -/
def bareText? (tag : Bytes) (n : Node) : Option String :=
  n.scalar?.bind fun s =>
    if s.style = .plain ∨ (s.style = .literal ∧ s.tag = some tag) then some s.text else none

/-- Reads a text; any scalar is one. -/
def text? (n : Node) : Option String := n.scalar?.map (·.text)

/-- Reads a text that may be missing: plain null is. -/
def optionalText? (n : Node) : Option (Option String) :=
  n.scalar?.bind fun s =>
    if s.style ≠ .plain then some (some s.text)
    else match s.tag with
      | none => some (if s.text.isEmpty || isNull s.text then none else some s.text)
      | some tag =>
        if tag = nullTag then if isNull s.text then some none else none
        else some (some s.text)

/-- Reads a truth value. -/
def flag? (n : Node) : Option Bool := (n.bareText? flagTag).bind readFlag?

/-- Reads a whole number below a limit. -/
def number? (limit : Nat) (n : Node) : Option Nat :=
  (n.bareText? numberTag).bind (readNumber? limit)

/-- The pairs of a mapping; where nothing is written there are none. -/
def pairs? : Node → Option (List (Node × Node))
  | .mapping pairs => some pairs
  | .scalar s => if s.style = .plain ∧ s.text.isEmpty then some [] else none
  | _ => none

/-- Reads what a node stands for in a document with so many aliases left to follow. -/
def reading {α : Type} (read? : Node → Option α) (n : Node) :
    StateT (Document × Nat) (Except String) α := fun (d, left) =>
  match d.follow? left n with
  | none => .error ""
  | some (n, left) =>
    match read? n with
    | none => .error ""
    | some a => .ok (a, d, left)

end Node

/-- The node and the allowance that reading a text starts with. -/
def loadNode (text : String) : Except String (Node × Document × Nat) :=
  match Document.ofText? text with
  | none => .error ""
  | some d =>
    let d := d.getD { root := .blank }
    .ok (d.root, d, d.allowance)

/-! ## Writing -/

namespace Value

mutual

/-- The document that a value is written as. -/
def tree : Value → Tree
  | .text s => .leaf (.ofText s)
  | .number n => .leaf (.ofWord (toString n.toNat))
  | .flag b => .leaf (.ofWord (if b then "true" else "false"))
  | .mapping fields => .branch (fieldTrees fields)

/-- The keys and values that fields are written as. -/
def fieldTrees : List (String × Value) → List (Scalar × Tree)
  | [] => []
  | (key, value) :: rest => (.ofText key, tree value) :: fieldTrees rest

end

end Value

/-- The built-in library. -/
instance : Library where
  Node := Node
  State := Document × Nat
  write value := value.tree.render
  load := loadNode
  text := Node.reading Node.text?
  optionalText := Node.reading Node.optionalText?
  number limit := Node.reading (Node.number? limit)
  flag := Node.reading Node.flag?
  pairs := Node.reading Node.pairs?
  complaint _ _ := ""

end SqlSession.Yaml
