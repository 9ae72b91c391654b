import SqlSession.Yaml.Token
/-!
# Nodes of a YAML document

A document holds a scalar, a sequence or a mapping.  A mapping keeps its pairs in the order they are
written, also those with one key.

An alias stands for a node elsewhere in the document, and a few aliases can make a small document
stand for a very large one.  So whoever reads a document has an allowance of aliases to follow: a
hundred for each part of the document.
-/

namespace SqlSession.Yaml

/-- A scalar: its text, how it is written, and the octets of its tag. -/
structure Scalar where
  style : ScalarStyle
  text : String
  tag : Option Bytes := none
  deriving DecidableEq, Repr

/-- A node. -/
inductive Node where
  | scalar (s : Scalar)
  | sequence (items : List Node)
  | mapping (pairs : List (Node × Node))
  /-- An alias of the node with a mark. -/
  | reference (mark : Nat)

/-- The scalar that stands where nothing is written. -/
def Node.blank : Node := .scalar { style := .plain, text := "" }

/-- The scalar of a node that is one. -/
def Node.scalar? : Node → Option Scalar
  | .scalar s => some s
  | _ => none

/-- How many parts of a document a node adds to those inside it: a collection has a start and an
end. -/
def Node.parts : Node → Nat
  | .scalar _ => 1
  | .sequence _ => 2
  | .mapping _ => 2
  | .reference _ => 1

/-- A document: its node, the nodes that have a mark, and how many parts it has. -/
structure Document where
  root : Node
  marked : List (Nat × Node) := []
  parts : Nat := root.parts

/-! ## Following aliases -/

/-- How many aliases may be followed in a document. -/
def Document.allowance (d : Document) : Nat := 100 * d.parts

/-- The node that a node of the document stands for, and the allowance that is left. -/
def Document.follow? (d : Document) (left : Nat) : Node → Option (Node × Nat)
  | .reference mark =>
    match left with
    | 0 => none
    | left + 1 => some ((d.marked.lookup mark).getD .blank, left)
  | n => some (n, left)

end SqlSession.Yaml
