/-!
# YAML libraries

Data sources are stored in YAML, and a YAML library writes and reads it.  `Library` is what the
rest asks of one: to write a value, to load a document, and to read from a part of it what is
expected there.

What is expected counts: of the same part of a document, one library call may make a text and another
one a number.
-/

namespace SqlSession.Yaml

/-- What is written as a document. -/
inductive Value where
  | text (s : String)
  | number (n : UInt64)
  | flag (b : Bool)
  /-- Keys and their values, in order. -/
  | mapping (fields : List (String × Value))

/-- A YAML library.  What is wrong with a document comes as the text that is shown for it. -/
class Library where
  /-- A part of a document. -/
  Node : Type
  /-- What the library remembers from one part of a document to the next. -/
  State : Type
  /-- Writes a value; there is none that cannot be written. -/
  write : Value → String
  /-- Loads a document; where a text holds none, the node is one at which nothing is written. -/
  load : String → Except String (Node × State)
  /-- Reads a text. -/
  text : Node → StateT State (Except String) String
  /-- Reads a text that may be missing. -/
  optionalText : Node → StateT State (Except String) (Option String)
  /-- Reads a whole number below a limit. -/
  number : Nat → Node → StateT State (Except String) Nat
  /-- Reads a truth value. -/
  flag : Node → StateT State (Except String) Bool
  /-- Reads the keys and values of a mapping, in order. -/
  pairs : Node → StateT State (Except String) (List (Node × Node))
  /-- What is shown when the reader of a node finds fault with it. -/
  complaint : Node → String → String

/-- A computation that reads a document. -/
abbrev Reading [Library] (α : Type) := StateT Library.State (Except String) α

end SqlSession.Yaml
