import SqlSession.Bytes
/-!
# Tokens of YAML

A document is first cut into tokens.  Indentation comes out as tokens too: a block collection starts
and ends with one, as a flow collection does with its brackets.

What tags are made of are octets, which need not be the UTF-8 form of any text.
-/

namespace SqlSession.Yaml

/-- How a scalar is written. -/
inductive ScalarStyle where
  | plain
  | singleQuoted
  | doubleQuoted
  | literal
  | folded
  deriving DecidableEq, Repr

/-- A token. -/
inductive Token where
  | versionDirective
  | tagDirective (handle : String) (stem : Bytes)
  | documentStart
  | documentEnd
  | blockSequenceStart
  | blockMappingStart
  | blockEnd
  | flowSequenceStart
  | flowSequenceEnd
  | flowMappingStart
  | flowMappingEnd
  /-- The hyphen of a block sequence. -/
  | blockEntry
  /-- The comma of a flow collection. -/
  | flowEntry
  /-- A key of a mapping follows. -/
  | key
  /-- The value of a key follows. -/
  | value
  /-- An alias of the node with an anchor. -/
  | reference (name : String)
  | anchor (name : String)
  | tag (handle : String) (suffix : Bytes)
  | scalar (style : ScalarStyle) (text : String)
  deriving DecidableEq, Repr

end SqlSession.Yaml
