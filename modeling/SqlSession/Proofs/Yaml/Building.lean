import SqlSession.Proofs.Yaml.Blocks
import SqlSession.Yaml.Node.Builder
/-!
# The node of a written document

The tokens of a document of legible scalars build the node that the document stands for, whatever
else is open around it and whatever follows.

    a frame waits for a node      the tokens of a value, in place of the node   (builds_of_legible)
    a mapping waits for a pair    the tokens of fields, in place of the pairs   (run_fieldTokens)

* `ofText?_render`: a written document is read as one with the same node.
-/

namespace SqlSession.Yaml

namespace Builder

/-- The builder waits for a node without properties in front. -/
structure Waiting (b : Builder) : Prop where
  expects : b.expectsNode = true
  bare : ∀ anchored tag frames, b.frames ≠ .properties anchored tag :: frames

/-- The tokens of a value come to its node, up to the count of parts. -/
def Builds (value : Tree) : Prop :=
  ∀ ⦃b : Builder⦄, b.Waiting → ∀ rest, ∃ parts,
    b.run (value.tokens ++ rest) =
      (({ b with parts } : Builder).give value.toNode).bind fun b => b.run rest

theorem run_cons (b : Builder) (t : Token) (ts : List Token) :
    b.run (t :: ts) = (b.step t).bind fun b => b.run ts := by
  rw [run]

/-- A scalar goes to the frame that waits for it. -/
theorem scalar_of_waiting {b : Builder} (h : b.Waiting) (s : Scalar) :
    b.scalar s = b.give (.scalar s) := by
  unfold scalar
  split
  · rename_i hframes
    exact absurd hframes (h.bare _ _ _)
  · rw [if_pos h.expects]

/-- A mapping opens where a node is due. -/
theorem push_of_waiting {b : Builder} (h : b.Waiting) (f : Frame) :
    b.push f = some (b.inside (f :: b.frames)) := by
  unfold push
  rw [if_pos h.expects]
  rfl

theorem builds_leaf {s : Scalar} (h : s.Legible) : Builds (.leaf s) := by
  intro b hb rest
  have hs : ({ style := s.style, text := s.text } : Scalar) = s := by
    rw [← h.untagged]
  refine ⟨b.parts, ?_⟩
  rw [Tree.tokens, List.singleton_append, run_cons, step, hs, scalar_of_waiting hb, Tree.toNode]

section

variable (b : Builder) (pairs : List (Node × Node)) (frames : List Frame) (rest : List Token)

/-- A key and the mark behind it. -/
theorem run_key (s : Scalar) :
    (b.inside (.mapping false pairs .ready :: frames)).run
        (.key :: .scalar s.style s.text :: .value :: rest) =
      ((b.count .blank).inside
        (.mapping false pairs (.value (.scalar { style := s.style, text := s.text })) ::
          frames)).run rest := rfl

/-- A mapping that waits for the value of a key. -/
theorem waiting_value (k : Node) :
    (b.inside (.mapping false pairs (.value k) :: frames)).Waiting where
  expects := rfl
  bare := by
    intro anchored tag frames heq
    exact absurd heq (by simp [inside])

/-- The end of a mapping. -/
theorem run_blockEnd :
    (b.inside (.mapping false pairs .ready :: frames)).run (.blockEnd :: rest) =
      ((b.inside frames).give (.mapping pairs.reverse)).bind fun b => b.run rest := by
  rw [run_cons]
  rfl

end

mutual

/-- **Values.**  The tokens of a legible value come to its node. -/
theorem builds_of_legible (value : Tree) (h : value.Legible) : Builds value := by
  match value, h with
  | .leaf s, h =>
    rw [Tree.Legible] at h
    exact builds_leaf h
  | .branch fields, h =>
    obtain ⟨-, hfields⟩ : fields ≠ [] ∧ Tree.FieldsLegible fields := by
      rwa [Tree.Legible] at h
    intro b hb rest
    obtain ⟨parts, hrun⟩ := run_fieldTokens fields hfields b [] b.frames (.blockEnd :: rest)
    refine ⟨parts, ?_⟩
    rw [Tree.tokens, List.append_assoc, List.cons_append, run_cons, step, push_of_waiting hb,
      Option.bind_some]
    refine hrun.trans ?_
    rw [run_blockEnd, List.append_nil, List.reverse_reverse, Tree.toNode]
    rfl

/-- **Fields.**  The tokens of legible fields come to their pairs. -/
theorem run_fieldTokens (fields : List (Scalar × Tree)) (h : Tree.FieldsLegible fields)
    (b : Builder) (pairs : List (Node × Node)) (frames : List Frame) (rest : List Token) :
    ∃ parts,
      (b.inside (.mapping false pairs .ready :: frames)).run (Tree.fieldTokens fields ++ rest) =
        (({ b with parts } : Builder).inside
          (.mapping false ((Tree.fieldNodes fields).reverse ++ pairs) .ready :: frames)).run
            rest := by
  match fields, h with
  | [], _ =>
    refine ⟨b.parts, ?_⟩
    rw [Tree.fieldTokens, Tree.fieldNodes]
    rfl
  | (key, value) :: fields, h =>
    obtain ⟨hkey, hvalue, hfields⟩ : key.Legible ∧ value.Legible ∧ Tree.FieldsLegible fields := by
      rwa [Tree.FieldsLegible] at h
    have hk : ({ style := key.style, text := key.text } : Scalar) = key := by
      rw [← hkey.untagged]
    obtain ⟨parts, hvalue⟩ := builds_of_legible value hvalue
      (waiting_value (b.count .blank) pairs frames (.scalar key)) (Tree.fieldTokens fields ++ rest)
    obtain ⟨parts', hrest⟩ := run_fieldTokens fields hfields
      (({ b with parts } : Builder).count value.toNode) ((.scalar key, value.toNode) :: pairs) frames
      rest
    refine ⟨parts', ?_⟩
    have hkeyed := run_key b pairs frames (value.tokens ++ (Tree.fieldTokens fields ++ rest)) key
    rw [hk] at hkeyed
    rw [Tree.fieldTokens, Tree.fieldNodes, List.reverse_cons, List.append_assoc, List.append_assoc]
    exact hkeyed.trans (hvalue.trans hrest)

end

end Builder

theorem Tree.fieldNodes_eq_map (fields : List (Scalar × Tree)) :
    fieldNodes fields = fields.map fun e => (.scalar e.1, e.2.toNode) := by
  induction fields with
  | nil =>
    rw [fieldNodes]
    rfl
  | cons e fields ih =>
    rw [fieldNodes, ih, List.map_cons]

/-- **Building.**  A document with legible fields is read as one with the node it stands for. -/
theorem ofText?_render {fields : List (Scalar × Tree)} (hne : fields ≠ [])
    (h : Tree.FieldsLegible fields) :
    ∃ d : Document, Document.ofText? (Tree.branch fields).render = some (some d) ∧
      d.root = (Tree.branch fields).toNode := by
  have hlegible : (Tree.branch fields).Legible := by
    rw [Tree.Legible]
    exact ⟨hne, h⟩
  have hstart : ({} : Builder).Waiting :=
    { expects := rfl
      bare := fun anchored tag frames heq => List.cons_ne_nil _ _ heq.symm }
  obtain ⟨parts, hrun⟩ := Builder.builds_of_legible _ hlegible hstart []
  rw [List.append_nil] at hrun
  refine ⟨⟨(Tree.branch fields).toNode, [], parts + (Tree.branch fields).toNode.parts⟩, ?_, rfl⟩
  rw [Document.ofText?, tokens?_render hne h, Option.bind_some]
  rw [Tree.tokens] at hrun ⊢
  show (({} : Builder).run _).map some = _
  rw [hrun]
  rfl

end SqlSession.Yaml
