import SqlSession.Proofs.Yaml.Building
import SqlSession.Proofs.Yaml.Word
import SqlSession.Yaml.Builtin
/-!
# The built-in YAML library reads back what it has written

A node stands for a value if it is the node of the document that the value is written as.

    a text                          it is quoted where it would be read as anything else
    a number, a truth value         plain, and read back
    a mapping                       its pairs, in order

* `legible_tree`: a visible value is written as a legible document.
* `readsBack`: the promises of a library.
-/

namespace SqlSession.Yaml

/-! ## Scalars -/

/-- Only a text that is read as one stands without quotes. -/
theorem isText_of_styleOf {text : String} (h : styleOf text = .plain) : isText text = true := by
  unfold styleOf at h
  dsimp only at h
  split at h
  · split at h <;> exact absurd h (by decide)
  · split at h
    case isTrue hplain => exact ((Bool.and_eq_true _ _).mp hplain).1
    case isFalse => split at h <;> exact absurd h (by decide)

/-- A text is not empty and does not stand for nothing. -/
theorem not_null_of_isText {text : String} (h : isText text = true) :
    (text.isEmpty || isNull text) = false := by
  unfold isText at h
  simp only [Bool.not_eq_true', Bool.or_eq_false_iff] at h
  rw [h.1.1.1.1.1, h.1.1.1.1.2]
  rfl

namespace Node

/-- A text that is written is not taken for nothing. -/
theorem optionalText?_ofText (text : String) :
    optionalText? (.scalar (.ofText text)) = some (some text) := by
  show (if styleOf text ≠ .plain then some (some text)
    else some (if text.isEmpty || isNull text then none else some text)) = _
  by_cases hplain : styleOf text = .plain
  · rw [if_neg (not_not.2 hplain), not_null_of_isText (isText_of_styleOf hplain)]
    rfl
  · rw [if_pos hplain]

theorem number?_ofWord {limit n : Nat} (h : n < limit) :
    number? limit (.scalar (.ofWord (toString n))) = some n := readNumber?_toString h

theorem flag?_ofWord (b : Bool) :
    flag? (.scalar (.ofWord (if b then "true" else "false"))) = some b := by
  cases b <;> decide +kernel

end Node

theorem legible_flag (b : Bool) : (Scalar.ofWord (if b then "true" else "false")).Legible := by
  cases b <;> exact legible_ofWord (by decide +kernel) (by decide) (by decide +kernel)

/-! ## Values -/

namespace Value

theorem fieldTrees_eq_map (fields : List (String × Value)) :
    fieldTrees fields = fields.map fun e => (.ofText e.1, e.2.tree) := by
  induction fields with
  | nil =>
    rw [fieldTrees]
    rfl
  | cons e fields ih =>
    rw [fieldTrees, ih, List.map_cons]

mutual

/-- A visible value is written as a legible document. -/
theorem legible_tree (value : Value) (h : value.IsVisible) : value.tree.Legible := by
  match value, h with
  | .text s, h =>
    rw [IsVisible] at h
    rw [tree, Tree.Legible]
    exact legible_ofText h
  | .number n, _ =>
    rw [tree, Tree.Legible]
    exact legible_number n.toNat
  | .flag b, _ =>
    rw [tree, Tree.Legible]
    exact legible_flag b
  | .mapping fields, h =>
    obtain ⟨hne, hfields⟩ : fields ≠ [] ∧ FieldsVisible fields := by rwa [IsVisible] at h
    rw [tree, Tree.Legible]
    refine ⟨?_, legible_fieldTrees fields hfields⟩
    rw [fieldTrees_eq_map]
    exact mt List.map_eq_nil_iff.1 hne

/-- So are visible fields. -/
theorem legible_fieldTrees (fields : List (String × Value)) (h : FieldsVisible fields) :
    Tree.FieldsLegible (fieldTrees fields) := by
  match fields, h with
  | [], _ =>
    rw [fieldTrees, Tree.FieldsLegible]
    exact trivial
  | (key, value) :: fields, h =>
    obtain ⟨hkey, hvalue, hfields⟩ : VisibleText key ∧ value.IsVisible ∧ FieldsVisible fields := by
      rwa [FieldsVisible] at h
    rw [fieldTrees, Tree.FieldsLegible]
    exact ⟨legible_ofText hkey, legible_tree value hvalue, legible_fieldTrees fields hfields⟩

end

/-- The node that a value is read as. -/
def toNode (value : Value) : Node := value.tree.toNode

@[simp] theorem toNode_text (s : String) : toNode (.text s) = .scalar (.ofText s) := by
  rw [toNode, tree, Tree.toNode]

@[simp] theorem toNode_number (n : UInt64) :
    toNode (.number n) = .scalar (.ofWord (toString n.toNat)) := by
  rw [toNode, tree, Tree.toNode]

@[simp] theorem toNode_flag (b : Bool) :
    toNode (.flag b) = .scalar (.ofWord (if b then "true" else "false")) := by
  rw [toNode, tree, Tree.toNode]

@[simp] theorem toNode_mapping (fields : List (String × Value)) :
    toNode (.mapping fields) = .mapping (fields.map fun e => (toNode (.text e.1), e.2.toNode)) := by
  rw [toNode, tree, Tree.toNode, Tree.fieldNodes_eq_map, fieldTrees_eq_map, List.map_map]
  simp only [toNode_text]
  rfl

end Value

/-! ## Documents -/

/-- Reading from a node that is no alias takes what the node says. -/
theorem gives_reading {α : Type} {read? : Node → Option α} {n : Node} {a : α}
    (halias : ∀ mark, n ≠ .reference mark) (h : read? n = some a) :
    Gives (Node.reading read? n) a := by
  rintro ⟨d, left⟩
  have hfollow : d.follow? left n = some (n, left) := by
    cases n with
    | reference mark => exact absurd rfl (halias mark)
    | _ => rfl
  refine ⟨(d, left), ?_⟩
  unfold Node.reading
  simp only [hfollow, h]

/-- What is written for a mapping is loaded as its node. -/
theorem loadNode_render {fields : List (String × Value)} (h : Value.FieldsVisible fields) :
    ∃ state, loadNode (Value.mapping fields).tree.render =
      .ok ((Value.mapping fields).toNode, state) := by
  by_cases hempty : fields = []
  · -- braces with nothing between them
    subst hempty
    exact ⟨(⟨.mapping [], [], 2⟩, 200), by rfl⟩
  · have hne : Value.fieldTrees fields ≠ [] := by
      rw [Value.fieldTrees_eq_map]
      exact mt List.map_eq_nil_iff.1 hempty
    obtain ⟨d, hdocument, hroot⟩ := ofText?_render hne (Value.legible_fieldTrees fields h)
    refine ⟨(d, d.allowance), ?_⟩
    rw [Value.toNode, Value.tree, loadNode, hdocument, ← hroot]
    rfl

/-- **The built-in library.**  It reads back what it has written. -/
theorem readsBack : Library.ReadsBack fun (n : Node) value => n = value.toNode where
  load_write fields h := by
    obtain ⟨state, hload⟩ := loadNode_render h
    exact ⟨_, state, hload, rfl⟩
  text := by
    rintro n s rfl
    rw [Value.toNode_text]
    exact gives_reading (by simp) rfl
  optionalText := by
    rintro n s rfl
    rw [Value.toNode_text]
    exact gives_reading (by simp) (Node.optionalText?_ofText s)
  number := by
    rintro n k limit rfl hlimit
    rw [Value.toNode_number]
    exact gives_reading (by simp) (Node.number?_ofWord hlimit)
  flag := by
    rintro n b rfl
    rw [Value.toNode_flag]
    exact gives_reading (by simp) (Node.flag?_ofWord b)
  pairs := by
    rintro n fields rfl
    rw [Value.toNode_mapping]
    refine ⟨_, gives_reading (by simp) rfl, ?_⟩
    rw [List.forall₂_map_left_iff]
    exact List.forall₂_same.2 fun e _ => ⟨rfl, rfl⟩

end SqlSession.Yaml
