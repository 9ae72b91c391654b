import SqlSession.Proofs.Yaml.Key
/-!
# The tokens of a written document

A document of legible scalars is cut into the tokens of its tree: each mapping starts and ends with a
token of its own, each key and each value is marked, and the scalars have the styles and texts they
were written with.

* `Tree.tokens`: these tokens.
* `reads_of_legible`, `result_fields`: a value and the fields of a mapping, by induction over the
  tree.
* `tokens?_render`: a document.
-/

namespace SqlSession.Yaml

namespace Tree

mutual

/-- The tokens of a document. -/
def tokens : Tree → List Token
  | .leaf s => [.scalar s.style s.text]
  | .branch fields => .blockMappingStart :: fieldTokens fields ++ [.blockEnd]

/-- The tokens of fields. -/
def fieldTokens : List (Scalar × Tree) → List Token
  | [] => []
  | (key, value) :: rest =>
    .key :: .scalar key.style key.text :: .value :: tokens value ++ fieldTokens rest

end

theorem reverse_fieldTokens (key : Scalar) (value : Tree) (fields : List (Scalar × Tree)) :
    (fieldTokens ((key, value) :: fields)).reverse =
      (fieldTokens fields).reverse ++
        (value.tokens.reverse ++ [.value, .scalar key.style key.text, .key]) := by
  rw [fieldTokens]
  simp only [List.cons_append, List.reverse_cons, List.reverse_append, List.append_assoc,
    List.nil_append]

mutual

/-- All scalars of a document are legible, and no mapping in it is empty. -/
def Legible : Tree → Prop
  | .leaf s => s.Legible
  | .branch fields => fields ≠ [] ∧ FieldsLegible fields

/-- All scalars of fields are legible. -/
def FieldsLegible : List (Scalar × Tree) → Prop
  | [] => True
  | (key, value) :: rest => key.Legible ∧ Legible value ∧ FieldsLegible rest

end

theorem fieldsLegible_of_forall {fields : List (Scalar × Tree)}
    (h : ∀ e ∈ fields, e.1.Legible ∧ e.2.Legible) : FieldsLegible fields := by
  induction fields with
  | nil =>
    rw [FieldsLegible]
    exact trivial
  | cons e fields ih =>
    obtain ⟨he, hfields⟩ := List.forall_mem_cons.1 h
    rw [FieldsLegible]
    exact ⟨he.1, he.2, ih hfields⟩

end Tree

namespace Lexer

/-! ## Values and fields -/

section

variable {p : Place} {outer : List Nat} {tokens : List Token} {rest : List Char} {n : Nat}
  {key : Scalar}

/-- A line with fields resumes at the margin in front of it. -/
theorem resumes_renderFields {fields : List (Scalar × Tree)} (hne : fields ≠ [])
    (h : Tree.FieldsLegible fields) (rest : List Char) :
    Resumes n (margin n ++ (Tree.renderFields n fields ++ rest)) := by
  rcases fields with - | ⟨⟨key, value⟩, fields⟩
  · exact absurd rfl hne
  · obtain ⟨hkey, -, -⟩ := h
    refine .inr ?_
    rw [Tree.renderFields, Tree.renderKey]
    split
    · rw [render_of_legible hkey]
      have hvisible := hkey.visible_glyphs
      obtain ⟨c, cs, -, -, hglyphs, hplain⟩ | ⟨-, hglyphs⟩ := hkey.glyphs_cases
      · rw [hglyphs] at hvisible ⊢
        exact ⟨c, _, rfl, (List.forall_mem_cons.1 hvisible).1, hplain.shown,
          ne_of_unmarked hplain.unmarked (by decide)⟩
      · rw [hglyphs]
        exact ⟨'\'', _, rfl, by decide, by decide, by decide⟩
    · exact ⟨'?', _, rfl, by decide, by decide, by decide⟩

theorem atGap_renderValue (n : Nat) (key : Scalar) (value : Tree) (rest : List Char) :
    atGap (Tree.renderValue n key value ++ rest) = true := by
  cases value with
  | leaf s => rfl
  | branch fields =>
    rw [Tree.renderValue, Tree.fieldsStart]
    split
    · rfl
    · split <;> rfl

/-- The lines of a value are read as its tokens, at any margin that is not to the right of the next
line. -/
def Reads (value : Tree) : Prop :=
  ∀ ⦃p : Place⦄ (outer : List Nat) (tokens : List Token) ⦃rest : List Char⦄ ⦃n m : Nat⦄
    ⦃key : Scalar⦄ ⦃allowed : Bool⦄, Behind key n p allowed → m ≤ n → Resumes m rest →
    ∃ q : Place, q.column = 0 ∧
      (resting p (n :: outer) none allowed tokens).result
          (Tree.renderValue n key value ++ rest) =
        (resting q (n :: outer) none true (value.tokens.reverse ++ tokens)).result rest

theorem reads_leaf {s : Scalar} (hs : s.Legible) : Reads (.leaf s) := by
  intro p outer tokens rest n m key allowed hbehind hm hrest
  refine ⟨((p.past 1).past s.glyphs.length).nextLine, rfl, ?_⟩
  rw [Tree.renderValue, render_of_legible hs, endLine_of_visible hs.visible_glyphs,
    List.cons_append, List.append_assoc, List.singleton_append, result_blank,
    result_leaf (Nat.lt_succ_of_lt hbehind.right) hs hm hrest, Tree.tokens]
  rfl

/-- The lines of a key and its value. -/
theorem result_field {value : Tree} (hvalue : Reads value) (hkey : key.Legible)
    (h : Inside p.column outer) (first : Bool) (tokens : List Token) {m : Nat} (hm : m ≤ p.column)
    (hrest : Resumes m rest) :
    ∃ q : Place, q.column = 0 ∧
      (resting p (blocks first p.column outer) none true tokens).result
          (Tree.renderKey p.column key ++ ':' :: Tree.renderValue p.column key value ++ rest) =
        (resting q (p.column :: outer) none true
          (value.tokens.reverse ++ .value :: .scalar key.style key.text :: .key ::
            mappingStart first ++ tokens)).result rest := by
  obtain ⟨start, allowed, hbehind, hmark⟩ := result_key h first hkey tokens
    (atGap_renderValue p.column key value rest)
  obtain ⟨q, hq, hread⟩ := hvalue outer
    (.value :: .scalar key.style key.text :: .key :: mappingStart first ++ tokens) hbehind hm hrest
  refine ⟨q, hq, ?_⟩
  rw [List.append_assoc, List.cons_append, hmark, hread, List.append_assoc]

end

mutual

/-- **Values.**  A legible value is read as its tokens. -/
theorem reads_of_legible (value : Tree) (h : value.Legible) : Reads value := by
  match value, h with
  | .leaf s, h =>
    rw [Tree.Legible] at h
    exact reads_leaf h
  | .branch fields, h =>
    obtain ⟨hne, hfields⟩ : fields ≠ [] ∧ Tree.FieldsLegible fields := by
      rwa [Tree.Legible] at h
    intro p outer tokens rest n m key allowed hbehind hm hrest
    have hempty : ¬ fields.isEmpty = true := fun hempty => hne (List.isEmpty_iff.1 hempty)
    obtain ⟨start, hstart, hopen⟩ := result_fieldsStart hbehind (n :: outer) tokens
      (Tree.renderFields (n + 2) fields ++ rest)
    have hinside : Inside start.column (n :: outer) := by
      rintro i hi
      obtain rfl : n = i := Option.some.inj hi
      rw [hstart]
      exact Nat.lt_add_of_pos_right Nat.two_pos
    have hleft : m < start.column := Nat.lt_of_le_of_lt hm (hinside n rfl)
    obtain ⟨q, hq, hread⟩ := result_fields fields hne hfields true tokens hinside
      (Nat.le_of_lt hleft) hrest
    have hleave : q.column + m < start.column := by
      rwa [hq, Nat.zero_add]
    refine ⟨q, hq, ?_⟩
    rw [Tree.renderValue, if_neg hempty, List.append_assoc, hopen, ← hstart]
    rw [blocks, if_pos rfl] at hread
    rw [hread, result_leave hleave hrest, Tree.tokens]
    simp only [mappingStart, if_true, List.reverse_append, List.reverse_cons, List.reverse_nil,
      List.nil_append, List.cons_append, List.append_assoc]

/-- **Fields.**  The lines of legible fields are read as their tokens; the first of them starts the
mapping. -/
theorem result_fields (fields : List (Scalar × Tree)) (hne : fields ≠ [])
    (h : Tree.FieldsLegible fields) {p : Place} {outer : List Nat} {rest : List Char} {m : Nat}
    (first : Bool) (tokens : List Token) (hinside : Inside p.column outer) (hm : m ≤ p.column)
    (hrest : Resumes m rest) :
    ∃ q : Place, q.column = 0 ∧
      (resting p (blocks first p.column outer) none true tokens).result
          (Tree.renderFields p.column fields ++ rest) =
        (resting q (p.column :: outer) none true
          ((Tree.fieldTokens fields).reverse ++ mappingStart first ++ tokens)).result rest := by
  match fields, hne, h with
  | [(key, value)], _, h =>
    obtain ⟨hkey, hvalue, -⟩ : key.Legible ∧ value.Legible ∧ Tree.FieldsLegible [] := by
      rwa [Tree.FieldsLegible] at h
    obtain ⟨q, hq, hread⟩ := result_field (reads_of_legible value hvalue) hkey hinside first
      tokens hm hrest
    refine ⟨q, hq, ?_⟩
    rw [Tree.renderFields, List.isEmpty_nil, if_pos rfl, List.append_nil, hread,
      Tree.reverse_fieldTokens, Tree.fieldTokens]
    simp only [List.reverse_nil, List.nil_append, List.cons_append, List.append_assoc]
  | (key, value) :: next :: fields, _, h =>
    obtain ⟨hkey, hvalue, hfields⟩ :
        key.Legible ∧ value.Legible ∧ Tree.FieldsLegible (next :: fields) := by
      rwa [Tree.FieldsLegible] at h
    have hne : next :: fields ≠ [] := List.cons_ne_nil _ _
    have hlines := resumes_renderFields (n := p.column) hne hfields rest
    obtain ⟨start, hstart, hfield⟩ := result_field (reads_of_legible value hvalue) hkey
      hinside first tokens (Nat.le_refl _) hlines
    have hcolumn : (start.past p.column).column = p.column := by
      show start.column + p.column = p.column
      rw [hstart, Nat.zero_add]
    have hnext : Inside (start.past p.column).column outer := by rwa [hcolumn]
    have hright : m ≤ (start.past p.column).column := by rwa [hcolumn]
    obtain ⟨q, hq, hread⟩ := result_fields (next :: fields) hne hfields false
      (value.tokens.reverse ++ .value :: .scalar key.style key.text :: .key ::
        mappingStart first ++ tokens) hnext hright hrest
    rw [hcolumn] at hread
    refine ⟨q, hq, ?_⟩
    rw [Tree.renderFields, List.isEmpty_cons, if_neg Bool.false_ne_true, List.append_assoc,
      List.append_assoc (margin _), hfield, result_margin rfl rfl, resting_past]
    rw [blocks, if_neg Bool.false_ne_true] at hread
    rw [hread, Tree.reverse_fieldTokens key]
    simp only [mappingStart, Bool.false_eq_true, if_false, List.nil_append, List.cons_append,
      List.append_assoc]

end

/-- At the end of the text the outermost mapping ends. -/
theorem result_nil (p : Place) (n : Nat) (tokens : List Token) :
    (resting p [n] none true tokens).result [] = some (tokens.reverse ++ [.blockEnd]) := by
  show some (Token.blockEnd :: tokens).reverse = _
  rw [List.reverse_cons]

end Lexer

/-! ## Documents -/

/-- A character that documents of legible scalars are written with. -/
def Written (c : Char) : Prop := Visible c ∨ c = '\n'

theorem Written.isAllowed {c : Char} (h : Written c) : isAllowed c = true := by
  obtain h | rfl := h
  · exact h.isAllowed
  · decide

/-- Lines that end with a line feed stay as they are. -/
theorem unifyBreaks_of_written {cs : List Char} (h : ∀ c ∈ cs, Written c) :
    unifyBreaks cs = cs := by
  have hkept : ∀ before : Char, before ≠ '\r' →
      ((before :: cs).zip cs).filterMap (fun p =>
        if p.1 = '\r' ∧ p.2 = '\n' then none
        else some (if p.2 = '\r' ∨ p.2 = '\u0085' then '\n' else p.2)) = cs := by
    induction cs with
    | nil => exact fun _ _ => rfl
    | cons c cs ih =>
      intro before hbefore
      obtain ⟨hc, hcs⟩ := List.forall_mem_cons.1 h
      have hreturn : c ≠ '\r' := by
        rintro rfl
        exact absurd hc (by unfold Written; decide)
      have hnext : c ≠ '\u0085' := by
        rintro rfl
        exact absurd hc (by unfold Written; decide)
      rw [List.zip_cons_cons, List.filterMap_cons]
      dsimp only
      rw [if_neg (fun h => hbefore h.1), if_neg (not_or.2 ⟨hreturn, hnext⟩)]
      exact congrArg (c :: ·) (ih hcs c hreturn)
  exact hkept '\n' (by decide)

namespace Tree

theorem written_margin (n : Nat) : ∀ c ∈ margin n, Written c := by
  intro c hc
  rw [List.eq_of_mem_replicate hc]
  exact .inl (by decide)

theorem written_line {s : Scalar} (h : s.Legible) (n : Nat) :
    ∀ c ∈ endLine (s.render n), Written c := by
  rw [render_of_legible h, endLine_of_visible h.visible_glyphs]
  intro c hc
  rw [List.mem_append, List.mem_singleton] at hc
  exact hc.imp_left (h.visible_glyphs c)

theorem written_renderKey {key : Scalar} (h : key.Legible) (n : Nat) :
    ∀ c ∈ renderKey n key, Written c := by
  intro c hc
  unfold renderKey at hc
  split at hc
  · rw [render_of_legible h] at hc
    exact .inl (h.visible_glyphs c hc)
  · rw [List.mem_append, List.mem_cons, List.mem_cons] at hc
    obtain (rfl | rfl | hc) | hc := hc
    · exact .inl (by decide)
    · exact .inl (by decide)
    · exact written_line h _ c hc
    · exact written_margin n c hc

theorem written_fieldsStart (n : Nat) (key : Scalar) : ∀ c ∈ fieldsStart n key, Written c := by
  intro c hc
  unfold fieldsStart at hc
  split at hc
  · obtain rfl | hc := List.mem_cons.1 hc
    · exact .inr rfl
    · exact written_margin _ c hc
  · rw [List.mem_singleton.1 hc]
    exact .inl (by decide)

mutual

theorem written_renderValue (value : Tree) (h : value.Legible) (n : Nat) (key : Scalar) :
    ∀ c ∈ renderValue n key value, Written c := by
  match value, h with
  | .leaf s, h =>
    rw [Legible] at h
    rw [renderValue]
    exact List.forall_mem_cons.2 ⟨.inl (by decide), written_line h _⟩
  | .branch fields, h =>
    obtain ⟨hne, hfields⟩ : fields ≠ [] ∧ FieldsLegible fields := by
      rwa [Legible] at h
    have hempty : ¬ fields.isEmpty = true := fun hempty => hne (List.isEmpty_iff.1 hempty)
    rw [renderValue, if_neg hempty, List.forall_mem_append]
    exact ⟨written_fieldsStart n key, written_renderFields fields hfields (n + 2)⟩

theorem written_renderFields (fields : List (Scalar × Tree)) (h : FieldsLegible fields) (n : Nat) :
    ∀ c ∈ renderFields n fields, Written c := by
  match fields, h with
  | [], _ =>
    rw [renderFields]
    exact List.forall_mem_nil _
  | (key, value) :: fields, h =>
    obtain ⟨hkey, hvalue, hfields⟩ : key.Legible ∧ value.Legible ∧ FieldsLegible fields := by
      rwa [FieldsLegible] at h
    rw [renderFields, List.forall_mem_append, List.forall_mem_append, List.forall_mem_cons]
    refine ⟨⟨written_renderKey hkey n, .inl (by decide), written_renderValue value hvalue n key⟩, ?_⟩
    split
    · exact List.forall_mem_nil _
    · rw [List.forall_mem_append]
      exact ⟨written_margin n, written_renderFields fields hfields n⟩

end

end Tree

/-- **Lexing.**  A document with legible fields is cut into its tokens. -/
theorem tokens?_render {fields : List (Scalar × Tree)} (hne : fields ≠ [])
    (h : Tree.FieldsLegible fields) :
    tokens? (Tree.branch fields).render = some (Tree.branch fields).tokens := by
  have hempty : ¬ fields.isEmpty = true := fun hempty => hne (List.isEmpty_iff.1 hempty)
  have hwritten := Tree.written_renderFields fields h 0
  have hallowed : (Tree.renderFields 0 fields).all isAllowed = true :=
    List.all_eq_true.2 fun c hc => (hwritten c hc).isAllowed
  have hinside : Lexer.Inside 0 [] := fun i hi => absurd hi (by simp)
  have hend : Lexer.Resumes 0 [] := .inl rfl
  obtain ⟨q, -, hread⟩ := Lexer.result_fields fields hne h (p := ⟨0, 0, 0⟩) true [] hinside
    (Nat.le_refl 0) hend
  rw [List.append_nil, List.append_nil] at hread
  rw [Tree.render, if_neg hempty, tokens?, String.toList_ofList, if_pos hallowed,
    unifyBreaks_of_written hwritten, Tree.tokens]
  refine hread.trans ?_
  rw [Lexer.result_nil, Lexer.mappingStart, if_pos rfl, List.reverse_append, List.reverse_reverse]
  rfl

end SqlSession.Yaml
