import SqlSession.Proofs.Yaml.Line
/-!
# Reading keys

A key stands on the line of its value, with a colon behind it; a long one stands on a line of its own
behind a question mark, and the colon starts the next line.  The first key of a mapping opens its
block.

* `blocks`, `mappingStart`: what is open in front of a key, and what the first one starts.
* `result_shortKey`, `result_longKey`: the two ways to write a key.
* `result_key`: a key, up to the place `Behind` its mark.
-/

namespace SqlSession.Yaml

namespace Lexer

section

variable {p : Place} {outer : List Nat} {tokens : List Token} {rest : List Char} {n : Nat}

/-- The open blocks in front of a field: the mapping is not among them in front of its first one. -/
def blocks (first : Bool) (n : Nat) (outer : List Nat) : List Nat :=
  if first then outer else n :: outer

/-- What the first field of a mapping starts. -/
def mappingStart (first : Bool) : List Token := if first then [.blockMappingStart] else []

/-- All open blocks are to the left of a column. -/
def Inside (n : Nat) (outer : List Nat) : Prop := ∀ i ∈ outer.head?, i < n

theorem fits_blocks (h : Inside n outer) (first : Bool) : Fits n (blocks first n outer) := by
  intro i hi
  cases first with
  | true => exact Nat.le_of_lt (h i hi)
  | false => exact Nat.le_of_eq (Option.some.inj hi).symm

/-- The first field opens its mapping. -/
theorem opensBlock_blocks (h : Inside n outer) (first : Bool) {l : Lexer} (houter : l.outer = [])
    (hindents : l.indents = blocks first n outer) : l.opensBlock n = first := by
  have hflow : l.inFlow = false := by simp [inFlow, houter]
  unfold opensBlock minColumn
  rw [hflow, hindents]
  cases first with
  | false => exact decide_eq_false (Nat.not_succ_le_self n)
  | true =>
    cases outer with
    | nil => exact decide_eq_true (Nat.zero_le n)
    | cons i outer => exact decide_eq_true (h i rfl)

/-- A key that was noted not far behind in the same line is still a key. -/
theorem dropStale_noted (p : Place) (indents : List Nat) (index : Nat) (tokens : List Token)
    (hfar : n ≤ 1024) :
    (resting (p.past n) indents (noted p indents true index) false tokens).dropStale =
      some (resting (p.past n) indents (noted p indents true index) false tokens) := by
  have hoffset : ¬ p.offset + 1024 < p.offset + n := by omega
  simp [dropStale, fresh, isStale, noted, resting, Place.past, hoffset]

/-- The colon behind a key that was noted. -/
theorem valueMark_noted (h : Inside p.column outer) (first : Bool) (q : Place) (t : Token) :
    (resting q (blocks first p.column outer)
        (noted p (blocks first p.column outer) true tokens.length) false (t :: tokens)).valueMark =
      some (resting q (p.column :: outer) none false
        (.value :: t :: .key :: mappingStart first ++ tokens)) := by
  have hopens := opensBlock_blocks h first
    (l := resting q (blocks first p.column outer)
      (noted p (blocks first p.column outer) true tokens.length) false (t :: tokens)) rfl rfl
  have hsince : tokens.length + 1 - tokens.length = 1 := Nat.add_sub_cancel_left _ 1
  unfold valueMark
  dsimp only [resting, noted] at hopens ⊢
  rw [if_pos rfl] at hopens ⊢
  dsimp only
  rw [hopens]
  cases first with
  | true =>
    simp only [insertAt, if_true, List.length_cons, hsince]
    rfl
  | false =>
    simp only [insertAt, Bool.false_eq_true, if_false, List.length_cons, hsince]
    rfl

/-- The colon behind a key on a line of its own. -/
theorem valueMark_explicit (h : Inside p.column outer) :
    (resting p (p.column :: outer) none true tokens).valueMark =
      some (resting p (p.column :: outer) none true (.value :: tokens)) := by
  have hopens := opensBlock_blocks h false
    (l := resting p (p.column :: outer) none true tokens) rfl rfl
  have hopen : (resting p (p.column :: outer) none true tokens).openBlock .blockMappingStart =
      resting p (p.column :: outer) none true tokens := by
    unfold openBlock
    rw [if_neg]
    exact Bool.eq_false_iff.1 hopens
  show some { (openBlock _ _).emit .value with keyAllowed := true } = _
  rw [hopen]
  rfl

/-- The question mark in front of a key on a line of its own. -/
theorem explicitKey_blocks (h : Inside p.column outer) (first : Bool) :
    (resting p (blocks first p.column outer) none true tokens).explicitKey =
      some (resting p (p.column :: outer) none true (.key :: mappingStart first ++ tokens)) := by
  have hopens := opensBlock_blocks h first
    (l := resting p (blocks first p.column outer) none true tokens) rfl rfl
  have hopen : (resting p (blocks first p.column outer) none true tokens).openBlock
      .blockMappingStart = resting p (p.column :: outer) none true (mappingStart first ++ tokens) := by
    unfold openBlock
    cases first with
    | true =>
      rw [if_pos]
      · rfl
      · exact hopens
    | false =>
      rw [if_neg]
      · rfl
      · exact Bool.eq_false_iff.1 hopens
  show ((openBlock _ _).dropKey).map _ = _
  rw [hopen]
  rfl

/-- **Keys.**  A key on the line of its value. -/
theorem result_shortKey (h : Inside p.column outer) (first : Bool) {s : Scalar} (hs : s.Legible)
    (hshort : s.glyphs.length ≤ 1024) (hrest : atGap rest = true) :
    (resting p (blocks first p.column outer) none true tokens).result (s.glyphs ++ ':' :: rest) =
      (resting (p.past (s.glyphs.length + 1)) (p.column :: outer) none false
        (.value :: .scalar s.style s.text :: .key :: mappingStart first ++ tokens)).result
          rest := by
  have hfits : Fits (p.past s.glyphs.length).column (blocks first p.column outer) := fun i hi =>
    Nat.le_trans (fits_blocks h first i hi) (Nat.le_add_right _ _)
  have hstale := dropStale_noted p (blocks first p.column outer) tokens.length
    (.scalar s.style s.text :: tokens) hshort
  obtain ⟨-, -, hstart, -⟩ := start_of_settled hstale (closeToColumn_of_fits rfl hfits) ':' rest
    (by decide)
    (fun mark hmark _ => isMarker_of_ne (by rcases hmark with rfl | rfl <;> decide) _)
  have hstep : (resting (p.past s.glyphs.length) (blocks first p.column outer)
      (noted p (blocks first p.column outer) true tokens.length) false
      (.scalar s.style s.text :: tokens)).step ':' rest =
      some (resting (p.past s.glyphs.length) (p.column :: outer) none false
        (.value :: .scalar s.style s.text :: .key :: mappingStart first ++ tokens)) := by
    rw [step_between rfl _ _ rfl, between_of_visible (by decide) (by decide) (by decide),
      hstart rfl hrest]
    exact valueMark_noted h first _ _
  rw [result_scalar hs (fits_blocks h first) (.inl rfl), result_holding_colon hrest,
    result_step (by decide) hstep, resting_past, Place.past_past]

/-- The mark in front of a key on a line of its own. -/
theorem result_questionMark (h : Inside p.column outer) (first : Bool) :
    (resting p (blocks first p.column outer) none true tokens).result ('?' :: ' ' :: rest) =
      (resting (p.past 2) (p.column :: outer) none true
        (.key :: mappingStart first ++ tokens)).result rest := by
  obtain ⟨-, hstart, -⟩ := start_of_settled
    (l := resting p (blocks first p.column outer) none true tokens) rfl
    (closeToColumn_of_fits rfl (fits_blocks h first)) '?' (' ' :: rest) (by decide)
    (fun mark hmark _ => isMarker_of_ne (by rcases hmark with rfl | rfl <;> decide) _)
  have hstep : (resting p (blocks first p.column outer) none true tokens).step '?' (' ' :: rest) =
      some (resting p (p.column :: outer) none true (.key :: mappingStart first ++ tokens)) := by
    rw [step_between rfl _ _ rfl, between_of_visible (by decide) (by decide) (by decide),
      hstart rfl rfl]
    exact explicitKey_blocks h first
  rw [result_step (by decide) hstep, resting_past, result_blank, Place.past_past]

/-- The colon behind such a key, on the next line. -/
theorem result_colon (h : Inside p.column outer) (tokens : List Token)
    (hrest : atGap rest = true) :
    (resting p (p.column :: outer) none true tokens).result (':' :: rest) =
      (resting (p.past 1) (p.column :: outer) none true (.value :: tokens)).result rest := by
  obtain ⟨-, -, hstart, -⟩ := start_of_settled
    (l := resting p (p.column :: outer) none true tokens) rfl
    (closeToColumn_of_fits rfl (fits_blocks h false)) ':' rest (by decide)
    (fun mark hmark _ => isMarker_of_ne (by rcases hmark with rfl | rfl <;> decide) _)
  have hstep : (resting p (p.column :: outer) none true tokens).step ':' rest =
      some (resting p (p.column :: outer) none true (.value :: tokens)) := by
    rw [step_between rfl _ _ rfl, between_of_visible (by decide) (by decide) (by decide),
      hstart rfl hrest]
    exact valueMark_explicit h
  rw [result_step (by decide) hstep, resting_past]

/-- A key on a line of its own. -/
theorem result_longKey (h : Inside p.column outer) (first : Bool) {s : Scalar} (hs : s.Legible)
    (tokens : List Token) (hrest : atGap rest = true) :
    ∃ q : Place, q.column = p.column + 1 ∧
      (resting p (blocks first p.column outer) none true tokens).result
          ('?' :: ' ' :: (s.glyphs ++ '\n' :: (margin p.column ++ ':' :: rest))) =
        (resting q (p.column :: outer) none true
          (.value :: .scalar s.style s.text :: .key :: mappingStart first ++ tokens)).result
            rest := by
  have hline : Resumes p.column (margin p.column ++ ':' :: rest) :=
    .inr ⟨':', rest, rfl, by decide, by decide, by decide⟩
  have hright : p.column < (p.past 2).column := Nat.lt_add_of_pos_right Nat.two_pos
  generalize hstart : ((p.past 2).past s.glyphs.length).nextLine = start
  have hcolumn : (start.past p.column).column = p.column := by
    rw [← hstart]
    exact Nat.zero_add _
  have hinside : Inside (start.past p.column).column outer := by rwa [hcolumn]
  have hcolon := result_colon hinside
    (.scalar s.style s.text :: .key :: mappingStart first ++ tokens) hrest
  rw [hcolumn] at hcolon
  refine ⟨(start.past p.column).past 1, congrArg (· + 1) hcolumn, ?_⟩
  rw [result_questionMark h first, result_leaf hright hs (Nat.le_refl _) hline, hstart,
    result_margin rfl rfl, resting_past]
  exact hcolon

end

/-! ## Both ways -/

/-- A place behind the mark of a key that stands at a column: next to it, if the key has a line of
its own. -/
structure Behind (key : Scalar) (n : Nat) (p : Place) (allowed : Bool) : Prop where
  right : n < p.column
  long : key.isShortKey = false → p.column = n + 1 ∧ allowed = true

section

variable {p : Place} {outer : List Nat} {tokens : List Token} {rest : List Char} {n : Nat}
  {key : Scalar}

/-- **Keys.**  A key, up to the mark behind it. -/
theorem result_key (h : Inside p.column outer) (first : Bool) (hs : key.Legible)
    (tokens : List Token) (hrest : atGap rest = true) :
    ∃ q allowed, Behind key p.column q allowed ∧
      (resting p (blocks first p.column outer) none true tokens).result
          (Tree.renderKey p.column key ++ ':' :: rest) =
        (resting q (p.column :: outer) none allowed
          (.value :: .scalar key.style key.text :: .key :: mappingStart first ++ tokens)).result
            rest := by
  unfold Tree.renderKey
  rw [render_of_legible hs]
  cases hshort : key.isShortKey with
  | true =>
    have hlength : key.glyphs.length ≤ 1024 := by
      have hbytes : (Bytes.utf8 key.text).length ≤ 128 :=
        of_decide_eq_true ((Bool.and_eq_true _ _).mp hshort).2
      have hle := hs.length_glyphs_le
      rw [length_utf8 hs.visible] at hbytes
      omega
    refine ⟨_, false, ⟨Nat.lt_add_of_pos_right (Nat.succ_pos _), ?_⟩,
      result_shortKey h first hs hlength hrest⟩
    intro hlong
    rw [hshort] at hlong
    exact absurd hlong (by decide)
  | false =>
    obtain ⟨q, hq, hresult⟩ := result_longKey h first hs tokens hrest
    refine ⟨q, true, ⟨?_, fun _ => ⟨hq, rfl⟩⟩, ?_⟩
    · rw [hq]
      exact Nat.lt_succ_self _
    · rw [← hresult, if_neg Bool.false_ne_true, endLine_of_visible hs.visible_glyphs]
      simp only [List.cons_append, List.append_assoc, List.nil_append]

/-- Between the mark of a key and the first field of a mapping. -/
theorem result_fieldsStart {allowed : Bool} (h : Behind key n p allowed) (indents : List Nat)
    (tokens : List Token) (rest : List Char) :
    ∃ q : Place, q.column = n + 2 ∧
      (resting p indents none allowed tokens).result (Tree.fieldsStart n key ++ rest) =
        (resting q indents none true tokens).result rest := by
  unfold Tree.fieldsStart
  cases hshort : key.isShortKey with
  | true =>
    refine ⟨p.nextLine.past (n + 2), Nat.zero_add _, ?_⟩
    rw [if_pos rfl, List.cons_append, result_newline, result_margin rfl rfl, resting_past]
  | false =>
    obtain ⟨hcolumn, rfl⟩ := h.long hshort
    refine ⟨p.past 1, congrArg (· + 1) hcolumn, ?_⟩
    rw [if_neg Bool.false_ne_true, List.singleton_append, result_blank]

end

end Lexer

end SqlSession.Yaml
