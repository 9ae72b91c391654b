import SqlSession.Attribute
import SqlSession.Proofs.Text.Blank
/-!
# Writing and reading attributes

A written value is read back if it `Fits`: in braces no closing brace may end it early, and without
braces nothing in it may be taken for a separator.  Values that were read always fit.

* `readValue_cases`, `readNext_cases`, `parseChars_induct`: what reading a value, an attribute and a
  text can come to.
* `parseAll_renderAll`: attributes with keys and values that fit are read as they were written.
* `fits_of_parseAll`: the values that are read fit.
-/

namespace SqlSession.Attribute

open Text

/-! ## What can be written -/

/-- A value that has to stand in braces holds no closing brace. -/
def Fits (cs : List Char) : Prop := ';' ∈ cs ∨ (trimLeft cs).head? = some '{' → '}' ∉ cs

/-- A key is one or more characters that neither end nor change when it is read. -/
def IsKey (key : List Char) : Prop :=
  key ≠ [] ∧ ∀ c ∈ key, c ≠ ';' ∧ c ≠ '=' ∧ isBlank c = false ∧ c.toUpper = c

instance (cs : List Char) : Decidable (Fits cs) := inferInstanceAs (Decidable (_ → _))

/-- A value that is trimmed and fits. -/
structure Writable (value : String) : Prop where
  trimmed : trim value.toList = value.toList
  fits : Fits value.toList

/-- An attribute that is read back as it was written. -/
structure Readable (a : Attribute) : Prop where
  key : IsKey a.key.toList
  value : Writable a.value

theorem fits_trim {cs : List Char} (h : Fits cs) : Fits (trim cs) := by
  intro hbraces hclosing
  refine h ?_ (mem_of_mem_trim hclosing)
  obtain hsemicolon | hopening := hbraces
  · exact .inl (mem_of_mem_trim hsemicolon)
  · rw [trimLeft_trim] at hopening
    obtain ⟨behind, hbehind⟩ := prefix_trimRight (trimLeft cs)
    refine .inr ?_
    show (trimLeft cs).head? = some '{'
    rw [← hbehind, List.head?_append, show (trimRight (trimLeft cs)).head? = _ from hopening]
    rfl

/-- A value that fits can be written once it is trimmed. -/
theorem writable_trimmed {value : String} (h : Fits value.toList) :
    Writable (Text.trimmed value) := by
  constructor
  · rw [Text.trimmed, String.toList_ofList, trim_trim]
  · rw [Text.trimmed, String.toList_ofList]
    exact fits_trim h

/-! ## Cutting -/

theorem cut_append {sep : Char} {cs : List Char} (h : sep ∉ cs) (behind : List Char) :
    cut sep (cs ++ sep :: behind) = (cs, some behind) := by
  have hall : ∀ c ∈ cs, (c != sep) = true := by
    intro c hc
    rw [bne_iff_ne]
    rintro rfl
    exact h hc
  simp [cut, List.dropWhile_append_of_pos hall, List.takeWhile_append_of_pos hall]

theorem not_mem_of_cut {sep : Char} {cs front : List Char} {behind : Option (List Char)}
    (h : cut sep cs = (front, behind)) : sep ∉ front := by
  unfold cut at h
  split at h
  · rename_i hnone
    simp only [Prod.mk.injEq] at h
    rw [← h.1]
    intro hmem
    simpa using List.dropWhile_eq_nil_iff.1 hnone sep hmem
  · simp only [Prod.mk.injEq] at h
    rw [← h.1]
    intro hmem
    simpa using List.mem_takeWhile_imp hmem

theorem cut_eq_some {sep : Char} {cs front behind : List Char}
    (h : cut sep cs = (front, some behind)) : cs = front ++ sep :: behind := by
  unfold cut at h
  split at h
  · simp at h
  · rename_i c after hdrop
    simp only [Prod.mk.injEq, Option.some.injEq] at h
    obtain ⟨rfl, rfl⟩ := h
    obtain rfl : c = sep := by
      have hhead := List.head?_dropWhile_not (· != sep) cs
      simpa [hdrop] using hhead
    rw [← hdrop, List.takeWhile_append_dropWhile]

/-! ## Reading one value -/

theorem readValue_bare {key cs : List Char} (h : (trimLeft cs).head? ≠ some '{') :
    readValue key cs =
      .ok (trim ((trimLeft cs).takeWhile (· != ';')), (trimLeft cs).dropWhile (· != ';')) := by
  unfold readValue
  split
  · rename_i inner heq
    simp [heq] at h
  · rfl

/-- What stands behind a value: nothing, or a semicolon. -/
def Ends (rest : List Char) : Prop := rest = [] ∨ ∃ behind, rest = ';' :: behind

theorem trimLeft_of_ends {rest : List Char} (h : Ends rest) : trimLeft rest = rest := by
  obtain rfl | ⟨behind, rfl⟩ := h
  · rfl
  · exact trimLeft_cons_of_not_blank behind (by decide)

/-- A value is what stands in braces, or it is bare, or it is an error. -/
theorem readValue_cases (key cs : List Char) :
    (∃ inner text behind, trimLeft cs = '{' :: inner ∧ cut '}' inner = (text, some behind) ∧
        Ends (trimLeft behind) ∧ readValue key cs = .ok (text, trimLeft behind)) ∨
      ((trimLeft cs).head? ≠ some '{' ∧ readValue key cs =
        .ok (trim ((trimLeft cs).takeWhile (· != ';')), (trimLeft cs).dropWhile (· != ';'))) ∨
      ∃ near, readValue key cs = .error (.invalidSyntax near) := by
  by_cases hbrace : (trimLeft cs).head? = some '{'
  · obtain ⟨inner, hinner⟩ := List.head?_eq_some_iff.1 hbrace
    rcases hcut : cut '}' inner with ⟨text, _ | behind⟩
    · simp only [readValue, hinner, hcut]
      exact .inr (.inr ⟨_, rfl⟩)
    · by_cases hends : Ends (trimLeft behind)
      · refine .inl ⟨inner, text, behind, hinner, hcut, hends, ?_⟩
        simp only [readValue, hinner, hcut]
        obtain hnil | ⟨rest, hrest⟩ := hends
        · simp only [hnil]
        · simp only [hrest]
      · simp only [readValue, hinner, hcut]
        split
        · rename_i hnil
          exact absurd (.inl hnil) hends
        · rename_i rest hrest
          exact absurd (.inr ⟨rest, hrest⟩) hends
        · exact .inr (.inr ⟨_, rfl⟩)
  · exact .inr (.inl ⟨hbrace, readValue_bare hbrace⟩)

theorem trimLeft_brace (cs : List Char) : trimLeft ('{' :: cs) = '{' :: cs :=
  trimLeft_cons_of_not_blank cs (by decide)

/-- A value in braces ends at the first closing brace; blanks may follow. -/
theorem readValue_closed (key : List Char) {value behind : List Char} (h : '}' ∉ value)
    (hends : Ends (trimLeft behind)) :
    readValue key ('{' :: (value ++ '}' :: behind)) = .ok (value, trimLeft behind) := by
  simp only [readValue, trimLeft_brace, cut_append h]
  obtain hnil | ⟨rest, hrest⟩ := hends
  · simp only [hnil]
  · simp only [hrest]

/-- Anything but a semicolon behind the closing brace is an error. -/
theorem readValue_unended (key : List Char) {value behind : List Char} (h : '}' ∉ value)
    (hends : ¬ Ends (trimLeft behind)) :
    readValue key ('{' :: (value ++ '}' :: behind)) =
      .error (syntaxError ("unexpected characters after value of ".toList ++ key)) := by
  simp only [readValue, trimLeft_brace, cut_append h]
  split
  · rename_i hnil
    exact absurd (.inl hnil) hends
  · rename_i rest hrest
    exact absurd (.inr ⟨rest, hrest⟩) hends
  · rfl

/-- A value in braces is read up to the closing brace. -/
theorem readValue_braces (key : List Char) {value rest : List Char} (h : '}' ∉ value)
    (hrest : Ends rest) : readValue key ('{' :: (value ++ '}' :: rest)) = .ok (value, rest) := by
  have hends : Ends (trimLeft rest) := by rwa [trimLeft_of_ends hrest]
  rw [readValue_closed key h hends, trimLeft_of_ends hrest]

/-- A value without braces is read up to the semicolon. -/
theorem readValue_plain (key : List Char) {value rest : List Char} (htrim : trim value = value)
    (hsemicolon : ';' ∉ value) (hbrace : value.head? ≠ some '{') (hrest : Ends rest) :
    readValue key (value ++ rest) = .ok (value, rest) := by
  have hall : ∀ c ∈ value, (c != ';') = true := by
    intro c hc
    rw [bne_iff_ne]
    rintro rfl
    exact hsemicolon hc
  have hleft : trimLeft (value ++ rest) = value ++ rest := by
    cases value with
    | nil => exact trimLeft_of_ends hrest
    | cons c cs =>
      have hc := (List.dropWhile_eq_self_iff (p := isBlank)).1 (trimLeft_of_trim htrim) (by simp)
      exact trimLeft_cons_of_not_blank _ (by simpa using hc)
  have hhead : (value ++ rest).head? ≠ some '{' := by
    cases value with
    | nil => obtain rfl | ⟨behind, rfl⟩ := hrest <;> simp
    | cons c cs => simpa using hbrace
  rw [readValue_bare (by rwa [hleft]), hleft, List.takeWhile_append_of_pos hall,
    List.dropWhile_append_of_pos hall]
  obtain rfl | ⟨behind, rfl⟩ := hrest <;> simp [htrim]

/-- The values that are read fit. -/
theorem fits_of_readValue {key cs text rest : List Char}
    (h : readValue key cs = .ok (text, rest)) : Fits text := by
  obtain ⟨inner, text', behind, -, hcut, -, hread⟩ | ⟨hbrace, hread⟩ | ⟨near, hread⟩ :=
    readValue_cases key cs
  · obtain ⟨rfl, -⟩ := Prod.mk.inj (Except.ok.inj (hread.symm.trans h))
    intro _
    exact not_mem_of_cut hcut
  · obtain ⟨rfl, -⟩ := Prod.mk.inj (Except.ok.inj (hread.symm.trans h))
    -- the text is a part of what starts without a brace and ends before the first semicolon
    have hpart := List.takeWhile_prefix (· != ';') (l := trimLeft cs)
    have hleft := trimLeft_of_prefix (trimLeft_trimLeft cs) hpart
    rintro (hsemicolon | hopening)
    · exact absurd (List.mem_takeWhile_imp (mem_of_mem_trim hsemicolon)) (by simp)
    · rw [trimLeft_trim, trim, hleft] at hopening
      obtain ⟨behind, hbehind⟩ := (prefix_trimRight _).trans hpart
      rw [← hbehind, List.head?_append, hopening] at hbrace
      exact absurd rfl hbrace
  · exact absurd (hread.symm.trans h) (by simp)

/-! ## Reading attributes -/

theorem toList_render (a : Attribute) :
    (render a).toList = a.key.toList ++ '=' ::
      if needsBraces a.value then '{' :: (a.value.toList ++ ['}']) else a.value.toList := by
  unfold render
  split <;> simp

theorem needsBraces_iff (value : String) :
    needsBraces value = true ↔ ';' ∈ value.toList ∨ value.toList.head? = some '{' := by
  simp [needsBraces]

/-- The key of an attribute is what stands in front of the first equals sign. -/
theorem readNext_key {key : List Char} (hplain : ∀ c ∈ key, c ≠ ';' ∧ c ≠ '=')
    (hnamed : trim key ≠ []) (behind : List Char) :
    readNext (key ++ '=' :: behind) = (readValue (trim key) behind).map fun (text, rest) =>
      ({ key := String.ofList (upper (trim key)), value := String.ofList text }, rest) := by
  have hsemicolon : ∀ c ∈ key, (c != ';') = true := fun c hc => by simp [(hplain c hc).1]
  have hequals : ∀ c ∈ key, (c != '=') = true := fun c hc => by simp [(hplain c hc).2]
  have hcut : ∀ behind, cut '=' (key ++ '=' :: behind) = (key, some behind) :=
    cut_append fun hmem => by simpa using hequals _ hmem
  have hdrop : (key ++ '=' :: behind).dropWhile (· != '=') = '=' :: behind := by
    rw [List.dropWhile_append_of_pos hequals]
    simp
  simp [readNext, List.takeWhile_append_of_pos hsemicolon, hcut, hnamed, hdrop]

/-- A text starts with a key and an equals sign, or it is an error. -/
theorem readNext_cases (cs : List Char) :
    (∃ key behind, cs = key ++ '=' :: behind ∧ (∀ c ∈ key, c ≠ ';' ∧ c ≠ '=') ∧ trim key ≠ []) ∨
      ∃ near, readNext cs = .error (.invalidSyntax near) := by
  rcases hcut : cut '=' (cs.takeWhile (· != ';')) with ⟨key, _ | behind⟩
  · simp only [readNext, hcut, true_or, if_true]
    exact .inr ⟨_, rfl⟩
  by_cases hnamed : trim key = []
  · simp only [readNext, hcut, hnamed, or_true, if_true]
    exact .inr ⟨_, rfl⟩
  have hsegment := cut_eq_some hcut
  refine .inl ⟨key, behind ++ cs.dropWhile (· != ';'), ?_, ?_, hnamed⟩
  · rw [← List.cons_append, ← List.append_assoc, ← hsegment, List.takeWhile_append_dropWhile]
  · intro c hc
    refine ⟨?_, fun heq => not_mem_of_cut hcut (heq ▸ hc)⟩
    have hmem : c ∈ cs.takeWhile (· != ';') := by simp [hsegment, hc]
    simpa using List.mem_takeWhile_imp hmem

/-- An attribute that is read has its value read behind its key. -/
theorem readValue_of_readNext {cs rest : List Char} {a : Attribute}
    (h : readNext cs = .ok (a, rest)) :
    ∃ key behind text, cs = key ++ '=' :: behind ∧ (∀ c ∈ key, c ≠ ';' ∧ c ≠ '=') ∧
      trim key ≠ [] ∧ readValue (trim key) behind = .ok (text, rest) ∧
      a = { key := String.ofList (upper (trim key)), value := String.ofList text } := by
  obtain ⟨key, behind, rfl, hplain, hnamed⟩ | ⟨near, herror⟩ := readNext_cases cs
  · rw [readNext_key hplain hnamed] at h
    cases hvalue : readValue (trim key) behind with
    | error e => simp [hvalue, Except.map] at h
    | ok r =>
      obtain ⟨text, rest'⟩ := r
      simp only [hvalue, Except.map, Except.ok.injEq, Prod.mk.injEq] at h
      obtain ⟨rfl, rfl⟩ := h
      exact ⟨key, behind, text, rfl, hplain, hnamed, hvalue, rfl⟩
  · exact absurd (herror.symm.trans h) (by simp)

/-- A written attribute is read back. -/
theorem readNext_render {a : Attribute} (h : Readable a) {rest : List Char} (hrest : Ends rest) :
    readNext ((render a).toList ++ rest) = .ok (a, rest) := by
  have hvalue : readValue a.key.toList ((if needsBraces a.value then
      '{' :: (a.value.toList ++ ['}']) else a.value.toList) ++ rest) =
      .ok (a.value.toList, rest) := by
    by_cases hbraces : needsBraces a.value = true
    · have hclosing : '}' ∉ a.value.toList := h.value.fits (by
        rw [trimLeft_of_trim h.value.trimmed]
        exact (needsBraces_iff _).1 hbraces)
      rw [if_pos hbraces]
      simpa using readValue_braces a.key.toList hclosing hrest
    · rw [if_neg hbraces]
      rw [needsBraces_iff, not_or] at hbraces
      exact readValue_plain _ h.value.trimmed hbraces.1 hbraces.2 hrest
  obtain ⟨hne, hkey⟩ := h.key
  have htrim : trim a.key.toList = a.key.toList :=
    trim_of_no_blank fun c hc => (hkey c hc).2.2.1
  have hupper : upper a.key.toList = a.key.toList :=
    (List.map_congr_left fun c hc => (hkey c hc).2.2.2).trans (List.map_id _)
  have hplain : ∀ c ∈ a.key.toList, c ≠ ';' ∧ c ≠ '=' :=
    fun c hc => ⟨(hkey c hc).1, (hkey c hc).2.1⟩
  rw [toList_render, List.append_assoc, List.cons_append,
    readNext_key hplain (by rwa [htrim]), htrim, hvalue, hupper]
  simp only [Except.map, String.ofList_toList]

theorem fits_of_readNext {cs rest : List Char} {a : Attribute} (h : readNext cs = .ok (a, rest)) :
    Fits a.value.toList := by
  obtain ⟨key, behind, text, -, -, -, hvalue, rfl⟩ := readValue_of_readNext h
  rw [String.toList_ofList]
  exact fits_of_readValue hvalue

/-! ## Reading connection strings -/

/-- A text is read attribute by attribute: `done` is what is left when only separators are, `next`
is an attribute in front of the rest, and the other two cases are the errors of either. -/
theorem parseChars_induct {motive : List Char → Except ConfigError (List Attribute) → Prop}
    (done : ∀ {cs}, cs.dropWhile isSeparator = [] → motive cs (.ok []))
    (next : ∀ {cs c rest a behind as}, cs.dropWhile isSeparator = c :: rest →
      readNext (c :: rest) = .ok (a, behind) → motive behind (.ok as) → motive cs (.ok (a :: as)))
    (fails : ∀ {cs c rest e}, cs.dropWhile isSeparator = c :: rest →
      readNext (c :: rest) = .error e → motive cs (.error e))
    (fails_behind : ∀ {cs c rest a behind e}, cs.dropWhile isSeparator = c :: rest →
      readNext (c :: rest) = .ok (a, behind) → motive behind (.error e) → motive cs (.error e))
    (cs : List Char) : motive cs (parseChars cs) := by
  rw [parseChars_eq]
  split
  · rename_i hcs
    exact done hcs
  · rename_i c rest hcs
    split
    · rename_i e hnext
      exact fails hcs hnext
    · rename_i a behind hnext
      have hlt := length_behind_lt hcs hnext
      have ih := parseChars_induct done next fails fails_behind behind
      cases hbehind : parseChars behind with
      | error e => exact fails_behind hcs hnext (hbehind ▸ ih)
      | ok as => exact next hcs hnext (hbehind ▸ ih)
termination_by cs.length

theorem fits_of_parseChars (cs : List Char) :
    ∀ as, parseChars cs = .ok as → ∀ a ∈ as, Fits a.value.toList := by
  refine parseChars_induct (motive := fun _ result =>
    ∀ as, result = .ok as → ∀ a ∈ as, Fits a.value.toList) ?done ?next ?fails ?fails_behind cs
  case done =>
    rintro cs - as ⟨⟩
    simp
  case next =>
    rintro cs c rest a behind as - hnext ih _ ⟨⟩
    simpa using ⟨fits_of_readNext hnext, ih as rfl⟩
  case fails =>
    rintro cs c rest e - - as ⟨⟩
  case fails_behind =>
    rintro cs c rest a behind e - - - as ⟨⟩

/-- The values of a connection string fit. -/
theorem fits_of_parseAll {s : String} {as : List Attribute} (h : parseAll s = .ok as) :
    ∀ a ∈ as, Fits a.value.toList := fits_of_parseChars s.toList as h

theorem parseChars_nil : parseChars [] = .ok [] := by
  rw [parseChars_eq]
  rfl

theorem parseChars_semicolon (cs : List Char) : parseChars (';' :: cs) = parseChars cs := by
  rw [parseChars_eq, parseChars_eq cs, List.dropWhile_cons_of_pos (by decide)]

theorem parseChars_render {a : Attribute} (h : Readable a) {rest : List Char} (hrest : Ends rest) :
    parseChars ((render a).toList ++ rest) = (parseChars rest).map (a :: ·) := by
  have hnext := readNext_render h hrest
  obtain ⟨hne, hkey⟩ := h.key
  obtain ⟨c, key, hcs⟩ := List.exists_cons_of_ne_nil hne
  have hc := hkey c (by simp [hcs])
  rw [toList_render, hcs] at hnext ⊢
  rw [parseChars_eq, List.cons_append, List.cons_append, List.dropWhile_cons_of_neg]
  · dsimp only
    rw [List.cons_append, List.cons_append] at hnext
    rw [hnext]
  · simp [isSeparator, hc.1, hc.2.2.1]

/-- **Connection strings.**  What is written is read back. -/
theorem parseAll_renderAll (as : List Attribute) (h : ∀ a ∈ as, Readable a) :
    parseAll (renderAll as) = .ok as := by
  unfold parseAll renderAll
  induction as with
  | nil =>
    exact parseChars_nil
  | cons a as ih =>
    have ha := h a (by simp)
    have has := ih fun a' ha' => h a' (by simp [ha'])
    rw [List.map_cons]
    cases as with
    | nil =>
      have hone := parseChars_render ha (.inl rfl : Ends [])
      rw [List.append_nil] at hone
      rw [List.map_nil, String.intercalate_singleton, hone, parseChars_nil]
      rfl
    | cons b bs =>
      have hends : Ends (';' :: (";".intercalate ((b :: bs).map render)).toList) := .inr ⟨_, rfl⟩
      have hmore := parseChars_render ha hends
      rw [parseChars_semicolon, has] at hmore
      rw [String.intercalate_cons_of_ne_nil (by simp), String.toList_append, String.toList_append,
        List.append_assoc]
      exact hmore

end SqlSession.Attribute
