import Mathlib.Data.List.DropRight
import SqlSession.Text.Blank
/-!
# Trimmed texts

Trimming takes nothing but blanks, and a second time it takes nothing.

* `trim_trim`: a trimmed text stays as it is.
* `trimLeft_of_trim`: a trimmed text has no blank in front.
* `trim_of_no_blank`: a text without blanks is trimmed.
* `Padded`: blanks around a text, which is what trimming takes off (`exists_padded_iff`).
* `trim_upper`: capitals are trimmed as the letters they stand for.
* `fields_append`, `fields_eq_cons`: a text is its fields with separators between them.
-/

namespace SqlSession.Text

theorem trimLeft_cons_of_not_blank {c : Char} (cs : List Char) (h : isBlank c = false) :
    trimLeft (c :: cs) = c :: cs := by
  simp [trimLeft, h]

/-- A part from the front of a text without a blank in front has none either. -/
theorem trimLeft_of_prefix {cs part : List Char} (h : trimLeft cs = cs) (hpart : part <+: cs) :
    trimLeft part = part := by
  obtain ⟨behind, rfl⟩ := hpart
  cases part with
  | nil => rfl
  | cons c rest =>
    have hhead := (List.dropWhile_eq_self_iff (p := isBlank)).1 h (by simp)
    exact trimLeft_cons_of_not_blank rest (by simpa using hhead)

theorem prefix_trimRight (cs : List Char) : trimRight cs <+: cs := List.rdropWhile_prefix isBlank cs

theorem trimLeft_trimLeft (cs : List Char) : trimLeft (trimLeft cs) = trimLeft cs :=
  List.dropWhile_idempotent isBlank cs

theorem trimLeft_trim (cs : List Char) : trimLeft (trim cs) = trim cs :=
  trimLeft_of_prefix (trimLeft_trimLeft cs) (prefix_trimRight _)

@[simp] theorem trim_trim (cs : List Char) : trim (trim cs) = trim cs := by
  show trimRight (trimLeft (trim cs)) = trim cs
  rw [trimLeft_trim]
  exact List.rdropWhile_idempotent isBlank (trimLeft cs)

theorem trimLeft_of_trim {cs : List Char} (h : trim cs = cs) : trimLeft cs = cs := by
  rw [← h]
  exact trimLeft_trim cs

theorem trim_sublist (cs : List Char) : (trim cs).Sublist cs :=
  (prefix_trimRight (trimLeft cs)).sublist.trans (List.dropWhile_sublist isBlank)

theorem mem_of_mem_trim {cs : List Char} {c : Char} (h : c ∈ trim cs) : c ∈ cs :=
  (trim_sublist cs).mem h

theorem trim_of_no_blank {cs : List Char} (h : ∀ c ∈ cs, isBlank c = false) : trim cs = cs := by
  have hleft : trimLeft cs = cs := by
    cases cs with
    | nil => rfl
    | cons c rest => exact trimLeft_cons_of_not_blank rest (h c (by simp))
  show trimRight (trimLeft cs) = cs
  rw [hleft]
  exact List.rdropWhile_eq_self_iff.2 fun hne => by simp [h _ (List.getLast_mem hne)]

theorem trim_trimLeft (cs : List Char) : trim (trimLeft cs) = trim cs := by
  rw [trim, trimLeft_trimLeft, ← trim]

theorem trimLeft_ne_nil {cs : List Char} (h : trim cs ≠ []) : trimLeft cs ≠ [] := by
  intro hempty
  rw [← trim_trimLeft, hempty] at h
  exact h rfl

/-- Padding behind a text is trimmed. -/
theorem trim_append_blanks (cs : List Char) {blanks : List Char}
    (h : ∀ c ∈ blanks, isBlank c = true) : trim (cs ++ blanks) = trim cs := by
  have hright : ∀ text, trimRight (text ++ blanks) = trimRight text := by
    intro text
    have hall : ∀ c ∈ blanks.reverse, isBlank c = true := fun c hc => h c (List.mem_reverse.1 hc)
    rw [trimRight, List.reverse_append, List.dropWhile_append_of_pos hall, ← trimRight]
  unfold trim trimLeft
  rw [List.dropWhile_append]
  split
  · rename_i hcs
    rw [List.isEmpty_iff.1 hcs, List.dropWhile_eq_nil_iff.2 h]
  · exact hright _

/-! ## Padding -/

/-- A text with blanks in front of it and behind it. -/
def Padded (cs text : List Char) : Prop :=
  ∃ before behind, cs = before ++ (text ++ behind) ∧ (∀ c ∈ before, isBlank c = true) ∧
    ∀ c ∈ behind, isBlank c = true

theorem padded_self (cs : List Char) : Padded cs cs := ⟨[], [], by simp⟩

theorem padded_trim (cs : List Char) : Padded cs (trim cs) := by
  have hfront : cs.takeWhile isBlank ++ trimLeft cs = cs := List.takeWhile_append_dropWhile
  obtain ⟨behind, hbehind⟩ := prefix_trimRight (trimLeft cs)
  refine ⟨cs.takeWhile isBlank, behind, ?_, fun c hc => List.mem_takeWhile_imp hc, ?_⟩
  · rw [trim, hbehind, hfront]
  · -- what is taken off the end are the blanks that the reversed text starts with
    have hsplit : trimRight (trimLeft cs) ++
        ((trimLeft cs).reverse.takeWhile isBlank).reverse = trimLeft cs := by
      rw [trimRight, ← List.reverse_append, List.takeWhile_append_dropWhile, List.reverse_reverse]
    intro c hc
    rw [List.append_cancel_left (hbehind.trans hsplit.symm)] at hc
    exact List.mem_takeWhile_imp (List.mem_reverse.1 hc)

theorem trim_of_padded {cs text : List Char} (h : Padded cs text) : trim cs = trim text := by
  obtain ⟨before, behind, rfl, hbefore, hbehind⟩ := h
  rw [← trim_trimLeft, trimLeft, List.dropWhile_append_of_pos hbefore, ← trimLeft, trim_trimLeft,
    trim_append_blanks text hbehind]

/-- A text pads one of a kind that has no blanks at its ends exactly if it is of that kind once it
is trimmed. -/
theorem exists_padded_iff {p : List Char → Prop} (htrim : ∀ text, p text → trim text = text)
    (cs : List Char) : (∃ text, Padded cs text ∧ p text) ↔ p (trim cs) := by
  constructor
  · rintro ⟨text, hpadded, htext⟩
    rwa [trim_of_padded hpadded, htrim text htext]
  · intro h
    exact ⟨trim cs, padded_trim cs, h⟩

/-! ## Capitals -/

/-- A small letter is moved by 32, and no other character changes. -/
theorem toUpper_cases (c : Char) :
    c.toUpper = c ∨ 97 ≤ c.toNat ∧ c.toNat ≤ 122 ∧ c.toUpper.toNat = c.toNat - 32 := by
  unfold Char.toUpper
  split
  · rename_i h
    have hlow : 97 ≤ c.val.toNat := h.1
    have hhigh : c.val.toNat ≤ 122 := h.2
    have hshift : ('A'.val - 'a'.val).toNat = 4294967264 := rfl
    refine .inr ⟨hlow, hhigh, ?_⟩
    show (c.val + ('A'.val - 'a'.val)).toNat = c.val.toNat - 32
    rw [UInt32.toNat_add, hshift]
    omega
  · exact .inl rfl

@[simp] theorem isBlank_toUpper (c : Char) : isBlank c.toUpper = isBlank c := by
  obtain hself | ⟨hlow, hhigh, hcapital⟩ := toUpper_cases c
  · rw [hself]
  · rw [Bool.eq_iff_iff]
    simp only [isBlank, blankRanges, List.any_cons, List.any_nil, Bool.or_false, Bool.or_eq_true,
      Bool.and_eq_true, decide_eq_true_eq]
    omega

theorem trim_upper (cs : List Char) : trim (upper cs) = upper (trim cs) := by
  have hblank : isBlank ∘ Char.toUpper = isBlank := funext isBlank_toUpper
  simp only [trim, trimLeft, trimRight, upper, List.dropWhile_map, hblank, ← List.map_reverse]

@[simp] theorem upper_upper (cs : List Char) : upper (upper cs) = upper cs := by
  have htwice : ∀ c : Char, c.toUpper.toUpper = c.toUpper := by
    intro c
    obtain hself | ⟨-, hhigh, hcapital⟩ := toUpper_cases c
    · rw [hself, hself]
    · obtain hself | ⟨hlow, -⟩ := toUpper_cases c.toUpper
      · exact hself
      · omega
  simp [upper, htwice]

/-- Only capitals come in. -/
theorem mem_of_mem_upper {cs : List Char} {c : Char} (hc : c ∈ upper cs)
    (h : c.isUpper = false) : c ∈ cs := by
  obtain ⟨c', hc', rfl⟩ := List.mem_map.1 hc
  obtain hself | ⟨hlow, hhigh, hcapital⟩ := toUpper_cases c'
  · rw [hself]
    exact hc'
  · have hcapital' : c'.toUpper.isUpper = true := by
      refine decide_eq_true ?_
      show 65 ≤ c'.toUpper.toNat ∧ c'.toUpper.toNat ≤ 90
      omega
    simp [hcapital'] at h

/-! ## Fields -/

theorem fields_sep (sep : Char) (cs : List Char) : fields sep (sep :: cs) = [] :: fields sep cs :=
  if_pos rfl

/-- A character that is no separator belongs to the first field. -/
theorem fields_cons_of_ne {sep c : Char} {cs field : List Char} {others : List (List Char)}
    (hc : c ≠ sep) (h : fields sep cs = field :: others) :
    fields sep (c :: cs) = (c :: field) :: others := by
  rw [fields_cons, h]
  exact if_neg hc

/-- A text without a separator is one field. -/
theorem fields_of_not_mem {sep : Char} {cs : List Char} (h : sep ∉ cs) : fields sep cs = [cs] := by
  induction cs with
  | nil => rfl
  | cons c cs ih =>
    rw [List.mem_cons, not_or] at h
    exact fields_cons_of_ne (Ne.symm h.1) (ih h.2)

/-- The first field ends at the first separator. -/
theorem fields_append {sep : Char} {front : List Char} (h : sep ∉ front) (behind : List Char) :
    fields sep (front ++ sep :: behind) = front :: fields sep behind := by
  induction front with
  | nil => exact fields_sep sep behind
  | cons c front ih =>
    rw [List.mem_cons, not_or] at h
    exact fields_cons_of_ne (Ne.symm h.1) (ih h.2)

/-- A text is its first field, and the others behind a separator. -/
theorem fields_eq_cons {sep : Char} {cs field : List Char} {others : List (List Char)}
    (h : fields sep cs = field :: others) :
    sep ∉ field ∧ (others = [] ∧ cs = field ∨
      ∃ behind, cs = field ++ sep :: behind ∧ fields sep behind = others) := by
  induction cs generalizing field others with
  | nil =>
    obtain ⟨rfl, rfl⟩ := List.cons.inj h
    simp
  | cons c cs ih =>
    by_cases hc : c = sep
    · subst hc
      obtain ⟨rfl, rfl⟩ := List.cons.inj ((fields_sep c cs).symm.trans h)
      exact ⟨by simp, .inr ⟨cs, rfl, rfl⟩⟩
    · -- the first field of the rest goes on with the character
      obtain ⟨first, rest, hfields⟩ := List.exists_cons_of_ne_nil (fields_ne_nil sep cs)
      obtain ⟨rfl, rfl⟩ := List.cons.inj ((fields_cons_of_ne hc hfields).symm.trans h)
      obtain ⟨hfirst, ⟨rfl, rfl⟩ | ⟨behind, rfl, hbehind⟩⟩ := ih hfields
      · exact ⟨by simp [Ne.symm hc, hfirst], .inl ⟨rfl, rfl⟩⟩
      · exact ⟨by simp [Ne.symm hc, hfirst], .inr ⟨behind, rfl, hbehind⟩⟩

end SqlSession.Text
