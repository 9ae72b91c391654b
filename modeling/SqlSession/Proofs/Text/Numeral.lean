import SqlSession.Proofs.Text.Blank
import SqlSession.Text.Numeral
/-!
# Numerals and the numbers they stand for

A text is read as a number exactly if it is a `Numeral` of it.  The text of a number in decimal
digits is one, and holds digits only.

* `readNatural_eq_some_iff`, `readInteger_eq_some_iff`, `readUInt16_eq_some_iff` and its siblings:
  which texts are read.
* `readUInt16_toString` and its siblings: a number is read back.
-/

namespace SqlSession.Text

/-- Decimal digits, at least one, that stand for a number. -/
def Digits (cs : List Char) (n : Nat) : Prop :=
  cs ≠ [] ∧ (∀ c ∈ cs, c.isDigit = true) ∧ Nat.ofDigitChars 10 cs 0 = n

/-- Decimal digits behind an optional plus sign. -/
def Numeral (cs : List Char) (n : Nat) : Prop :=
  ∃ digits, (cs = digits ∨ cs = '+' :: digits) ∧ Digits digits n

/-- Decimal digits behind an optional sign. -/
def SignedNumeral (cs : List Char) (n : Int) : Prop :=
  (∃ m : Nat, Numeral cs m ∧ n = m) ∨
    ∃ (digits : List Char) (m : Nat), cs = '-' :: digits ∧ Digits digits m ∧ n = -(m : Int)

/-! ## Digits -/

theorem digitValue_of_isDigit {c : Char} (h : c.isDigit = true) :
    digitValue? 10 c = some (c.toNat - '0'.toNat) := by
  simp only [Char.isDigit, Bool.and_eq_true, decide_eq_true_eq] at h
  obtain ⟨hlow, hhigh⟩ := h
  have hrange : '0' ≤ c ∧ c ≤ '9' := ⟨hlow, hhigh⟩
  have hvalue : c.toNat - '0'.toNat < 10 := by
    have hle : c.toNat ≤ 57 := hhigh
    show c.toNat - 48 < 10
    omega
  simp only [digitValue?, hrange, and_self, if_true, hvalue]

theorem isDigit_of_digitValue {c : Char} {d : Nat} (h : digitValue? 10 c = some d) :
    c.isDigit = true := by
  by_cases hdigit : '0' ≤ c ∧ c ≤ '9'
  · simp only [Char.isDigit, Bool.and_eq_true, decide_eq_true_eq]
    exact hdigit
  · -- a letter stands for ten or more
    simp only [digitValue?, if_neg hdigit, Option.ite_none_right_eq_some] at h
    obtain ⟨hlt, -⟩ := h
    split at hlt
    · omega
    · split at hlt <;> omega

theorem appendDigits_of_isDigit (cs : List Char) (n : Nat) (h : ∀ c ∈ cs, c.isDigit = true) :
    appendDigits 10 n cs = some (Nat.ofDigitChars 10 cs n) := by
  induction cs generalizing n with
  | nil => simp [appendDigits]
  | cons c cs ih =>
    rw [appendDigits, digitValue_of_isDigit (h c (by simp)), Option.bind_some,
      ih _ fun c' hc' => h c' (by simp [hc']), Nat.ofDigitChars_cons]

theorem isDigit_of_appendDigits {cs : List Char} {m n : Nat} (h : appendDigits 10 m cs = some n) :
    ∀ c ∈ cs, c.isDigit = true := by
  induction cs generalizing m with
  | nil => simp
  | cons c cs ih =>
    obtain ⟨d, hd, hcs⟩ := Option.bind_eq_some_iff.1 h
    exact List.forall_mem_cons.2 ⟨isDigit_of_digitValue hd, ih hcs⟩

theorem readDigits_eq_some_iff (cs : List Char) (n : Nat) :
    readDigits 10 cs = some n ↔ Digits cs n := by
  cases cs with
  | nil => simp [readDigits, Digits]
  | cons c cs =>
    rw [readDigits]
    constructor
    · intro h
      have hall := isDigit_of_appendDigits h
      rw [appendDigits_of_isDigit _ _ hall] at h
      exact ⟨by simp, hall, Option.some.inj h⟩
    · rintro ⟨-, hall, rfl⟩
      exact appendDigits_of_isDigit _ _ hall

/-! ## Numerals -/

theorem readNatural_eq_some_iff (cs : List Char) (n : Nat) :
    readNatural cs = some n ↔ Numeral cs n := by
  have hplus : ∀ digits, ¬ Digits ('+' :: digits) n := by
    rintro digits ⟨-, hall, -⟩
    exact absurd (hall '+' (by simp)) (by decide)
  unfold readNatural Numeral
  split
  · rename_i digits
    rw [readDigits_eq_some_iff]
    constructor
    · intro h
      exact ⟨digits, .inr rfl, h⟩
    · rintro ⟨digits', rfl | hdigits, h⟩
      · exact absurd h (hplus digits)
      · obtain rfl : digits = digits' := (List.cons.inj hdigits).2
        exact h
  · rename_i hsign
    rw [readDigits_eq_some_iff]
    constructor
    · intro h
      exact ⟨cs, .inl rfl, h⟩
    · rintro ⟨digits, rfl | rfl, h⟩
      · exact h
      · exact absurd rfl (hsign digits)

/-- A numeral is made of digits and a sign. -/
theorem mem_numeral {cs : List Char} {n : Nat} (h : Numeral cs n) {c : Char} (hc : c ∈ cs) :
    c = '+' ∨ c.isDigit = true := by
  obtain ⟨digits, rfl | rfl, -, hall, -⟩ := h
  · exact .inr (hall c hc)
  · rcases List.mem_cons.1 hc with rfl | hc
    · exact .inl rfl
    · exact .inr (hall c hc)

theorem readInteger_minus (digits : List Char) :
    readInteger ('-' :: digits) = (readDigits 10 digits).map fun m : Nat => -(m : Int) := by
  rw [readInteger]
  cases readDigits 10 digits <;> rfl

theorem readInteger_of_head_ne {cs : List Char} (h : ∀ digits, cs ≠ '-' :: digits) :
    readInteger cs = (readNatural cs).map Int.ofNat := by
  unfold readInteger
  split
  · rename_i digits
    exact absurd rfl (h digits)
  · rfl

theorem not_numeral_minus (digits : List Char) (n : Nat) : ¬ Numeral ('-' :: digits) n := by
  intro h
  rcases mem_numeral h List.mem_cons_self with hplus | hdigit
  · exact absurd hplus (by decide)
  · exact absurd hdigit (by decide)

theorem readInteger_eq_some_iff (cs : List Char) (n : Int) :
    readInteger cs = some n ↔ SignedNumeral cs n := by
  unfold SignedNumeral
  by_cases hminus : ∃ digits, cs = '-' :: digits
  · obtain ⟨digits, rfl⟩ := hminus
    rw [readInteger_minus, Option.map_eq_some_iff]
    simp only [readDigits_eq_some_iff]
    constructor
    · rintro ⟨m, hm, rfl⟩
      exact .inr ⟨digits, m, rfl, hm, rfl⟩
    · rintro (⟨m, hm, -⟩ | ⟨digits', m, hcs, hm, rfl⟩)
      · exact absurd hm (not_numeral_minus digits m)
      · obtain rfl : digits = digits' := (List.cons.inj hcs).2
        exact ⟨m, hm, rfl⟩
  · rw [not_exists] at hminus
    rw [readInteger_of_head_ne hminus, Option.map_eq_some_iff]
    simp only [readNatural_eq_some_iff]
    constructor
    · rintro ⟨m, hm, rfl⟩
      exact .inl ⟨m, hm, rfl⟩
    · rintro (⟨m, hm, rfl⟩ | ⟨digits, m, hcs, -, -⟩)
      · exact ⟨m, hm, rfl⟩
      · exact absurd hcs (hminus digits)

theorem mem_signedNumeral {cs : List Char} {n : Int} (h : SignedNumeral cs n) {c : Char}
    (hc : c ∈ cs) : c = '+' ∨ c = '-' ∨ c.isDigit = true := by
  obtain ⟨m, hm, -⟩ | ⟨digits, m, rfl, ⟨-, hall, -⟩, -⟩ := h
  · exact (mem_numeral hm hc).imp_right .inr
  · rcases List.mem_cons.1 hc with rfl | hc
    · exact .inr (.inl rfl)
    · exact .inr (.inr (hall c hc))

/-- Numbers of a fixed size are read from the numerals of those that fit. -/
theorem readSized_eq_some_iff {α : Type} {limit : Nat} {ofNat : Nat → α} {toNat : α → Nat}
    (hlt : ∀ v, toNat v < limit) (hof : ∀ v, ofNat (toNat v) = v)
    (hto : ∀ n < limit, toNat (ofNat n) = n) (cs : List Char) (v : α) :
    (readBelow limit cs).map ofNat = some v ↔ Numeral cs (toNat v) := by
  rw [Option.map_eq_some_iff, readBelow]
  simp only [Option.filter_eq_some_iff, readNatural_eq_some_iff, decide_eq_true_eq]
  constructor
  · rintro ⟨n, ⟨h, hn⟩, rfl⟩
    rwa [hto n hn]
  · intro h
    exact ⟨toNat v, ⟨h, hlt v⟩, hof v⟩

theorem readUInt16_eq_some_iff (cs : List Char) (v : UInt16) :
    readUInt16 cs = some v ↔ Numeral cs v.toNat :=
  readSized_eq_some_iff UInt16.toNat_lt_size (fun _ => UInt16.ofNat_toNat)
    (fun _ => UInt16.toNat_ofNat_of_lt) cs v

theorem readUInt32_eq_some_iff (cs : List Char) (v : UInt32) :
    readUInt32 cs = some v ↔ Numeral cs v.toNat :=
  readSized_eq_some_iff UInt32.toNat_lt_size (fun _ => UInt32.ofNat_toNat)
    (fun _ => UInt32.toNat_ofNat_of_lt) cs v

theorem readUInt64_eq_some_iff (cs : List Char) (v : UInt64) :
    readUInt64 cs = some v ↔ Numeral cs v.toNat :=
  readSized_eq_some_iff UInt64.toNat_lt_size (fun _ => UInt64.ofNat_toNat)
    (fun _ => UInt64.toNat_ofNat_of_lt) cs v

/-! ## The text of a number -/

theorem isDigit_of_mem_toString {n : Nat} {c : Char} (h : c ∈ (toString n).toList) :
    c.isDigit = true := by
  rw [show toString n = n.repr from rfl, Nat.toList_repr] at h
  exact Nat.isDigit_of_mem_toDigits (by decide) (by decide) h

theorem digits_toString (n : Nat) : Digits (toString n).toList n := by
  have hdigits : (toString n).toList = Nat.toDigits 10 n := by
    rw [show toString n = n.repr from rfl, Nat.toList_repr]
  refine ⟨?_, fun c => isDigit_of_mem_toString, ?_⟩
  · rw [hdigits]
    exact Nat.toDigits_ne_nil
  · rw [hdigits, Nat.ofDigitChars_ten_toDigits]

theorem numeral_toString (n : Nat) : Numeral (toString n).toList n :=
  ⟨_, .inl rfl, digits_toString n⟩

theorem signedNumeral_toString (n : Int) : SignedNumeral (toString n).toList n := by
  cases n with
  | ofNat n => exact .inl ⟨n, numeral_toString n, rfl⟩
  | negSucc n =>
    have hsign : (toString (Int.negSucc n)).toList = '-' :: (toString (n + 1)).toList :=
      String.toList_append
    exact .inr ⟨_, n + 1, hsign, digits_toString (n + 1), rfl⟩

theorem readUInt16_toString (n : UInt16) : readUInt16 (toString n.toNat).toList = some n :=
  (readUInt16_eq_some_iff _ n).2 (numeral_toString n.toNat)

theorem readUInt32_toString (n : UInt32) : readUInt32 (toString n.toNat).toList = some n :=
  (readUInt32_eq_some_iff _ n).2 (numeral_toString n.toNat)

theorem readUInt64_toString (n : UInt64) : readUInt64 (toString n.toNat).toList = some n :=
  (readUInt64_eq_some_iff _ n).2 (numeral_toString n.toNat)

theorem not_isBlank_of_isDigit {c : Char} (h : c.isDigit = true) : isBlank c = false := by
  simp only [Char.isDigit, Bool.and_eq_true, decide_eq_true_eq] at h
  have hlow : 48 ≤ c.toNat := h.1
  have hhigh : c.toNat ≤ 57 := h.2
  simp only [isBlank, blankRanges, List.any_cons, List.any_nil, Bool.or_false, Bool.or_eq_false_iff,
    Bool.and_eq_false_iff, decide_eq_false_iff_not]
  omega

theorem trim_numeral {cs : List Char} {n : Nat} (h : Numeral cs n) : trim cs = cs := by
  refine trim_of_no_blank fun c hc => ?_
  rcases mem_numeral h hc with rfl | hdigit
  · decide
  · exact not_isBlank_of_isDigit hdigit

end SqlSession.Text
