import SqlSession.Proofs.Text.Numeral
import SqlSession.Proofs.Yaml.Scalar
/-!
# Numbers as plain scalars

The text of a number in decimal digits stands on one line without quotes, and it is read as the
number: it has no zeros in front, which would make it none, and no mark of another base.

* `legible_number`: such a text is legible.
* `readNumber?_toString`: it is read back.
-/

namespace SqlSession.Yaml

open Text

variable {cs : List Char}

theorem visible_of_isDigit {c : Char} (h : c.isDigit = true) : Visible c := by
  simp only [Char.isDigit, Bool.and_eq_true, decide_eq_true_eq] at h
  have hlow : 48 ≤ c.toNat := h.1
  have hhigh : c.toNat ≤ 57 := h.2
  exact ⟨by omega, by omega⟩

/-- Digits are no other characters. -/
theorem ne_of_isDigit {c d : Char} (h : c.isDigit = true) (hd : d.isDigit = false) : c ≠ d := by
  rintro rfl
  rw [h] at hd
  exact absurd hd (by decide)

section

variable (h : ∀ c ∈ cs, c.isDigit = true)

include h

/-- Digits do not start or end with a space. -/
theorem touches_of_isDigit : touches (fun c => decide (c = ' ')) cs = false := by
  have hspace : ∀ edge : Option Char, (∀ c ∈ edge, c ∈ cs) →
      edge.any (fun c => decide (c = ' ')) = false := by
    rintro (- | c) hc
    · rfl
    · exact decide_eq_false (ne_of_isDigit (h c (hc c rfl)) (by decide))
  rw [touches, hspace _ fun c hc => List.mem_of_head? hc,
    hspace _ fun c hc => List.mem_of_getLast? hc]
  rfl

/-- Digits hold no mark. -/
theorem hasMark_of_isDigit : hasMark cs = false := by
  have hother : ∀ {c}, c ∈ cs → ∀ d : Char, d.isDigit = false → c ≠ d :=
    fun hc d hd => ne_of_isDigit (h _ hc) hd
  have hpairs : anyPair (fun a b => (a = ':' && isGap b) || (isGap a && b = '#')) cs = false := by
    refine anyPair_eq_false fun a ha b hb => ?_
    rw [decide_eq_false (hother ha ':' (by decide)), decide_eq_false (hother hb '#' (by decide)),
      Bool.false_and, Bool.and_false]
    rfl
  have hcolon : cs.getLast? ≠ some ':' := fun hlast =>
    hother (List.mem_of_getLast? hlast) ':' (by decide) rfl
  cases cs with
  | nil => rfl
  | cons c cs =>
    have hc := fun d => hother List.mem_cons_self d
    have hopening : openingMarks.contains c = false := by
      have hmarks : (openingMarks.all fun d => !d.isDigit) = true := by decide
      rw [Bool.eq_false_iff, ne_eq, List.contains_iff_mem]
      intro hmem
      exact hc c ((Bool.not_eq_true' _).mp (List.all_eq_true.1 hmarks c hmem)) rfl
    unfold openingMarks at hopening
    unfold hasMark
    dsimp only
    rw [hopening, hpairs, beq_eq_false_iff_ne.2 hcolon]
    simp [hc '?' (by decide), hc ':' (by decide), hc '-' (by decide), hc '.' (by decide)]

/-- Digits need no quotes. -/
theorem fitsPlain_of_isDigit : fitsPlain cs = true := by
  have hvisible : ∀ c ∈ cs, Visible c := fun c hc => visible_of_isDigit (h c hc)
  rw [fitsPlain, fitsSingleQuotes_of_visible hvisible, any_isBreak hvisible, touches_of_isDigit h,
    hasMark_of_isDigit h]
  rfl

end

theorem legible_ofWord {text : String} (hvisible : VisibleText text) (hne : text.toList ≠ [])
    (hfits : fitsPlain text.toList = true) :
    (Scalar.ofWord text).Legible :=
  { visible := hvisible, untagged := rfl, style := .inl ⟨rfl, hne, hfits⟩ }

/-- **Writing.**  A number is written as it stands. -/
theorem legible_number (n : Nat) : (Scalar.ofWord (toString n)).Legible := by
  obtain ⟨hne, hdigits, -⟩ := digits_toString n
  exact legible_ofWord (fun c hc => visible_of_isDigit (hdigits c hc)) hne
    (fitsPlain_of_isDigit hdigits)

/-! ## Reading -/

/-- The digits of a number have no zero in front. -/
theorem head?_toDigits {n : Nat} (h : n ≠ 0) : (Nat.toDigits 10 n).head? ≠ some '0' := by
  induction n using Nat.strongRecOn with
  | ind n ih =>
    by_cases hsmall : n < 10
    · rw [Nat.toDigits_of_lt_base hsmall]
      have hdigit : ∀ d < 10, d ≠ 0 → Nat.digitChar d ≠ '0' := by decide
      simpa using hdigit n hsmall h
    · have hpos : 0 < n / 10 := by omega
      have hsplit := Nat.toDigits_append_toDigits (b := 10) (by decide) hpos
        (Nat.mod_lt n (by decide))
      rw [Nat.div_add_mod] at hsplit
      rw [← hsplit, List.head?_append_of_ne_nil _ Nat.toDigits_ne_nil]
      exact ih (n / 10) (by omega) (by omega)

theorem withoutPlus_of_isDigit (h : ∀ c ∈ cs, c.isDigit = true) : withoutPlus cs = cs := by
  unfold withoutPlus
  split
  · exact absurd (h '+' (by simp)) (by decide)
  · rfl

theorem hasLeadingZeros_toString (n : Nat) : hasLeadingZeros (toString n).toList = false := by
  have hdigits := (digits_toString n).2.1
  have hrepr : (toString n).toList = Nat.toDigits 10 n := Nat.toList_repr
  unfold hasLeadingZeros
  split
  · rename_i heq
    rw [heq] at hdigits
    exact absurd (hdigits '-' List.mem_cons_self) (by decide)
  · dsimp only
    rw [withoutPlus_of_isDigit hdigits, hrepr]
    by_cases hzero : n = 0
    · rw [hzero]
      rfl
    · rw [beq_eq_false_iff_ne.2 (head?_toDigits hzero), Bool.and_false, Bool.false_and]

theorem readBased?_of_isDigit (h : ∀ c ∈ cs, c.isDigit = true) : readBased? cs = none := by
  unfold readBased?
  split
  · exact absurd (h 'x' (by simp)) (by decide)
  · exact absurd (h 'o' (by simp)) (by decide)
  · exact absurd (h 'b' (by simp)) (by decide)
  · rfl

/-- **Reading.**  The text of a number below the limit is read as the number. -/
theorem readNumber?_toString {limit n : Nat} (h : n < limit) :
    readNumber? limit (toString n) = some n := by
  obtain ⟨hne, hdigits, hvalue⟩ := digits_toString n
  have hread : readDigits 10 (toString n).toList = some n :=
    (readDigits_eq_some_iff _ n).2 (digits_toString n)
  unfold readNumber?
  dsimp only
  rw [withoutPlus_of_isDigit hdigits, readBased?_of_isDigit hdigits]
  dsimp only
  rw [hasLeadingZeros_toString, if_neg Bool.false_ne_true, hread]
  exact Option.filter_some_pos (decide_eq_true h)

end SqlSession.Yaml
