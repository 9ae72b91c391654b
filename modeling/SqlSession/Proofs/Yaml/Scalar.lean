import SqlSession.Proofs.Text.Order
import SqlSession.Proofs.Yaml.Library
import SqlSession.Yaml.Node.Printer
/-!
# Scalars on one line

A text of visible characters (`VisibleText`), those of ASCII that show on paper and the space, is
written on one line: as it stands, or in single quotes with each quote twice (`Scalar.glyphs`).

    plain     not empty, fit to stand without quotes
    quoted    any text

* `Scalar.Legible`: a scalar in one of these styles.  `legible_ofText`: the style that is chosen for
  a text is one of them.
* `render_of_legible`: its glyphs are what is written, at any indentation.
* `Continues`: what makes the rest of a plain scalar part of it.  `plainText_of_fitsPlain`: the rest
  of a text that fits is.
-/

namespace SqlSession.Yaml

/-! ## Visible characters -/

theorem Visible.ne {c : Char} (h : Visible c) {d : Char} (hd : ¬ Visible d) : c ≠ d := by
  rintro rfl
  exact hd h

theorem Visible.isBreak {c : Char} (h : Visible c) : isBreak c = false := by
  simp [Yaml.isBreak, h.ne (d := '\n') (by decide), h.ne (d := '\r') (by decide),
    h.ne (d := '\u0085') (by decide), h.ne (d := '\u2028') (by decide),
    h.ne (d := '\u2029') (by decide)]

theorem Visible.isWhite {c : Char} (h : Visible c) : isWhite c = decide (c = ' ') := by
  simp [Yaml.isWhite, h.ne (d := '\t') (by decide)]

theorem Visible.isGap {c : Char} (h : Visible c) : isGap c = decide (c = ' ') := by
  rw [Yaml.isGap, h.isWhite, h.isBreak, Bool.or_false]

theorem Visible.isAllowed {c : Char} (h : Visible c) : isAllowed c = true := by
  obtain ⟨hlow, hhigh⟩ := h
  simp [Yaml.isAllowed, hlow, hhigh]

theorem Visible.isPrintable {c : Char} (h : Visible c) : isPrintable c = true := by
  obtain ⟨hlow, hhigh⟩ := h
  simp [Yaml.isPrintable, hlow, hhigh]

theorem Visible.utf8Size {c : Char} (h : Visible c) : c.utf8Size = 1 := by
  have hsmall : c.val ≤ 0x7F := by
    have hle : c.toNat ≤ 127 := by
      have := h.2
      omega
    exact hle
  simp [Char.utf8Size, hsmall]

/-- A visible text has one byte for each character. -/
theorem length_utf8 {text : String} (h : VisibleText text) :
    (Bytes.utf8 text).length = text.toList.length := by
  unfold VisibleText at h
  rw [Bytes.utf8_eq_flatMap]
  generalize text.toList = cs at h ⊢
  induction cs with
  | nil => rfl
  | cons c cs ih =>
    obtain ⟨hc, hcs⟩ := List.forall_mem_cons.1 h
    have hone : (String.utf8EncodeChar c).length = 1 := by
      rw [String.length_utf8EncodeChar, hc.utf8Size]
    rw [List.flatMap_cons, List.length_append, hone, ih hcs, List.length_cons, Nat.add_comm]

/-! ## Legible scalars -/

/-- What a scalar on one line is written as. -/
def Scalar.glyphs (s : Scalar) : List Char :=
  match s.style with
  | .plain => s.text.toList
  | _ => '\'' :: doubleQuotes s.text.toList ++ ['\'']

/-- A scalar of visible characters without a tag, in single quotes or, if it can, without. -/
structure Scalar.Legible (s : Scalar) : Prop where
  visible : VisibleText s.text
  untagged : s.tag = none
  style : (s.style = .plain ∧ s.text.toList ≠ [] ∧ fitsPlain s.text.toList = true) ∨
    s.style = .singleQuoted

theorem any_isBreak {cs : List Char} (h : ∀ c ∈ cs, Visible c) : cs.any isBreak = false := by
  rw [List.any_eq_false]
  intro c hc
  rw [(h c hc).isBreak]
  exact Bool.false_ne_true

/-- Lines that do not end stay as they are. -/
theorem indentLines_of_no_break (indent : Nat) {before : Char} {cs : List Char}
    (hbefore : isBreak before = false) (h : cs.any isBreak = false) :
    indentLines indent before cs = cs := by
  induction cs generalizing before with
  | nil => rfl
  | cons c cs ih =>
    rw [List.any_cons, Bool.or_eq_false_iff] at h
    have hcons : indentLines indent before (c :: cs) =
        (if isBreak before && !isBreak c then margin indent ++ [c] else [c]) ++
          indentLines indent c cs := rfl
    rw [hcons, hbefore, Bool.false_and, if_neg Bool.false_ne_true, ih h.1 h.2, List.singleton_append]

theorem mem_doubleQuotes {c : Char} {cs : List Char} : c ∈ doubleQuotes cs ↔ c ∈ cs := by
  unfold doubleQuotes
  rw [List.mem_flatMap]
  constructor
  · rintro ⟨d, hd, hc⟩
    by_cases hquote : d = '\''
    · simp only [hquote, if_true, List.mem_cons, List.not_mem_nil, or_self, or_false] at hc
      rw [hc, ← hquote]
      exact hd
    · simp only [hquote, if_false, List.mem_singleton] at hc
      rwa [hc]
  · intro hc
    refine ⟨c, hc, ?_⟩
    split <;> simp

theorem length_doubleQuotes_le (cs : List Char) : (doubleQuotes cs).length ≤ 2 * cs.length := by
  induction cs with
  | nil => exact Nat.le_refl 0
  | cons c cs ih =>
    have hcons : doubleQuotes (c :: cs) = (if c = '\'' then [c, c] else [c]) ++ doubleQuotes cs :=
      rfl
    have hone : (if c = '\'' then [c, c] else [c]).length ≤ 2 := by split <;> simp
    rw [hcons, List.length_append, List.length_cons]
    omega

variable {s : Scalar}

theorem Scalar.Legible.visible_glyphs (h : s.Legible) : ∀ c ∈ s.glyphs, Visible c := by
  unfold glyphs
  obtain ⟨hstyle, -, -⟩ | hstyle := h.style
  · rw [hstyle]
    exact h.visible
  · rw [hstyle]
    intro c hc
    simp only [List.cons_append, List.mem_cons, List.mem_append, List.not_mem_nil, or_false,
      mem_doubleQuotes] at hc
    obtain rfl | hc | rfl := hc
    · decide
    · exact h.visible c hc
    · decide

theorem Scalar.Legible.length_glyphs_le (h : s.Legible) :
    s.glyphs.length ≤ 2 * s.text.toList.length + 2 := by
  have hle := length_doubleQuotes_le s.text.toList
  unfold glyphs
  obtain ⟨hstyle, -, -⟩ | hstyle := h.style
  · rw [hstyle]
    dsimp only
    omega
  · rw [hstyle]
    simp only [List.cons_append, List.length_cons, List.length_append, List.length_nil]
    omega

theorem getLast?_any_isBreak {cs : List Char} (h : ∀ c ∈ cs, Visible c) :
    cs.getLast?.any isBreak = false := by
  cases hlast : cs.getLast? with
  | none => rfl
  | some c => exact (h c (List.mem_of_getLast? hlast)).isBreak

/-- **Writing.**  A scalar on one line is written as its glyphs. -/
theorem render_of_legible (h : s.Legible) (indent : Nat) : s.render indent = s.glyphs := by
  have hnone := any_isBreak h.visible
  unfold Scalar.render Scalar.glyphs
  obtain ⟨hstyle, -, -⟩ | hstyle := h.style
  · rw [hstyle]
  · have hquotes : (doubleQuotes s.text.toList).any isBreak = false :=
      any_isBreak fun c hc => h.visible c (mem_doubleQuotes.1 hc)
    rw [hstyle]
    dsimp only
    rw [getLast?_any_isBreak h.visible, if_neg Bool.false_ne_true, List.append_nil,
      indentLines_of_no_break indent (by decide) hquotes]

theorem endLine_of_visible {cs : List Char} (h : ∀ c ∈ cs, Visible c) :
    endLine cs = cs ++ ['\n'] := by
  rw [endLine, getLast?_any_isBreak h, if_neg Bool.false_ne_true]

/-- No neighbours satisfy a condition that no two characters of a text do. -/
theorem anyPair_eq_false {p : Char → Char → Bool} {cs : List Char}
    (h : ∀ a ∈ cs, ∀ b ∈ cs, p a b = false) : anyPair p cs = false := by
  induction cs with
  | nil => rfl
  | cons a cs ih =>
    cases cs with
    | nil => rfl
    | cons b cs =>
      rw [anyPair, h a (by simp) b (by simp),
        ih fun c hc d hd => h c (List.mem_cons_of_mem a hc) d (List.mem_cons_of_mem a hd)]
      rfl

/-- Visible characters can stand in single quotes. -/
theorem fitsSingleQuotes_of_visible {cs : List Char} (h : ∀ c ∈ cs, Visible c) :
    fitsSingleQuotes cs = true := by
  have hprintable : cs.all isPrintable = true :=
    List.all_eq_true.2 fun c hc => (h c hc).isPrintable
  have hpairs : anyPair (fun a b => (isBreak a && b = ' ') || (a = ' ' && isBreak b)) cs = false := by
    refine anyPair_eq_false fun a ha b hb => ?_
    rw [(h a ha).isBreak, (h b hb).isBreak, Bool.false_and, Bool.and_false]
    rfl
  rw [fitsSingleQuotes, hprintable, hpairs]
  rfl

/-- The style that is chosen for a visible text is legible. -/
theorem legible_ofText {text : String} (h : VisibleText text) :
    (Scalar.ofText text).Legible := by
  have hfeed : text.toList.contains '\n' = false := by
    rw [Bool.eq_false_iff, ne_eq, List.contains_iff_mem]
    intro hmem
    exact absurd (h _ hmem) (by decide)
  refine ⟨h, rfl, ?_⟩
  show (styleOf text = .plain ∧ text.toList ≠ [] ∧ fitsPlain text.toList = true) ∨
    styleOf text = .singleQuoted
  unfold styleOf
  dsimp only
  rw [if_neg (by rw [hfeed]; exact Bool.false_ne_true)]
  by_cases hplain : isText text && fitsPlain text.toList
  · rw [if_pos hplain]
    obtain ⟨htext, hfits⟩ := (Bool.and_eq_true _ _).mp hplain
    refine .inl ⟨rfl, fun hempty => ?_, hfits⟩
    obtain rfl : text = "" := String.toList_eq_nil_iff.1 hempty
    exact absurd htext (by decide)
  · rw [if_neg hplain, if_pos (fitsSingleQuotes_of_visible h)]
    exact .inr rfl

/-! ## Plain scalars -/

/-- Whether characters go on with a plain scalar, behind a blank or another character of it. -/
def Continues (blank : Bool) : List Char → Prop
  | [] => blank = false
  | c :: cs =>
    (c = '#' → blank = false) ∧ (c = ':' → atGap cs = false) ∧ Continues (decide (c = ' ')) cs

/-- The marks that no plain scalar starts with. -/
def openingMarks : List Char := "#,[]\x7b\x7d&*!|>'\"%@`".toList

/-- What a text that fits is like behind its first character, which is no mark. -/
structure PlainText (c : Char) (cs : List Char) : Prop where
  unmarked : openingMarks.contains c = false
  shown : c ≠ ' '
  hyphen : c = '?' ∨ c = ':' ∨ c = '-' → atGap cs = false
  alone : ∀ mark, mark = '-' ∨ mark = '.' → (c :: cs).take 3 ≠ [mark, mark, mark]
  continues : Continues false cs

theorem continues_of_pairs {a : Char} {cs : List Char} (hvisible : ∀ c ∈ a :: cs, Visible c)
    (hpairs : anyPair (fun a b => (a = ':' && isGap b) || (isGap a && b = '#')) (a :: cs) = false)
    (hcolon : (a :: cs).getLast? ≠ some ':') (hspace : (a :: cs).getLast? ≠ some ' ') :
    Continues (decide (a = ' ')) cs := by
  induction cs generalizing a with
  | nil =>
    refine decide_eq_false fun ha => hspace ?_
    rw [ha]
    rfl
  | cons c cs ih =>
    obtain ⟨ha, hcs⟩ := List.forall_mem_cons.1 hvisible
    rw [anyPair, Bool.or_eq_false_iff] at hpairs
    obtain ⟨hfirst, hrest⟩ := hpairs
    rw [ha.isGap] at hfirst
    rw [List.getLast?_cons_cons] at hcolon hspace
    refine ⟨fun hc => ?_, fun hc => ?_, ih hcs hrest hcolon hspace⟩
    · rw [Bool.or_eq_false_iff] at hfirst
      simpa [hc] using hfirst.2
    · cases cs with
      | nil => exact absurd (by rw [hc]; rfl) hcolon
      | cons d cs =>
        rw [anyPair, Bool.or_eq_false_iff, Bool.or_eq_false_iff] at hrest
        simpa [hc, atGap] using hrest.1.1

theorem plainText_of_fitsPlain {c : Char} {cs : List Char} (hvisible : ∀ d ∈ c :: cs, Visible d)
    (h : fitsPlain (c :: cs) = true) : PlainText c cs := by
  simp only [fitsPlain, touches, hasMark, Bool.and_eq_true, Bool.not_eq_true',
    Bool.or_eq_false_iff, beq_eq_false_iff_ne] at h
  obtain ⟨⟨-, hhead, htail⟩, ⟨⟨⟨⟨hmark, hhyphen⟩, hhyphens⟩, hdots⟩, hpairs⟩, hcolon⟩ := h
  have hshown : c ≠ ' ' := by simpa using hhead
  have hspace : (c :: cs).getLast? ≠ some ' ' := by
    intro hlast
    rw [hlast] at htail
    simp at htail
  have hcontinues := continues_of_pairs hvisible hpairs hcolon hspace
  rw [decide_eq_false hshown] at hcontinues
  have hgap : c = '?' ∨ c = ':' ∨ c = '-' → atGap cs = false := by
    intro hc
    have hor : (decide (c = '?') || decide (c = ':') || decide (c = '-')) = true := by
      rcases hc with rfl | rfl | rfl <;> rfl
    rwa [hor, Bool.true_and] at hhyphen
  have halone : ∀ mark, mark = '-' ∨ mark = '.' → (c :: cs).take 3 ≠ [mark, mark, mark] := by
    rintro mark (rfl | rfl)
    · exact hhyphens
    · exact hdots
  exact
    { unmarked := hmark, shown := hshown, hyphen := hgap, alone := halone, continues := hcontinues }

/-- The glyphs of a legible scalar start a token of their own. -/
theorem Scalar.Legible.glyphs_cases (h : s.Legible) :
    (∃ c cs, s.style = .plain ∧ s.text.toList = c :: cs ∧ s.glyphs = c :: cs ∧ PlainText c cs) ∨
      s.style = .singleQuoted ∧ s.glyphs = '\'' :: (doubleQuotes s.text.toList ++ ['\'']) := by
  unfold glyphs
  obtain ⟨hstyle, hne, hfits⟩ | hstyle := h.style
  · have hvisible : ∀ c ∈ s.text.toList, Visible c := h.visible
    rw [hstyle]
    generalize s.text.toList = text at hne hfits hvisible ⊢
    rcases text with - | ⟨c, cs⟩
    · exact absurd rfl hne
    · exact .inl ⟨c, cs, rfl, rfl, rfl, plainText_of_fitsPlain hvisible hfits⟩
  · rw [hstyle]
    exact .inr ⟨rfl, rfl⟩

end SqlSession.Yaml
