import SqlSession.Proofs.Yaml.Scalar
import SqlSession.Yaml.Token.Lexer
/-!
# The characters of a scalar

A lexer that reads its text to the end gives tokens, `Lexer.result`; two lexers with the same result
for the same text are as good as each other.

* `result_plain_body`: what continues a plain scalar is read as part of it.
* `result_quoted_body`: in single quotes a text is read up to the quote that stands alone.
-/

namespace SqlSession.Yaml

namespace Lexer

/-! ## Results -/

/-- The tokens of a document whose rest is read. -/
def result (l : Lexer) (cs : List Char) : Option (List Token) := (l.run cs).bind finish

theorem result_cons (l : Lexer) (c : Char) (cs : List Char) :
    l.result (c :: cs) = (l.step c cs).bind fun l => (l.advance c).result cs := by
  unfold result
  rw [run, Option.bind_assoc]

/-- A lexer further on in its line. -/
def past (l : Lexer) (n : Nat) : Lexer := { l with column := l.column + n, offset := l.offset + n }

/-- A lexer at the start of the next line. -/
def nextLine (l : Lexer) : Lexer :=
  { l with line := l.line + 1, column := 0, offset := l.offset + 1 }

theorem past_past (l : Lexer) (m n : Nat) : (l.past m).past n = l.past (m + n) := by
  unfold past
  simp only [Nat.add_assoc]

theorem advance_of_visible (l : Lexer) {c : Char} (h : Visible c) : l.advance c = l.past 1 := by
  unfold advance past
  rw [h.isBreak, h.utf8Size]
  rfl

theorem advance_newline (l : Lexer) : l.advance '\n' = l.nextLine := rfl

/-- One step on a visible character. -/
theorem result_step {l l' : Lexer} {c : Char} {cs : List Char} (hc : Visible c)
    (h : l.step c cs = some l') : l.result (c :: cs) = (l'.past 1).result cs := by
  rw [result_cons, h, Option.bind_some, advance_of_visible _ hc]

/-- A lexer in the middle of something else. -/
def inMode (l : Lexer) (mode : Mode) : Lexer := { l with mode := mode }

theorem inMode_past (l : Lexer) (mode : Mode) (n : Nat) :
    (l.inMode mode).past n = (l.past n).inMode mode := rfl

/-- A lexer that has used up characters ahead. -/
def skipping (l : Lexer) (n : Nat) : Lexer := { l with skip := n }

theorem skipping_zero {l : Lexer} (h : l.skip = 0) : l.skipping 0 = l := by
  unfold skipping
  rw [← h]

/-- A character that is used up already. -/
theorem result_skipping {l : Lexer} (h : l.skip = 0) {c : Char} (hc : Visible c)
    (cs : List Char) : (l.skipping 1).result (c :: cs) = (l.past 1).result cs := by
  have hstep : (l.skipping 1).step c cs = some l := by
    unfold step
    rw [if_pos (show (l.skipping 1).skip > 0 from Nat.one_pos)]
    exact congrArg some (skipping_zero h)
  exact result_step hc hstep

section

variable {l : Lexer} (hskip : l.skip = 0) (c : Char) (cs : List Char)

include hskip

theorem step_between (hmode : l.mode = .between) : l.step c cs = l.between c cs := by
  unfold step
  rw [hskip, hmode]
  rfl

theorem step_plain (text : List Char) (gap : Gap) :
    (l.inMode (.plain text gap)).step c cs =
      (l.inMode (.plain text gap)).plain text gap c cs := by
  unfold step inMode
  rw [hskip]
  rfl

end

/-! ## Scalars -/

section

variable {l : Lexer}

/-- Inside a line no document starts or ends. -/
theorem atDocumentMarker_of_pos (h : 0 < l.column) (c : Char) (cs : List Char) :
    l.atDocumentMarker c cs = false := by
  unfold atDocumentMarker
  rw [decide_eq_false (Nat.ne_of_gt h), Bool.false_and]

/-- What continues a plain scalar does not end it. -/
theorem endsPlain_of_continues (houter : l.outer = []) (hcolumn : 0 < l.column)
    {c : Char} {cs white : List Char} (h : Continues (!white.isEmpty) (c :: cs))
    (rest : List Char) : l.endsPlain (.white white) c (cs ++ rest) = false := by
  obtain ⟨hhash, hcolon, -⟩ := h
  have hempty : Gap.isEmpty (.white white) = white.isEmpty := by cases white <;> rfl
  have hflow : l.inFlow = false := by
    unfold inFlow
    rw [houter]
    rfl
  have hcomment : (!white.isEmpty && decide (c = '#')) = false := by
    by_cases hc : c = '#'
    · rw [hhash hc, Bool.false_and]
    · rw [decide_eq_false hc, Bool.and_false]
  have hvalue : (decide (c = ':') && atGap (cs ++ rest)) = false := by
    by_cases hc : c = ':'
    · have hgap := hcolon hc
      cases cs with
      | nil => exact absurd hgap (by decide)
      | cons d cs =>
        rw [decide_eq_true hc, Bool.true_and]
        exact hgap
    · rw [decide_eq_false hc, Bool.false_and]
  unfold endsPlain
  rw [atDocumentMarker_of_pos hcolumn, hvalue, hflow, hempty, Gap.hasBreak]
  simpa using hcomment

/-- **Plain scalars.**  What continues a plain scalar is read as part of it. -/
theorem result_plain_body (hskip : l.skip = 0) (houter : l.outer = []) (hcolumn : 0 < l.column)
    {cs : List Char} (hvisible : ∀ c ∈ cs, Visible c) (text white : List Char)
    (h : Continues (!white.isEmpty) cs) (rest : List Char) :
    (l.inMode (.plain text (.white white))).result (cs ++ rest) =
      ((l.past cs.length).inMode (.plain (cs.reverse ++ white ++ text) .empty)).result rest := by
  induction cs generalizing l text white with
  | nil =>
    obtain rfl : white = [] := by
      cases white with
      | nil => rfl
      | cons c white => exact absurd h (by simp [Continues])
    rfl
  | cons c cs ih =>
    obtain ⟨hc, hcs⟩ := List.forall_mem_cons.1 hvisible
    have hends := endsPlain_of_continues (l := l.inMode (.plain text (.white white)))
      houter hcolumn h rest
    obtain ⟨-, -, hrest⟩ := h
    have hnext : 0 < (l.past 1).column := Nat.succ_pos _
    rw [List.cons_append, List.length_cons, Nat.add_comm, ← past_past, List.reverse_cons,
      List.append_assoc, List.append_assoc]
    by_cases hblank : c = ' '
    · have hstep : (l.inMode (.plain text (.white white))).step c (cs ++ rest) =
          some (l.inMode (.plain text (.white (c :: white)))) := by
        rw [step_plain hskip]
        unfold plain
        rw [hc.isWhite, if_pos (decide_eq_true hblank)]
        rfl
      rw [decide_eq_true hblank] at hrest
      rw [result_step hc hstep, inMode_past,
        ih (l := l.past 1) hskip houter hnext hcs _ (c :: white) hrest, List.append_assoc]
      rfl
    · have hstep : (l.inMode (.plain text (.white white))).step c (cs ++ rest) =
          some (l.inMode (.plain (c :: (white ++ text)) (.white []))) := by
        rw [step_plain hskip]
        unfold plain
        rw [hc.isWhite, if_neg (by simpa using hblank), hc.isBreak, if_neg Bool.false_ne_true,
          hends, if_neg Bool.false_ne_true, if_neg (by simp [inFlow, inMode, houter])]
        rfl
      rw [decide_eq_false hblank] at hrest
      rw [result_step hc hstep, inMode_past,
        ih (l := l.past 1) hskip houter hnext hcs _ [] hrest, List.append_nil]
      rfl

theorem step_quoted (hskip : l.skip = 0) (text : List Char) (gap : Gap) (c : Char)
    (rest : List Char) :
    (l.inMode (.quoted false text gap)).step c rest =
      (l.inMode (.quoted false text gap)).quoted false text gap c rest := by
  unfold step inMode
  rw [hskip]
  rfl

/-- What a visible character in single quotes comes to: a quote ends the scalar, unless a second one
follows. -/
theorem step_quoted_visible (hskip : l.skip = 0) (hcolumn : 0 < l.column) {c : Char}
    (hc : Visible c) (hblank : c ≠ ' ') (text : List Char) (gap : Gap) (rest : List Char) :
    (l.inMode (.quoted false text gap)).step c rest =
      if c = '\'' then
        if rest.head? = some '\'' then
          some ((l.inMode (.quoted false (c :: (gap.joined ++ text)) .empty)).skipping 1)
        else some (l.endScalar .singleQuoted (String.ofList (gap.joined ++ text).reverse))
      else some (l.inMode (.quoted false (c :: (gap.joined ++ text)) .empty)) := by
  have hinside : (l.inMode (.quoted false text gap)).atDocumentMarker c rest = false :=
    atDocumentMarker_of_pos hcolumn c rest
  have hnone : (l.inMode (.quoted false (c :: (gap.joined ++ text)) .empty)).skipping 0 =
      l.inMode (.quoted false (c :: (gap.joined ++ text)) .empty) := skipping_zero hskip
  rw [step_quoted hskip]
  unfold quoted
  rw [hc.isWhite, if_neg (by simpa using hblank), hc.isBreak, if_neg Bool.false_ne_true,
    hinside, if_neg Bool.false_ne_true]
  dsimp only
  rw [if_neg Bool.false_ne_true, ← hnone]
  rfl

section

variable (hskip : l.skip = 0) (text white : List Char)

include hskip

theorem result_quoted_blank (rest : List Char) :
    (l.inMode (.quoted false text (.white white))).result (' ' :: rest) =
      ((l.past 1).inMode (.quoted false text (.white (' ' :: white)))).result rest := by
  have hstep : (l.inMode (.quoted false text (.white white))).step ' ' rest =
      some (l.inMode (.quoted false text (.white (' ' :: white)))) := by
    rw [step_quoted hskip]
    rfl
  rw [result_step (by decide) hstep, inMode_past]

variable (hcolumn : 0 < l.column)

include hcolumn

theorem result_quoted_visible {c : Char} (hc : Visible c) (hblank : c ≠ ' ') (hquote : c ≠ '\'')
    (rest : List Char) :
    (l.inMode (.quoted false text (.white white))).result (c :: rest) =
      ((l.past 1).inMode (.quoted false (c :: (white ++ text)) .empty)).result rest := by
  have hstep := step_quoted_visible hskip hcolumn hc hblank text (.white white) rest
  rw [if_neg hquote] at hstep
  rw [result_step hc hstep, inMode_past]
  rfl

/-- A quote that is written twice. -/
theorem result_quoted_quote (rest : List Char) :
    (l.inMode (.quoted false text (.white white))).result ('\'' :: '\'' :: rest) =
      ((l.past 2).inMode (.quoted false ('\'' :: (white ++ text)) .empty)).result rest := by
  have hstep := step_quoted_visible hskip hcolumn (c := '\'') (by decide) (by decide) text
    (.white white) ('\'' :: rest)
  rw [if_pos rfl, if_pos (show ('\'' :: rest).head? = some '\'' from rfl)] at hstep
  rw [result_step (by decide) hstep]
  exact result_skipping (l := (l.past 1).inMode (.quoted false ('\'' :: (white ++ text)) .empty))
    hskip (by decide) rest

/-- A quote that stands alone. -/
theorem result_quoted_end {rest : List Char} (hrest : rest.head? ≠ some '\'') :
    (l.inMode (.quoted false text (.white white))).result ('\'' :: rest) =
      ((l.past 1).endScalar .singleQuoted
        (String.ofList (text.reverse ++ white.reverse))).result rest := by
  have hstep := step_quoted_visible hskip hcolumn (c := '\'') (by decide) (by decide) text
    (.white white) rest
  rw [if_pos rfl, if_neg hrest] at hstep
  rw [result_step (by decide) hstep, ← List.reverse_append]
  rfl

end

/-- **Quoted scalars.**  In single quotes a text is read up to the quote that stands alone. -/
theorem result_quoted_body (hskip : l.skip = 0) (hcolumn : 0 < l.column) {cs : List Char}
    (hvisible : ∀ c ∈ cs, Visible c) (text white : List Char) {rest : List Char}
    (hrest : rest.head? ≠ some '\'') :
    (l.inMode (.quoted false text (.white white))).result (doubleQuotes cs ++ '\'' :: rest) =
      ((l.past ((doubleQuotes cs).length + 1)).endScalar .singleQuoted
        (String.ofList (text.reverse ++ white.reverse ++ cs))).result rest := by
  induction cs generalizing l text white with
  | nil =>
    rw [List.append_nil]
    exact result_quoted_end hskip text white hcolumn hrest
  | cons c cs ih =>
    obtain ⟨hc, hcs⟩ := List.forall_mem_cons.1 hvisible
    have hnext : ∀ n, 0 < (l.past (n + 1)).column := fun n => Nat.succ_pos _
    have hlength : ∀ m, m + ((doubleQuotes cs).length + 1) = m + (doubleQuotes cs).length + 1 :=
      fun m => (Nat.add_assoc m _ 1).symm
    have hcons : doubleQuotes (c :: cs) = (if c = '\'' then [c, c] else [c]) ++ doubleQuotes cs :=
      rfl
    rw [hcons, List.append_assoc, List.length_append]
    by_cases hblank : c = ' '
    · rw [hblank, if_neg (by decide), List.singleton_append, List.length_singleton,
        result_quoted_blank hskip, ih (l := l.past 1) hskip (hnext 0) hcs, past_past, hlength,
        List.reverse_cons]
      simp only [List.append_assoc, List.singleton_append]
    · by_cases hquote : c = '\''
      · rw [hquote, if_pos rfl]
        show result _ ('\'' :: '\'' :: (doubleQuotes cs ++ '\'' :: rest)) =
          ((l.past (2 + (doubleQuotes cs).length + 1)).endScalar _ _).result rest
        rw [result_quoted_quote hskip _ _ hcolumn, Gap.empty,
          ih (l := l.past 2) hskip (hnext 1) hcs, past_past, hlength]
        simp only [List.reverse_cons, List.reverse_append, List.reverse_nil, List.append_nil,
          List.append_assoc, List.singleton_append]
      · rw [if_neg hquote, List.singleton_append, List.length_singleton,
          result_quoted_visible hskip _ _ hcolumn hc hblank hquote, Gap.empty,
          ih (l := l.past 1) hskip (hnext 0) hcs, past_past, hlength]
        simp only [List.reverse_cons, List.reverse_append, List.reverse_nil, List.append_nil,
          List.append_assoc, List.singleton_append]

end

end Lexer

end SqlSession.Yaml
