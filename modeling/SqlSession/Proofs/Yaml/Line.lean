import SqlSession.Proofs.Yaml.Lexing
/-!
# Reading one line

What the lexer does with the parts of a line that is written in block style.

    a legible scalar             it is read up to its last character     (result_scalar)
    … and a colon behind it      it ends there                           (result_holding_colon)
    … and the end of the line    it ends where the next line resumes     (result_holding_newline)
    a line further left          the block it leaves ends                (result_leave)

* `resting`: a lexer between tokens.  `holding`: a lexer behind the last character of a scalar.
* `Resumes`: the lines that may stand behind another one.
-/

namespace SqlSession.Yaml

namespace Lexer

/-! ## Starts of tokens -/

/-- Where a lexer stands. -/
structure Place where
  line : Nat
  offset : Nat
  column : Nat

/-- Further on in the line. -/
def Place.past (p : Place) (n : Nat) : Place :=
  { p with offset := p.offset + n, column := p.column + n }

theorem Place.past_past (p : Place) (m n : Nat) : (p.past m).past n = p.past (m + n) := by
  unfold past
  simp only [Nat.add_assoc]

/-- The start of the next line. -/
def Place.nextLine (p : Place) : Place :=
  { line := p.line + 1, offset := p.offset + 1, column := 0 }

/-- A lexer between tokens, outside of flow collections. -/
def resting (p : Place) (indents : List Nat) (pending : Option PendingKey) (allowed : Bool)
    (tokens : List Token) : Lexer :=
  { line := p.line
    column := p.column
    offset := p.offset
    indents, pending, tokens
    keyAllowed := allowed
    count := tokens.length }

section

variable {p : Place} {indents : List Nat} {pending : Option PendingKey} {allowed : Bool}
  {tokens : List Token} {c : Char} {rest : List Char}

theorem resting_past (n : Nat) :
    (resting p indents pending allowed tokens).past n =
      resting (p.past n) indents pending allowed tokens := rfl

/-- A character that is no blank and starts no comment starts a token. -/
theorem between_of_visible {l : Lexer} (hc : Visible c) (hblank : c ≠ ' ') (hhash : c ≠ '#') :
    l.between c rest = l.start c rest := by
  unfold between
  rw [if_neg (fun h => hc.ne (by decide) h.2), if_neg, if_neg hhash, hc.isBreak,
    if_neg Bool.false_ne_true]
  rintro (h | ⟨h, -⟩)
  · exact hblank h
  · exact hc.ne (by decide) h

/-- What starts a token is the same where the same is left of pending keys and open blocks. -/
theorem start_congr {l l' l₁ l₁' : Lexer} (hl : l.dropStale = some l₁)
    (hl' : l'.dropStale = some l₁') (h : l₁.closeToColumn = l₁'.closeToColumn) :
    l.start c rest = l'.start c rest := by
  unfold start
  rw [hl, hl']
  simp only [Option.bind_eq_bind, Option.bind_some, h]

/-- Where the innermost block is not left, none is. -/
theorem closeBlocks_of_head {l : Lexer} {leaves : Nat → Bool}
    (h : ∀ i ∈ l.indents.head?, leaves i = false) : l.closeBlocks leaves = l := by
  rcases l with ⟨line, column, offset, skip, mode, indents⟩
  unfold closeBlocks
  cases indents with
  | nil => rfl
  | cons i indents =>
    have hi : ¬ leaves i = true := Bool.eq_false_iff.1 (h i rfl)
    dsimp only
    rw [List.takeWhile_cons_of_neg hi, List.dropWhile_cons_of_neg hi]
    rfl

/-- No block is to the right of a column. -/
def Fits (column : Nat) (indents : List Nat) : Prop := ∀ i ∈ indents.head?, i ≤ column

theorem closeToColumn_of_fits {l : Lexer} (houter : l.outer = []) (h : Fits l.column l.indents) :
    l.closeToColumn = l := by
  unfold closeToColumn
  rw [if_neg (by simp [inFlow, houter])]
  exact closeBlocks_of_head fun i hi => decide_eq_false (Nat.not_lt.2 (h i hi))

theorem ne_of_unmarked (h : openingMarks.contains c = false) {mark : Char}
    (hmark : openingMarks.contains mark = true) : c ≠ mark := by
  rintro rfl
  rw [h] at hmark
  exact Bool.false_ne_true hmark

/-- Outside of flow collections, a character that is no mark starts a plain scalar. -/
theorem startsPlain_of_unmarked {l : Lexer} (hflow : l.inFlow = false)
    (hmark : openingMarks.contains c = false)
    (hgap : c = '?' ∨ c = ':' ∨ c = '-' → atGap rest = false) (hshown : isGap c = false) :
    l.startsPlain c rest = true := by
  unfold startsPlain
  by_cases hhyphen : c = '-'
  · have hrest := hgap (.inr (.inr hhyphen))
    rw [if_pos hhyphen]
    cases rest with
    | nil => exact absurd hrest (by decide)
    | cons d rest =>
      have hwhite : isWhite d = false := (Bool.or_eq_false_iff.1 hrest).1
      simp [hwhite]
  · rw [if_neg hhyphen]
    by_cases hindicator : c = '?' ∨ c = ':'
    · have hrest := hgap (hindicator.imp_right .inl)
      rw [if_pos hindicator, hflow, hrest]
      rfl
    · have hmarks : (",[]\x7b\x7d#&*!|>'\"%@`".toList.all openingMarks.contains) = true := by
        decide
      rw [if_neg hindicator, hshown, Bool.not_false, Bool.true_and, Bool.not_eq_true',
        Bool.eq_false_iff]
      intro hmem
      exact ne_of_unmarked hmark (List.all_eq_true.1 hmarks c (List.contains_iff_mem.1 hmem)) rfl

/-- Where nothing is left, a character starts its own token. -/
theorem start_of_settled {l : Lexer} (hl : l.dropStale = some l) (hclose : l.closeToColumn = l)
    (c : Char) (rest : List Char) (hpercent : c ≠ '%')
    (halone : ∀ mark, mark = '-' ∨ mark = '.' → l.column = 0 → isMarker mark c rest = false) :
    (c = '\'' → l.start c rest = l.quotedScalar false) ∧
      (c = '?' → atGap rest = true → l.start c rest = l.explicitKey) ∧
      (c = ':' → atGap rest = true → l.start c rest = l.valueMark) ∧
      (openingMarks.contains c = false → (c = '?' ∨ c = ':' ∨ c = '-' → atGap rest = false) →
        l.outer = [] → isGap c = false → l.start c rest = l.plainScalar c) := by
  have hnone : ∀ mark, mark = '-' ∨ mark = '.' →
      ¬ (l.column = 0 ∧ isMarker mark c rest = true) := by
    rintro mark hmark ⟨hcolumn, hmarker⟩
    rw [halone mark hmark hcolumn] at hmarker
    exact Bool.false_ne_true hmarker
  unfold start
  rw [hl]
  simp only [Option.bind_eq_bind, Option.bind_some, hclose]
  rw [if_neg (fun h => hpercent h.2), if_neg (hnone '-' (.inl rfl)), if_neg (hnone '.' (.inr rfl))]
  refine ⟨?_, ?_, ?_, ?_⟩
  · rintro rfl
    rfl
  · rintro rfl hgap
    simp [hgap]
  · rintro rfl hgap
    simp [hgap]
  · intro hmark hgap houter hshown
    have hflow : l.inFlow = false := by simp [inFlow, houter]
    split
    case h_11 =>
      have hrest : ∀ mark, mark = '?' ∨ mark = ':' ∨ mark = '-' → ¬ (c = mark ∧ atGap rest) := by
        rintro mark hmark ⟨rfl, hrest⟩
        rw [hgap hmark] at hrest
        exact Bool.false_ne_true hrest
      rw [if_neg (hrest '-' (by simp)), if_neg (by simpa [hflow] using hrest '?' (by simp)),
        if_neg (by simpa [hflow] using hrest ':' (by simp)),
        if_neg (fun h => ne_of_unmarked hmark (by decide) h.1),
        if_neg (fun h => ne_of_unmarked hmark (by decide) h.1),
        if_pos (startsPlain_of_unmarked hflow hmark hgap hshown)]
    all_goals exact absurd hmark (by decide)

theorem isMarker_of_ne {mark : Char} (h : c ≠ mark) (rest : List Char) :
    isMarker mark c rest = false := by
  unfold isMarker
  split
  · rw [decide_eq_false h, Bool.false_and, Bool.false_and, Bool.false_and]
  · rfl

/-- No document starts or ends with a plain scalar, whatever is behind it. -/
theorem isMarker_of_plainText {cs : List Char} (h : PlainText c cs) {mark : Char}
    (hmark : mark = '-' ∨ mark = '.') (hrest : rest.head? ≠ some mark) :
    isMarker mark c (cs ++ rest) = false := by
  have halone := h.alone mark hmark
  have hhead : ∀ {d : Char} {ds : List Char}, rest = d :: ds → ¬ d = mark := by
    rintro d ds rfl rfl
    exact hrest rfl
  unfold isMarker
  split
  · rename_i c₁ c₂ behind heq
    rcases cs with - | ⟨d, - | ⟨e, cs⟩⟩
    · simp [hhead heq]
    · obtain ⟨-, heq⟩ := List.cons.inj heq
      simp [hhead heq]
    · rw [List.cons_append, List.cons_append, List.cons.injEq, List.cons.injEq] at heq
      obtain ⟨rfl, rfl, -⟩ := heq
      simp only [List.take_succ_cons, List.take_zero, ne_eq, List.cons.injEq, and_true] at halone
      simpa [and_assoc] using fun h₁ h₂ h₃ => absurd ⟨h₁, h₂, h₃⟩ halone
  · rfl

/-- Where a key may start, one is noted. -/
def noted (p : Place) (indents : List Nat) (allowed : Bool) (index : Nat) : Option PendingKey :=
  if allowed then
    some
      { index
        required := indents.head? = some p.column
        line := p.line
        column := p.column
        offset := p.offset }
  else none

theorem noteKey_resting :
    (resting p indents none allowed tokens).noteKey =
      some (resting p indents (noted p indents allowed tokens.length) allowed tokens) := by
  cases allowed <;> rfl

/-- A lexer behind the last character of a scalar; a plain one may go on. -/
def holding (s : Scalar) (p : Place) (indents : List Nat) (pending : Option PendingKey)
    (tokens : List Token) : Lexer :=
  match s.style with
  | .plain =>
    (resting p indents pending false tokens).inMode (.plain s.text.toList.reverse .empty)
  | style => resting p indents pending false (.scalar style s.text :: tokens)

/-- A plain scalar is read up to its last character. -/
theorem result_plain {cs : List Char} (hvisible : ∀ d ∈ c :: cs, Visible d) (hplain : PlainText c cs)
    (hfits : Fits p.column indents) (hrest : rest.head? = some ':' ∨ rest.head? = some '\n') :
    (resting p indents none allowed tokens).result (c :: cs ++ rest) =
      ((resting (p.past (c :: cs).length) indents (noted p indents allowed tokens.length) false
        tokens).inMode (.plain (c :: cs).reverse .empty)).result rest := by
  obtain ⟨hc, hcs⟩ := List.forall_mem_cons.1 hvisible
  have hother : ∀ mark, mark ≠ ':' → mark ≠ '\n' → rest.head? ≠ some mark := by
    rintro mark hcolon hfeed hhead
    rw [hhead, Option.some.injEq, Option.some.injEq] at hrest
    exact hrest.elim hcolon hfeed
  have halone : ∀ mark, mark = '-' ∨ mark = '.' →
      (resting p indents none allowed tokens).column = 0 → isMarker mark c (cs ++ rest) = false :=
    fun mark hmark _ => isMarker_of_plainText hplain hmark
      (by rcases hmark with rfl | rfl <;> exact hother _ (by decide) (by decide))
  obtain ⟨-, -, -, hstart⟩ := start_of_settled
    (l := resting p indents none allowed tokens) rfl (closeToColumn_of_fits rfl hfits) c (cs ++ rest)
    (ne_of_unmarked hplain.unmarked (by decide)) halone
  have hgap : c = '?' ∨ c = ':' ∨ c = '-' → atGap (cs ++ rest) = false := by
    intro hmark
    have hgap := hplain.hyphen hmark
    cases cs with
    | nil => exact absurd hgap (by decide)
    | cons d cs => exact hgap
  have hshown : isGap c = false := by
    rw [hc.isGap]
    exact decide_eq_false hplain.shown
  have hstep : (resting p indents none allowed tokens).step c (cs ++ rest) =
      some ((resting p indents (noted p indents allowed tokens.length) false tokens).inMode
        (.plain [c] .empty)) := by
    rw [step_between rfl _ _ rfl,
      between_of_visible hc hplain.shown (ne_of_unmarked hplain.unmarked (by decide)),
      hstart hplain.unmarked hgap rfl hshown]
    unfold plainScalar
    rw [noteKey_resting]
    rfl
  have hcolumn : 0 < (resting (p.past 1) indents (noted p indents allowed tokens.length) false
      tokens).column := Nat.succ_pos _
  have hbody := result_plain_body rfl rfl hcolumn hcs [c] [] hplain.continues rest
  rw [List.cons_append, result_step hc hstep, inMode_past, resting_past, Gap.empty, hbody,
    List.append_nil, List.reverse_cons, List.length_cons, Nat.add_comm cs.length, ← Place.past_past]
  rfl

/-- A text in single quotes is read up to the second one that stands alone. -/
theorem result_quoted {cs : List Char} (hvisible : ∀ d ∈ cs, Visible d) (hfits : Fits p.column indents)
    (hrest : rest.head? ≠ some '\'') :
    (resting p indents none allowed tokens).result ('\'' :: (doubleQuotes cs ++ ['\'']) ++ rest) =
      (resting (p.past ('\'' :: (doubleQuotes cs ++ ['\''])).length) indents
        (noted p indents allowed tokens.length) false
        (.scalar .singleQuoted (String.ofList cs) :: tokens)).result rest := by
  obtain ⟨hstart, -⟩ := start_of_settled
    (l := resting p indents none allowed tokens) rfl (closeToColumn_of_fits rfl hfits) '\''
    (doubleQuotes cs ++ ['\''] ++ rest) (by decide)
    (fun mark hmark _ => isMarker_of_ne (by rcases hmark with rfl | rfl <;> decide) _)
  have hstep : (resting p indents none allowed tokens).step '\''
      (doubleQuotes cs ++ ['\''] ++ rest) =
      some ((resting p indents (noted p indents allowed tokens.length) false tokens).inMode
        (.quoted false [] .empty)) := by
    rw [step_between rfl _ _ rfl, between_of_visible (by decide) (by decide) (by decide),
      hstart rfl]
    unfold quotedScalar
    rw [noteKey_resting]
    rfl
  have hcolumn : 0 < (resting (p.past 1) indents (noted p indents allowed tokens.length) false
      tokens).column := Nat.succ_pos _
  have hbody := result_quoted_body rfl hcolumn hvisible [] [] hrest
  rw [List.cons_append, result_step (by decide) hstep, inMode_past, resting_past, Gap.empty,
    List.append_assoc, List.singleton_append, hbody, resting_past, Place.past_past,
    List.length_cons, List.length_append, List.length_singleton, Nat.add_comm 1]
  rfl

/-- **Scalars.**  A legible scalar is read up to its last character. -/
theorem result_scalar {s : Scalar} (hs : s.Legible) (hfits : Fits p.column indents)
    (hrest : rest.head? = some ':' ∨ rest.head? = some '\n') :
    (resting p indents none allowed tokens).result (s.glyphs ++ rest) =
      (holding s (p.past s.glyphs.length) indents (noted p indents allowed tokens.length)
        tokens).result rest := by
  have hvisible := hs.visible_glyphs
  unfold holding
  obtain ⟨c, cs, hstyle, htext, hglyphs, hplain⟩ | ⟨hstyle, hglyphs⟩ := hs.glyphs_cases
  · rw [hglyphs] at hvisible ⊢
    rw [hstyle, htext]
    exact result_plain hvisible hplain hfits hrest
  · have hquote : rest.head? ≠ some '\'' := by
      intro hhead
      rw [hhead] at hrest
      exact absurd hrest (by decide)
    rw [hglyphs, hstyle, result_quoted hs.visible hfits hquote, String.ofList_toList]

/-- Behind a key, the colon ends the scalar. -/
theorem result_holding_colon {s : Scalar} (hrest : atGap rest = true) :
    (holding s p indents pending tokens).result (':' :: rest) =
      (resting p indents pending false (.scalar s.style s.text :: tokens)).result (':' :: rest) := by
  unfold holding
  cases hstyle : s.style with
  | plain =>
    have hends : ((resting p indents pending false tokens).inMode
        (.plain s.text.toList.reverse .empty)).endsPlain .empty ':' rest = true := by
      unfold endsPlain
      rw [hrest]
      simp
    have hstep : ((resting p indents pending false tokens).inMode
        (.plain s.text.toList.reverse .empty)).step ':' rest =
        (resting p indents pending false (.scalar .plain s.text :: tokens)).step ':' rest := by
      rw [step_plain rfl, step_between rfl _ _ rfl]
      unfold plain
      rw [if_neg (by decide), if_neg (by decide), if_pos hends]
      unfold endPlain
      rw [List.reverse_reverse, String.ofList_toList]
      rfl
    dsimp only
    rw [result_cons, result_cons, hstep]
  | _ => rfl

/-- What may stand behind a line: nothing, or a line that starts at a column with more than a
comment. -/
def Resumes (column : Nat) (rest : List Char) : Prop :=
  rest = [] ∨ ∃ c cs, rest = margin column ++ c :: cs ∧ Visible c ∧ c ≠ ' ' ∧ c ≠ '#'

theorem result_margin {l : Lexer} (hskip : l.skip = 0) (hmode : l.mode = .between) (n : Nat)
    (cs : List Char) : l.result (margin n ++ cs) = (l.past n).result cs := by
  induction n generalizing l with
  | zero => rfl
  | succ n ih =>
    have hstep : l.step ' ' (margin n ++ cs) = some l := by
      rw [step_between hskip _ _ hmode]
      unfold between
      rw [if_neg (by simp), if_pos (.inl rfl)]
    have hmargin : margin (n + 1) ++ cs = ' ' :: (margin n ++ cs) := rfl
    rw [hmargin, result_step (by decide) hstep, ih (l := l.past 1) hskip hmode, past_past,
      Nat.add_comm]

theorem finish_between {l : Lexer} (hmode : l.mode = .between) :
    l.finish = l.dropStale.bind fun l => l.closeAll.dropKey.bind fun l => some l.tokens.reverse := by
  unfold finish endOfText
  rw [hmode]
  rfl

/-- Where a line resumes, two lexers agree if they agree on what is left of pending keys, and then on
the blocks that end. -/
theorem result_congr {l l' l₁ l₁' : Lexer} (hskip : l.skip = 0) (hmode : l.mode = .between)
    (hskip' : l'.skip = 0) (hmode' : l'.mode = .between) {n : Nat}
    (hstale : l.dropStale = some l₁) (hstale' : l'.dropStale = some l₁')
    (hend : l₁.closeAll = l₁'.closeAll)
    (hpast : (l.past n).dropStale = some (l₁.past n))
    (hpast' : (l'.past n).dropStale = some (l₁'.past n))
    (hclose : (l₁.past n).closeToColumn = (l₁'.past n).closeToColumn)
    (h : Resumes n rest) : l.result rest = l'.result rest := by
  obtain rfl | ⟨c, cs, rfl, hc, hblank, hhash⟩ := h
  · show l.finish = l'.finish
    rw [finish_between hmode, finish_between hmode', hstale, hstale', Option.bind_some,
      Option.bind_some, hend]
  · rw [result_margin hskip hmode, result_margin hskip' hmode', result_cons, result_cons,
      step_between (l := l.past n) hskip _ _ hmode, step_between (l := l'.past n) hskip' _ _ hmode',
      between_of_visible hc hblank hhash, between_of_visible hc hblank hhash,
      start_congr hpast hpast' hclose]

/-- A key that was noted on an earlier line is forgotten, unless it has to be one. -/
theorem result_stale {k : PendingKey} (hrequired : k.required = false) (hline : k.line < p.line)
    {n : Nat} (h : Resumes n rest) :
    (resting p indents (some k) allowed tokens).result rest =
      (resting p indents none allowed tokens).result rest := by
  have hstale (p' : Place) (hp' : p'.line = p.line) :
      (resting p' indents (some k) allowed tokens).dropStale =
        some (resting p' indents none allowed tokens) := by
    unfold dropStale fresh isStale giveUp
    simp [resting, hp', hline, hrequired]
  exact result_congr rfl rfl rfl rfl (hstale p rfl) rfl rfl (hstale (p.past n) rfl) rfl rfl h

theorem blockEnds_append (ended : List Nat) (tokens : List Token) :
    (ended.map fun _ => Token.blockEnd) ++ .blockEnd :: tokens =
      .blockEnd :: ((ended.map fun _ => Token.blockEnd) ++ tokens) := by
  induction ended with
  | nil => rfl
  | cons i ended ih => rw [List.map_cons, List.cons_append, ih, List.cons_append]

/-- A line to the left of a block ends it. -/
theorem result_leave {i n : Nat} (hcolumn : p.column + n < i) (h : Resumes n rest) :
    (resting p (i :: indents) none allowed tokens).result rest =
      (resting p indents none allowed (.blockEnd :: tokens)).result rest := by
  have hclose (p' : Place) {leaves : Nat → Bool} (hleaves : leaves i = true) :
      (resting p' (i :: indents) none allowed tokens).closeBlocks leaves =
        (resting p' indents none allowed (.blockEnd :: tokens)).closeBlocks leaves := by
    unfold closeBlocks resting
    dsimp only
    rw [List.takeWhile_cons_of_pos hleaves, List.dropWhile_cons_of_pos hleaves, blockEnds_append,
      List.map_cons, List.length_cons, List.length_cons, List.cons_append, Nat.add_right_comm,
      Nat.add_assoc]
  refine result_congr rfl rfl rfl rfl rfl rfl (hclose p rfl) rfl rfl ?_ h
  exact hclose (p.past n) (decide_eq_true hcolumn)

/-- The end of a line between tokens; a key may start behind it. -/
theorem result_newline :
    (resting p indents pending allowed tokens).result ('\n' :: rest) =
      (resting p.nextLine indents pending true tokens).result rest := by
  have hstep : (resting p indents pending allowed tokens).step '\n' rest =
      some (resting p indents pending true tokens) := by
    rw [step_between rfl _ _ rfl]
    unfold between
    rw [if_neg (by simp), if_neg (by simp), if_neg (by decide), if_pos (by decide)]
    rfl
  rw [result_cons, hstep, Option.bind_some, advance_newline]
  rfl

/-- The margin of the next line does not decide whether a plain scalar goes on. -/
theorem result_plain_margin {l : Lexer} (hskip : l.skip = 0) (text : List Char) (n : Nat)
    (cs : List Char) :
    (l.inMode (.plain text (.lines (some '\n') []))).result (margin n ++ cs) =
      ((l.past n).inMode (.plain text (.lines (some '\n') []))).result cs := by
  induction n generalizing l with
  | zero => rfl
  | succ n ih =>
    have hstep : (l.inMode (.plain text (.lines (some '\n') []))).step ' ' (margin n ++ cs) =
        some (l.inMode (.plain text (.lines (some '\n') []))) := by
      rw [step_plain hskip]
      unfold plain
      rw [if_pos (by decide), if_neg (by simp)]
      rfl
    have hcons : margin (n + 1) ++ cs = ' ' :: (margin n ++ cs) := rfl
    rw [hcons, result_step (by decide) hstep, inMode_past, ih (l := l.past 1) hskip, past_past,
      Nat.add_comm]

/-- A plain scalar that ended with its line ends for good where a line resumes that is not to the
right of its block. -/
theorem result_plain_lines {text : List Char} {i n : Nat} (hcolumn : p.column + n ≤ i)
    (h : Resumes n rest) :
    ((resting p (i :: indents) pending false tokens).inMode
        (.plain text (.lines (some '\n') []))).result rest =
      (resting p (i :: indents) pending true
        (.scalar .plain (String.ofList text.reverse) :: tokens)).result rest := by
  obtain rfl | ⟨c, cs, rfl, hc, hblank, hhash⟩ := h
  · rfl
  · have hends : ((resting (p.past n) (i :: indents) pending false tokens).inMode
        (.plain text (.lines (some '\n') []))).endsPlain (.lines (some '\n') []) c cs = true := by
      have hleft : p.column + n < i + 1 := Nat.lt_succ_of_le hcolumn
      simp [endsPlain, Gap.isEmpty, Gap.hasBreak, inFlow, minColumn, resting, inMode, Place.past,
        hleft]
    have hstep : ((resting (p.past n) (i :: indents) pending false tokens).inMode
        (.plain text (.lines (some '\n') []))).step c cs =
        (resting (p.past n) (i :: indents) pending true
          (.scalar .plain (String.ofList text.reverse) :: tokens)).step c cs := by
      rw [step_plain rfl, step_between rfl _ _ rfl]
      unfold plain
      rw [hc.isWhite, if_neg (by simpa using hblank), hc.isBreak, if_neg Bool.false_ne_true,
        if_pos hends]
      rfl
    rw [result_plain_margin rfl, result_margin rfl rfl, resting_past, resting_past, result_cons,
      result_cons, hstep]

/-- Behind a value, the end of the line ends the scalar, where a line resumes that is not to the
right of its block. -/
theorem result_holding_newline {s : Scalar} {i n : Nat} (hcolumn : n ≤ i) (h : Resumes n rest) :
    (holding s p (i :: indents) pending tokens).result ('\n' :: rest) =
      (resting p.nextLine (i :: indents) pending true
        (.scalar s.style s.text :: tokens)).result rest := by
  unfold holding
  cases hstyle : s.style with
  | plain =>
    have hstep : ((resting p (i :: indents) pending false tokens).inMode
        (.plain s.text.toList.reverse .empty)).step '\n' rest =
        some ((resting p (i :: indents) pending false tokens).inMode
          (.plain s.text.toList.reverse (.lines (some '\n') []))) := by
      rw [step_plain rfl]
      unfold plain
      rw [if_neg (by decide), if_pos (by decide)]
      rfl
    have hleft : p.nextLine.column + n ≤ i := (Nat.zero_add n).symm ▸ hcolumn
    have hends : ((resting p.nextLine (i :: indents) pending false tokens).inMode
        (.plain s.text.toList.reverse (.lines (some '\n') []))).result rest = _ :=
      result_plain_lines hleft h
    rw [List.reverse_reverse, String.ofList_toList] at hends
    dsimp only
    rw [result_cons, hstep, Option.bind_some, advance_newline]
    exact hends
  | _ => exact result_newline

/-- A blank between tokens. -/
theorem result_blank (indents : List Nat) (allowed : Bool) :
    (resting p indents none allowed tokens).result (' ' :: rest) =
      (resting (p.past 1) indents none allowed tokens).result rest :=
  result_margin rfl rfl 1 rest

/-- **Lines.**  A scalar to the right of the start of its block is read up to the end of its line. -/
theorem result_leaf {outer : List Nat} {n m : Nat} (hcolumn : n < p.column) {s : Scalar}
    (hs : s.Legible) (hm : m ≤ n) (hrest : Resumes m rest) :
    (resting p (n :: outer) none allowed tokens).result (s.glyphs ++ '\n' :: rest) =
      (resting (p.past s.glyphs.length).nextLine (n :: outer) none true
        (.scalar s.style s.text :: tokens)).result rest := by
  have hfits : Fits p.column (n :: outer) := by
    rintro i hi
    obtain rfl : n = i := Option.some.inj hi
    exact Nat.le_of_lt hcolumn
  rw [result_scalar hs hfits (.inr rfl), result_holding_newline hm hrest]
  cases allowed with
  | false => rfl
  | true =>
    refine result_stale ?_ (Nat.lt_succ_self _) hrest
    exact decide_eq_false fun heq => Nat.ne_of_lt hcolumn (Option.some.inj heq)

end

end Lexer

end SqlSession.Yaml
