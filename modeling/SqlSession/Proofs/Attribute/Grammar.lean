import SqlSession.Proofs.Attribute
/-!
# The grammar of connection strings

A layout is a connection string as it may be written: which value stands in braces, the padding,
the separators, and the case of the keys are part of it.

    layout    =  separators  |  separators listing
    listing   =  spelling separators  |  spelling separators listing
    spelling  =  key "=" value
    value     =  blanks "{" inner "}" blanks  |  bare

A semicolon is among the separators between two spellings.

    parseAll s = ok as          ↔  s is the text of a layout of as
    parseAll s = a syntax error ↔  s is the text of no layout              (parseAll_grammar)
-/

namespace SqlSession.Attribute

open Text

/-! ## Layouts -/

/-- Padding. -/
abbrev Blanks := { cs : List Char // ∀ c ∈ cs, isBlank c = true }

/-- Semicolons and blanks. -/
abbrev Separators := { cs : List Char // ∀ c ∈ cs, isSeparator c = true }

/-- What may stand behind an equals sign. -/
inductive ValueSpelling where
  | braced (before : Blanks) (inner : List Char) (behind : Blanks) (hinner : '}' ∉ inner)
  | bare (text : List Char) (hsemicolon : ';' ∉ text) (hbrace : (trimLeft text).head? ≠ some '{')

namespace ValueSpelling

def text : ValueSpelling → List Char
  | braced before inner behind _ => before.val ++ '{' :: (inner ++ '}' :: behind.val)
  | bare text _ _ => text

/-- A value in braces is taken as it is, a bare one is trimmed. -/
def value : ValueSpelling → List Char
  | braced _ inner _ _ => inner
  | bare text _ _ => trim text

end ValueSpelling

/-- An attribute as it may be written. -/
structure Spelling where
  key : List Char
  value : ValueSpelling
  plain : ∀ c ∈ key, c ≠ ';' ∧ c ≠ '='
  named : trim key ≠ []

namespace Spelling

def text (s : Spelling) : List Char := s.key ++ '=' :: s.value.text

/-- The key is trimmed and written in capitals. -/
def toAttribute (s : Spelling) : Attribute where
  key := String.ofList (upper (trim s.key))
  value := String.ofList s.value.value

end Spelling

/-- One or more attributes, each with the separators behind it. -/
inductive Listing where
  | last (spelling : Spelling) (behind : Separators)
  | more (spelling : Spelling) (gap : Separators) (hgap : ';' ∈ gap.val) (rest : Listing)

namespace Listing

def text : Listing → List Char
  | last spelling behind => spelling.text ++ behind.val
  | more spelling gap _ rest => spelling.text ++ (gap.val ++ rest.text)

def attributes : Listing → List Attribute
  | last spelling _ => [spelling.toAttribute]
  | more spelling _ _ rest => spelling.toAttribute :: rest.attributes

end Listing

/-- A connection string as it may be written. -/
inductive Layout where
  | empty (front : Separators)
  | list (front : Separators) (listing : Listing)

namespace Layout

def chars : Layout → List Char
  | empty front => front.val
  | list front listing => front.val ++ listing.text

/-- The connection string itself. -/
def text (l : Layout) : String := String.ofList l.chars

def attributes : Layout → List Attribute
  | empty _ => []
  | list _ listing => listing.attributes

end Layout

/-! ## Padding and separators -/

theorem trimLeft_blanks (blanks : Blanks) (cs : List Char) :
    trimLeft (blanks.val ++ cs) = trimLeft cs :=
  List.dropWhile_append_of_pos blanks.property

/-- Blanks in front of an end or a semicolon belong to the text before it. -/
theorem trimLeft_append_ends (cs : List Char) {rest : List Char} (hrest : Ends rest) :
    trimLeft (cs ++ rest) = trimLeft cs ++ rest := by
  have hends := trimLeft_of_ends hrest
  unfold trimLeft at hends ⊢
  rw [List.dropWhile_append]
  split
  · rename_i hcs
    rw [hends, List.isEmpty_iff.1 hcs, List.nil_append]
  · rfl

/-- A text goes on as it starts: no brace comes first unless it does in one of its parts. -/
theorem head_trimLeft_append {cs tail : List Char} (hcs : (trimLeft cs).head? ≠ some '{')
    (htail : (trimLeft tail).head? ≠ some '{') : (trimLeft (cs ++ tail)).head? ≠ some '{' := by
  unfold trimLeft at hcs htail ⊢
  rw [List.dropWhile_append]
  split
  · exact htail
  · rename_i hne
    rw [List.head?_append_of_ne_nil _ (by simpa using hne)]
    exact hcs

/-- Separators are blanks, and from the first semicolon on separators again. -/
theorem separators_split (gap : Separators) :
    ∃ (blanks : Blanks) (ends : Separators), gap.val = blanks.val ++ ends.val ∧ Ends ends.val ∧
      (ends.val = [] → ';' ∉ gap.val) := by
  obtain ⟨cs, hcs⟩ := gap
  induction cs with
  | nil => exact ⟨⟨[], by simp⟩, ⟨[], by simp⟩, rfl, .inl rfl, by simp⟩
  | cons c cs ih =>
    by_cases hc : c = ';'
    · subst hc
      exact ⟨⟨[], by simp⟩, ⟨';' :: cs, hcs⟩, rfl, .inr ⟨cs, rfl⟩, by simp⟩
    · obtain ⟨blanks, ends, hsplit, hends, hnone⟩ := ih fun c' hc' => hcs c' (by simp [hc'])
      have hblank : isBlank c = true := by simpa [isSeparator, hc] using hcs c (by simp)
      refine ⟨⟨c :: blanks.val, ?_⟩, ends, congrArg (c :: ·) hsplit, hends, fun hempty => ?_⟩
      · simpa [hblank] using blanks.property
      · simpa [Ne.symm hc] using hnone hempty

theorem parseChars_separators (gap : Separators) (cs : List Char) :
    parseChars (gap.val ++ cs) = parseChars cs := by
  rw [parseChars_eq, parseChars_eq cs, List.dropWhile_append_of_pos gap.property]

/-! ## What is written is read -/

/-- A value is read up to the next semicolon, whatever blanks stand in between. -/
theorem readValue_text (key : List Char) (v : ValueSpelling) (blanks : Blanks) {rest : List Char}
    (hrest : Ends rest) :
    readValue key (v.text ++ (blanks.val ++ rest)) = .ok (v.value, rest) := by
  cases v with
  | braced before inner behind hinner =>
    have hopen : trimLeft (before.val ++ '{' :: (inner ++ '}' :: (behind.val ++
        (blanks.val ++ rest)))) =
        '{' :: (inner ++ '}' :: (behind.val ++ (blanks.val ++ rest))) := by
      rw [trimLeft_blanks]
      exact trimLeft_cons_of_not_blank _ (by decide)
    have hclose : trimLeft (behind.val ++ (blanks.val ++ rest)) = rest := by
      rw [trimLeft_blanks, trimLeft_blanks, trimLeft_of_ends hrest]
    simp only [ValueSpelling.text, ValueSpelling.value, List.append_assoc, List.cons_append]
    simp only [readValue, hopen, cut_append hinner, hclose]
    obtain rfl | ⟨after, rfl⟩ := hrest <;> rfl
  | bare text hsemicolon hbrace =>
    have hleft : trimLeft (text ++ (blanks.val ++ rest)) =
        trimLeft (text ++ blanks.val) ++ rest := by
      rw [← List.append_assoc, trimLeft_append_ends _ hrest]
    have hall : ∀ c ∈ trimLeft (text ++ blanks.val), (c != ';') = true := by
      intro c hc
      rw [bne_iff_ne]
      rintro rfl
      obtain hc | hc := List.mem_append.1 ((List.dropWhile_sublist isBlank).mem hc)
      · exact hsemicolon hc
      · exact absurd (blanks.property _ hc) (by decide)
    have hhead : (trimLeft (text ++ (blanks.val ++ rest))).head? ≠ some '{' := by
      refine head_trimLeft_append hbrace ?_
      rw [trimLeft_blanks, trimLeft_of_ends hrest]
      obtain rfl | ⟨after, rfl⟩ := hrest <;> simp
    have hends : rest.takeWhile (· != ';') = [] ∧ rest.dropWhile (· != ';') = rest := by
      obtain rfl | ⟨after, rfl⟩ := hrest <;> simp
    simp only [ValueSpelling.text, ValueSpelling.value]
    rw [readValue_bare hhead, hleft, List.takeWhile_append_of_pos hall,
      List.dropWhile_append_of_pos hall, hends.1, hends.2, List.append_nil, trim_trimLeft,
      trim_append_blanks _ blanks.property]

/-- In front of an attribute only the padding of its key is skipped. -/
theorem dropWhile_key {key : List Char} (hplain : ∀ c ∈ key, c ≠ ';' ∧ c ≠ '=')
    (hnamed : trim key ≠ []) (behind : List Char) :
    (key ++ '=' :: behind).dropWhile isSeparator = trimLeft key ++ '=' :: behind := by
  have hkey : key.dropWhile isSeparator = trimLeft key := by
    clear hnamed
    induction key with
    | nil => rfl
    | cons c cs ih =>
      have hc : isSeparator c = isBlank c := by simp [isSeparator, (hplain c (by simp)).1]
      have hcs := ih fun c' hc' => hplain c' (by simp [hc'])
      simp only [trimLeft, List.dropWhile_cons, hc] at hcs ⊢
      rw [hcs]
  rw [List.dropWhile_append, hkey, if_neg (by simpa using trimLeft_ne_nil hnamed)]

/-- **One attribute.**  It is read up to the separators behind it, whatever its spelling. -/
theorem parseChars_spelling (s : Spelling) (gap : Separators) (more : List Char)
    (h : ';' ∈ gap.val ∨ more = []) :
    parseChars (s.text ++ (gap.val ++ more)) = (parseChars more).map (s.toAttribute :: ·) := by
  obtain ⟨blanks, ends, hsplit, hends, hnone⟩ := separators_split gap
  have hrest : Ends (ends.val ++ more) := by
    obtain hempty | ⟨after, hafter⟩ := hends
    · have hmore : more = [] := h.resolve_left (hnone hempty)
      exact .inl (by rw [hempty, hmore]; rfl)
    · exact .inr ⟨after ++ more, by rw [hafter]; rfl⟩
  have hplain : ∀ c ∈ trimLeft s.key, c ≠ ';' ∧ c ≠ '=' := fun c hc =>
    s.plain c ((List.dropWhile_sublist isBlank).mem hc)
  have hnamed : trim (trimLeft s.key) ≠ [] := by
    rw [trim_trimLeft]
    exact s.named
  have hnext := readNext_key hplain hnamed (s.value.text ++ (blanks.val ++ (ends.val ++ more)))
  rw [readValue_text _ _ _ hrest, trim_trimLeft] at hnext
  obtain ⟨c, key, hkey⟩ := List.exists_cons_of_ne_nil (trimLeft_ne_nil s.named)
  rw [parseChars_eq, Spelling.text, hsplit, List.append_assoc, List.cons_append, List.append_assoc,
    dropWhile_key s.plain s.named]
  rw [hkey, List.cons_append] at hnext ⊢
  simp only [hnext, Except.map]
  rw [parseChars_separators]
  rfl

/-- Attributes are read one by one. -/
theorem parseChars_listing (l : Listing) : parseChars l.text = .ok l.attributes := by
  induction l with
  | last spelling behind =>
    have hlast := parseChars_spelling spelling behind [] (.inr rfl)
    rw [List.append_nil, parseChars_nil] at hlast
    exact hlast
  | more spelling gap hgap rest ih =>
    have hmore := parseChars_spelling spelling gap rest.text (.inl hgap)
    rw [ih] at hmore
    exact hmore

/-- **Writing.**  Any layout is read as its attributes. -/
theorem parseAll_text (l : Layout) : parseAll l.text = .ok l.attributes := by
  rw [parseAll, Layout.text, String.toList_ofList]
  cases l with
  | empty front =>
    have hempty := parseChars_separators front []
    rw [List.append_nil, parseChars_nil] at hempty
    exact hempty
  | list front listing =>
    rw [Layout.chars, parseChars_separators]
    exact parseChars_listing listing

/-! ## What is read was written -/

theorem ends_dropWhile (cs : List Char) : Ends (cs.dropWhile (· != ';')) := by
  rcases hdrop : cs.dropWhile (· != ';') with _ | ⟨c, rest⟩
  · exact .inl rfl
  · obtain rfl : c = ';' := by
      have hhead := List.head?_dropWhile_not (· != ';') cs
      simpa [hdrop] using hhead
    exact .inr ⟨rest, rfl⟩

theorem exists_blanks (cs : List Char) : ∃ blanks : Blanks, cs = blanks.val ++ trimLeft cs :=
  ⟨⟨cs.takeWhile isBlank, fun _ hc => List.mem_takeWhile_imp hc⟩,
    List.takeWhile_append_dropWhile.symm⟩

/-- The separators in front. -/
def leading (cs : List Char) : Separators :=
  ⟨cs.takeWhile isSeparator, fun _ hc => List.mem_takeWhile_imp hc⟩

theorem leading_append (cs : List Char) : (leading cs).val ++ cs.dropWhile isSeparator = cs :=
  List.takeWhile_append_dropWhile

/-- A bare value runs to the next semicolon. -/
theorem exists_bare {cs : List Char} (h : (trimLeft cs).head? ≠ some '{') :
    ∃ v : ValueSpelling, v.value = trim ((trimLeft cs).takeWhile (· != ';')) ∧
      cs = v.text ++ (trimLeft cs).dropWhile (· != ';') := by
  obtain ⟨before, hbefore⟩ := exists_blanks cs
  have hpart := List.takeWhile_prefix (· != ';') (l := trimLeft cs)
  have hleft := trimLeft_of_prefix (trimLeft_trimLeft cs) hpart
  have hsemicolon : ';' ∉ before.val ++ (trimLeft cs).takeWhile (· != ';') := by
    intro hmem
    obtain hmem | hmem := List.mem_append.1 hmem
    · exact absurd (before.property _ hmem) (by decide)
    · exact absurd (List.mem_takeWhile_imp hmem) (by decide)
  have hbrace : (trimLeft (before.val ++ (trimLeft cs).takeWhile (· != ';'))).head? ≠ some '{' := by
    rw [trimLeft_blanks, hleft]
    intro hhead
    obtain ⟨after, hafter⟩ := hpart
    rw [← hafter, List.head?_append, hhead] at h
    exact h rfl
  refine ⟨.bare _ hsemicolon hbrace, ?_, ?_⟩
  · rw [ValueSpelling.value, ← trim_trimLeft, trimLeft_blanks, hleft]
  · rw [ValueSpelling.text, List.append_assoc, List.takeWhile_append_dropWhile, ← hbefore]

/-- What is read behind an equals sign is the spelling of a value, and an end or a semicolon. -/
theorem spelling_of_readValue {key cs text rest : List Char}
    (h : readValue key cs = .ok (text, rest)) :
    Ends rest ∧ ∃ v : ValueSpelling, v.value = text ∧ cs = v.text ++ rest := by
  obtain ⟨inner, text', after, hinner, hcut, hends, hread⟩ | ⟨hbrace, hread⟩ | ⟨near, hread⟩ :=
    readValue_cases key cs
  · obtain ⟨rfl, rfl⟩ := Prod.mk.inj (Except.ok.inj (hread.symm.trans h))
    obtain ⟨before, hbefore⟩ := exists_blanks cs
    obtain ⟨behind, hbehind⟩ := exists_blanks after
    refine ⟨hends, .braced before text' behind (not_mem_of_cut hcut), rfl, ?_⟩
    rw [ValueSpelling.text, List.append_assoc, List.cons_append, List.append_assoc,
      List.cons_append, ← hbehind, ← cut_eq_some hcut, ← hinner, ← hbefore]
  · obtain ⟨rfl, rfl⟩ := Prod.mk.inj (Except.ok.inj (hread.symm.trans h))
    exact ⟨ends_dropWhile _, exists_bare hbrace⟩
  · exact absurd (hread.symm.trans h) (by simp)

/-- What is read as an attribute is a spelling of it, and an end or a semicolon. -/
theorem spelling_of_readNext {cs rest : List Char} {a : Attribute}
    (h : readNext cs = .ok (a, rest)) :
    Ends rest ∧ ∃ s : Spelling, s.toAttribute = a ∧ cs = s.text ++ rest := by
  obtain ⟨key, behind, text, rfl, hplain, hnamed, hvalue, rfl⟩ := readValue_of_readNext h
  obtain ⟨hends, v, rfl, rfl⟩ := spelling_of_readValue hvalue
  refine ⟨hends, ⟨key, v, hplain, hnamed⟩, rfl, ?_⟩
  rw [Spelling.text, List.append_assoc, List.cons_append]

theorem text_listing_ne_nil (l : Listing) : l.text ≠ [] := by
  cases l <;> simp [Listing.text, Spelling.text]

/-- What is read as attributes is, behind the separators in front, a listing of them. -/
theorem listing_of_parseChars (cs : List Char) :
    ∀ as, parseChars cs = .ok as →
      as = [] ∧ cs.dropWhile isSeparator = [] ∨
        ∃ l : Listing, l.attributes = as ∧ cs.dropWhile isSeparator = l.text := by
  refine parseChars_induct (motive := fun cs result => ∀ as, result = .ok as →
    as = [] ∧ cs.dropWhile isSeparator = [] ∨
      ∃ l : Listing, l.attributes = as ∧ cs.dropWhile isSeparator = l.text)
    ?done ?next ?fails ?fails_behind cs
  case done =>
    rintro cs hcs as ⟨⟩
    exact .inl ⟨rfl, hcs⟩
  case next =>
    rintro cs c rest a behind as hcs hnext ih _ ⟨⟩
    obtain ⟨hends, s, rfl, htext⟩ := spelling_of_readNext hnext
    have hgap := leading_append behind
    refine .inr ?_
    rw [hcs, htext]
    obtain ⟨rfl, hnone⟩ | ⟨l, rfl, hl⟩ := ih as rfl
    · refine ⟨.last s (leading behind), rfl, ?_⟩
      rw [hnone, List.append_nil] at hgap
      rw [Listing.text, hgap]
    · -- another attribute follows, so what ends this one is a semicolon
      have hsemicolon : ';' ∈ (leading behind).val := by
        obtain rfl | ⟨after, rfl⟩ := hends
        · exact absurd hl.symm (text_listing_ne_nil l)
        · simp [leading, isSeparator]
      refine ⟨.more s (leading behind) hsemicolon l, rfl, ?_⟩
      rw [Listing.text, ← hl, hgap]
  case fails =>
    rintro cs c rest e - - as ⟨⟩
  case fails_behind =>
    rintro cs c rest a behind e - - - as ⟨⟩

/-- **Reading.**  What is read is the text of a layout of what is read. -/
theorem exists_layout_of_parseAll {s : String} {as : List Attribute} (h : parseAll s = .ok as) :
    ∃ l : Layout, l.text = s ∧ l.attributes = as := by
  have hfront := leading_append s.toList
  obtain ⟨rfl, hnone⟩ | ⟨l, rfl, hl⟩ := listing_of_parseChars s.toList as h
  · refine ⟨.empty (leading s.toList), ?_, rfl⟩
    rw [hnone, List.append_nil] at hfront
    rw [Layout.text, Layout.chars, hfront, String.ofList_toList]
  · refine ⟨.list (leading s.toList) l, ?_, rfl⟩
    rw [Layout.text, Layout.chars, ← hl, hfront, String.ofList_toList]

/-! ## Errors -/

theorem error_of_readValue {key cs : List Char} {e : ConfigError}
    (h : readValue key cs = .error e) : ∃ near, e = .invalidSyntax near := by
  obtain ⟨_, _, _, -, -, -, hread⟩ | ⟨-, hread⟩ | ⟨near, hread⟩ := readValue_cases key cs
  · exact absurd (hread.symm.trans h) (by simp)
  · exact absurd (hread.symm.trans h) (by simp)
  · exact ⟨near, (Except.error.inj (hread.symm.trans h)).symm⟩

theorem error_of_readNext {cs : List Char} {e : ConfigError} (h : readNext cs = .error e) :
    ∃ near, e = .invalidSyntax near := by
  obtain ⟨key, behind, rfl, hplain, hnamed⟩ | ⟨near, hread⟩ := readNext_cases cs
  · rw [readNext_key hplain hnamed] at h
    cases hvalue : readValue (trim key) behind with
    | error e' =>
      rw [hvalue] at h
      obtain rfl : e' = e := Except.error.inj h
      exact error_of_readValue hvalue
    | ok r => simp only [hvalue, Except.map, reduceCtorEq] at h
  · exact ⟨near, (Except.error.inj (hread.symm.trans h)).symm⟩

theorem error_of_parseChars (cs : List Char) :
    ∀ e, parseChars cs = .error e → ∃ near, e = .invalidSyntax near := by
  refine parseChars_induct (motive := fun _ result =>
    ∀ e, result = .error e → ∃ near, e = .invalidSyntax near) ?done ?next ?fails ?fails_behind cs
  case done =>
    rintro cs - e ⟨⟩
  case next =>
    rintro cs c rest a behind as - - - e ⟨⟩
  case fails =>
    rintro cs c rest _ - hnext e ⟨⟩
    exact error_of_readNext hnext
  case fails_behind =>
    rintro cs c rest a behind e' - - ih e herror
    exact ih e herror

/-! ## Which attributes can be written -/

/-- An attribute that some spelling gives. -/
structure Spellable (a : Attribute) : Prop where
  named : a.key.toList ≠ []
  trimmed : trim a.key.toList = a.key.toList
  capitals : upper a.key.toList = a.key.toList
  plain : ∀ c ∈ a.key.toList, c ≠ ';' ∧ c ≠ '='
  value : '}' ∉ a.value.toList ∨
    trim a.value.toList = a.value.toList ∧ ';' ∉ a.value.toList ∧ a.value.toList.head? ≠ some '{'

theorem spellable_toAttribute (s : Spelling) : Spellable s.toAttribute := by
  have hkey : s.toAttribute.key.toList = upper (trim s.key) := String.toList_ofList
  have hvalue : s.toAttribute.value.toList = s.value.value := String.toList_ofList
  constructor <;> simp only [hkey, hvalue]
  case named =>
    simpa [upper] using s.named
  case trimmed =>
    rw [trim_upper, trim_trim]
  case capitals =>
    exact upper_upper _
  case plain =>
    have hplain : ∀ c, c.isUpper = false → c ∈ upper (trim s.key) → c ≠ ';' ∧ c ≠ '=' :=
      fun c hcapital hc => s.plain c (mem_of_mem_trim (mem_of_mem_upper hc hcapital))
    intro c hc
    constructor
    · rintro rfl
      exact (hplain ';' (by decide) hc).1 rfl
    · rintro rfl
      exact (hplain '=' (by decide) hc).2 rfl
  case value =>
    cases s.value with
    | braced before inner behind hinner => exact .inl hinner
    | bare text hsemicolon hbrace =>
      refine .inr ⟨trim_trim text, fun hmem => hsemicolon (mem_of_mem_trim hmem), fun hhead => ?_⟩
      obtain ⟨behind, hbehind⟩ := prefix_trimRight (trimLeft text)
      rw [← hbehind, List.head?_append, show (trimRight (trimLeft text)).head? = _ from hhead]
        at hbrace
      exact hbrace rfl

theorem exists_spelling {a : Attribute} (h : Spellable a) : ∃ s : Spelling, s.toAttribute = a := by
  have hvalue : ∃ v : ValueSpelling, v.value = a.value.toList := by
    obtain hclosing | ⟨htrim, hsemicolon, hbrace⟩ := h.value
    · exact ⟨.braced ⟨[], by simp⟩ _ ⟨[], by simp⟩ hclosing, rfl⟩
    · refine ⟨.bare a.value.toList hsemicolon ?_, htrim⟩
      rwa [trimLeft_of_trim htrim]
  obtain ⟨v, hv⟩ := hvalue
  refine ⟨⟨a.key.toList, v, h.plain, ?_⟩, ?_⟩
  · rw [h.trimmed]
    exact h.named
  · show ({ key := String.ofList (upper (trim a.key.toList)), value := String.ofList v.value } :
      Attribute) = a
    rw [h.trimmed, h.capitals, hv, String.ofList_toList, String.ofList_toList]

theorem exists_listing {a : Attribute} {as : List Attribute} (h : ∀ b ∈ a :: as, Spellable b) :
    ∃ l : Listing, l.attributes = a :: as := by
  induction as generalizing a with
  | nil =>
    obtain ⟨s, hs⟩ := exists_spelling (h a (by simp))
    exact ⟨.last s ⟨[], by simp⟩, congrArg (· :: []) hs⟩
  | cons b as ih =>
    obtain ⟨s, hs⟩ := exists_spelling (h a (by simp))
    obtain ⟨l, hl⟩ := ih (a := b) fun c hc => h c (List.mem_cons_of_mem a hc)
    exact ⟨.more s ⟨[';'], by simp [isSeparator]⟩ (by simp) l, congrArg₂ (· :: ·) hs hl⟩

theorem spellable_of_mem_listing (l : Listing) : ∀ a ∈ l.attributes, Spellable a := by
  induction l with
  | last s behind => simpa [Listing.attributes] using spellable_toAttribute s
  | more s gap hgap rest ih =>
    simpa [Listing.attributes] using ⟨spellable_toAttribute s, ih⟩

/-- Layouts give the lists of attributes that have a spelling each. -/
theorem exists_layout_iff (as : List Attribute) :
    (∃ l : Layout, l.attributes = as) ↔ ∀ a ∈ as, Spellable a := by
  constructor
  · rintro ⟨_ | ⟨front, listing⟩, rfl⟩
    · simp [Layout.attributes]
    · exact spellable_of_mem_listing listing
  · intro h
    cases as with
    | nil => exact ⟨.empty ⟨[], by simp⟩, rfl⟩
    | cons a as =>
      obtain ⟨l, hl⟩ := exists_listing h
      exact ⟨.list ⟨[], by simp⟩ l, hl⟩

/-- **Connection strings.**  A text is read as some attributes exactly if it lays them out, in
whatever spelling; any other text is a syntax error.  Every list of attributes that can be spelled
has a layout. -/
theorem parseAll_grammar :
    (∀ s as, parseAll s = .ok as ↔ ∃ l : Layout, l.text = s ∧ l.attributes = as) ∧
      (∀ s, (∃ near, parseAll s = .error (.invalidSyntax near)) ↔ ∀ l : Layout, l.text ≠ s) ∧
      ∀ as, (∃ l : Layout, l.attributes = as) ↔ ∀ a ∈ as, Spellable a := by
  refine ⟨fun s as => ⟨exists_layout_of_parseAll, ?_⟩, fun s => ⟨?_, fun h => ?_⟩,
    exists_layout_iff⟩
  · rintro ⟨l, rfl, rfl⟩
    exact parseAll_text l
  · rintro ⟨near, herror⟩ l rfl
    simp [parseAll_text l] at herror
  · cases hread : parseAll s with
    | error e =>
      obtain ⟨near, rfl⟩ := error_of_parseChars _ e hread
      exact ⟨near, rfl⟩
    | ok as =>
      obtain ⟨l, hl, -⟩ := exists_layout_of_parseAll hread
      exact absurd hl (h l)

end SqlSession.Attribute
