import SqlSession.Proofs.Configuration.Field
/-!
# Applying a connection string

What a connection string does to a configuration, whatever the two are:

    the text has a syntax error    →  that is the error, and nothing is set
    all values are valid           →  the last attribute for a field counts, other fields stay
    one is the first that is not   →  it is the error, and the attributes in front of it are set

* `Field.Spells`: which texts are values of a field.
* `SameByField`: two lists of attributes that differ at most in the order of attributes for different
  fields, and in attributes for no field.
* `Layout.SameButCase`: two texts that differ at most in the case of keys.
* `applyConnectString_effect`: all of it.
* `applyConnectString_join`: a text behind another one, with a semicolon between them, is applied
  behind it.
-/

namespace SqlSession

open Text Attribute

/-! ## Values -/

namespace Configuration

theorem readFlag_eq_some_iff (text : String) (flag : Bool) :
    readFlag text = some flag ↔ sameLetters text (flagText flag) = true := by
  have hapart : sameLetters text "false" = true → sameLetters text "true" = false := by
    intro hfalse
    simp only [sameLetters, beq_iff_eq] at hfalse ⊢
    rw [hfalse]
    decide
  unfold readFlag
  cases flag with
  | true => simp [flagText]
  | false =>
    cases hfalse : sameLetters text "false" with
    | true => simp [flagText, hfalse, hapart hfalse]
    | false => simp [flagText, hfalse]

end Configuration

/-- The texts, already trimmed, that are given for the values of a field. -/
def Field.Spells : (field : Field) → String → field.Value → Prop
  | .dsn, text, v => v = some text
  | .driver, text, v => v = text
  | .address, text, v => v = if text.isEmpty then none else some text
  | .server, text, v => v = text
  | .port, text, (v : UInt16) => Numeral text.toList v.toNat
  | .schema, text, v => v = text
  | .pageSize, text, (v : UInt32) => Numeral text.toList v.toNat ∧ v ≠ 0
  | .protocolVersion, text, v => v = text
  | .distributedJoins, text, v => sameLetters text (Configuration.flagText v) = true
  | .enforceJoinOrder, text, v => sameLetters text (Configuration.flagText v) = true
  | .replicatedOnly, text, v => sameLetters text (Configuration.flagText v) = true
  | .collocated, text, v => sameLetters text (Configuration.flagText v) = true
  | .lazy, text, v => sameLetters text (Configuration.flagText v) = true
  | .loginTimeout, text, (v : UInt64) => Numeral text.toList v.toNat

/-- A text is read as the value it spells. -/
theorem Field.read?_eq_some_iff (f : Field) (text : String) (v : f.Value) :
    f.read? text = some v ↔ f.Spells text v := by
  have hgiven : ∀ {α : Type} (x v : α), some x = some v ↔ v = x := by
    intro α x v
    rw [Option.some.injEq, eq_comm]
  have hsize : ∀ v : UInt32, (readUInt32 text.toList).filter (· ≠ 0) = some v ↔
      Numeral text.toList v.toNat ∧ v ≠ 0 := by
    intro v
    rw [Option.filter_eq_some_iff, readUInt32_eq_some_iff, decide_eq_true_eq]
  cases f with
  | dsn => exact hgiven (some text) v
  | driver => exact hgiven text v
  | address => exact hgiven (if text.isEmpty then none else some text) v
  | server => exact hgiven text v
  | port => exact readUInt16_eq_some_iff text.toList v
  | schema => exact hgiven text v
  | pageSize => exact hsize v
  | protocolVersion => exact hgiven text v
  | distributedJoins => exact Configuration.readFlag_eq_some_iff text v
  | enforceJoinOrder => exact Configuration.readFlag_eq_some_iff text v
  | replicatedOnly => exact Configuration.readFlag_eq_some_iff text v
  | collocated => exact Configuration.readFlag_eq_some_iff text v
  | lazy => exact Configuration.readFlag_eq_some_iff text v
  | loginTimeout => exact readUInt64_eq_some_iff text.toList v

namespace Attribute

theorem valid_iff (a : Attribute) :
    a.Valid ↔ ∀ f, a.field? = some f → ∃ v, f.Spells (trimmed a.value) v := by
  simp only [Valid, Option.isSome_iff_exists, Field.read?_eq_some_iff]

/-! ## The order of attributes -/

/-- The attributes for a field, in order. -/
def forField (f : Field) (as : List Attribute) : List Attribute :=
  as.filter fun a => a.field? = some f

/-- Two lists have the same attributes in the same order for each field. -/
def SameByField (as bs : List Attribute) : Prop := ∀ f, forField f as = forField f bs

theorem forField_eq_nil_iff (f : Field) (as : List Attribute) :
    forField f as = [] ↔ ∀ a ∈ as, a.field? ≠ some f := by
  simp [forField, List.filter_eq_nil_iff]

theorem mem_forField (a : Attribute) (f : Field) (as : List Attribute) :
    a ∈ forField f as ↔ a ∈ as ∧ a.field? = some f := by
  simp [forField]

/-- The last attribute for a field is the last one of those for the field. -/
theorem lastFor_iff (a : Attribute) (f : Field) (as : List Attribute) :
    a.LastFor f as ↔ (forField f as).getLast? = some a := by
  constructor
  · rintro ⟨front, behind, rfl, ha, hbehind⟩
    have hnone := (forField_eq_nil_iff f behind).2 hbehind
    unfold forField at hnone ⊢
    rw [List.filter_append, List.filter_cons_of_pos (by simpa using ha), hnone]
    exact List.getLast?_concat
  · intro h
    obtain ⟨others, hothers⟩ := List.getLast?_eq_some_iff.1 h
    obtain ⟨front, last, rfl, -, hlast⟩ := List.filter_eq_append_iff.1 hothers
    obtain ⟨between, behind, rfl, -, ha, hbehind⟩ := List.filter_eq_cons_iff.1 hlast
    refine ⟨front ++ between, behind, by simp, by simpa using ha, ?_⟩
    exact (forField_eq_nil_iff f behind).1 hbehind

/-- Two attributes that are not for one field can change places. -/
theorem sameByField_swap (front behind : List Attribute) {a b : Attribute}
    (h : ∀ f, a.field? = some f → b.field? ≠ some f) :
    SameByField (front ++ a :: b :: behind) (front ++ b :: a :: behind) := by
  intro f
  unfold forField
  rw [List.filter_append, List.filter_append]
  by_cases ha : a.field? = some f
  · simp [ha, h f ha]
  · simp [ha, List.filter_cons]

theorem SameByField.valid {as bs : List Attribute} (h : SameByField as bs)
    (hvalid : ∀ a ∈ as, a.Valid) : ∀ b ∈ bs, b.Valid := by
  intro b hb f hf
  have hmem : b ∈ forField f as := by
    rw [h f]
    exact (mem_forField b f bs).2 ⟨hb, hf⟩
  exact hvalid b ((mem_forField b f as).1 hmem).1 f hf

end Attribute

namespace Configuration

/-- What is laid over a configuration only depends on the attributes for each field. -/
theorem Overlays.of_sameByField {c base : Configuration} {as bs : List Attribute}
    (h : c.Overlays as base) (hsame : SameByField as bs) : c.Overlays bs base where
  given f a ha := by
    rw [lastFor_iff, ← hsame f, ← lastFor_iff] at ha
    exact h.given f a ha
  kept f hnone := by
    rw [← forField_eq_nil_iff, ← hsame f, forField_eq_nil_iff] at hnone
    exact h.kept f hnone

end Configuration

namespace Attribute

/-! ## The case of keys -/

/-- Two spellings differ at most in the case of the letters of the key. -/
def Spelling.SameButCase (s t : Spelling) : Prop := upper s.key = upper t.key ∧ s.value = t.value

/-- Two listings differ at most in the case of keys. -/
inductive Listing.SameButCase : Listing → Listing → Prop
  | last {s t : Spelling} (h : s.SameButCase t) (behind : Separators) :
      SameButCase (.last s behind) (.last t behind)
  | more {s t : Spelling} {rest rest' : Listing} (h : s.SameButCase t) (gap : Separators)
      (hgap : ';' ∈ gap.val) (hrest : SameButCase rest rest') :
      SameButCase (.more s gap hgap rest) (.more t gap hgap rest')

/-- Two layouts differ at most in the case of keys. -/
inductive Layout.SameButCase : Layout → Layout → Prop
  | empty (front : Separators) : SameButCase (.empty front) (.empty front)
  | list (front : Separators) {listing listing' : Listing} (h : listing.SameButCase listing') :
      SameButCase (.list front listing) (.list front listing')

theorem Spelling.SameButCase.toAttribute {s t : Spelling} (h : s.SameButCase t) :
    s.toAttribute = t.toAttribute := by
  obtain ⟨hkey, hvalue⟩ := h
  simp only [Spelling.toAttribute, ← trim_upper, hkey, hvalue]

theorem Layout.SameButCase.attributes {l l' : Layout} (h : l.SameButCase l') :
    l.attributes = l'.attributes := by
  cases h with
  | empty front => rfl
  | list front h =>
    show Listing.attributes _ = Listing.attributes _
    induction h with
    | last h behind => exact congrArg (· :: []) h.toAttribute
    | more h gap hgap _ ih => exact congrArg₂ (· :: ·) h.toAttribute ih

end Attribute

namespace Configuration

/-! ## Applying -/

theorem applyConnectString_of_error (c : Configuration) {s : String} {e : ConfigError}
    (h : parseAll s = .error e) : c.applyConnectString s = (.error e, c) := by
  rw [applyConnectString, h]

theorem applyConnectString_of_ok (c : Configuration) {s : String} {as : List Attribute}
    (h : parseAll s = .ok as) : c.applyConnectString s = c.setAll as := by
  rw [applyConnectString, h]

/-- **Applying.**  A text with a syntax error sets nothing.  If all values are valid, each field gets
the value that the last attribute for it spells, and a field without one keeps its value; the order
of attributes for different fields does not matter then, nor do attributes for no field.  The first
one that is not valid is the error, and the attributes in front of it are set.  The case of keys
never matters. -/
theorem applyConnectString_effect (c : Configuration) (s : String) :
    (∀ e, parseAll s = .error e → c.applyConnectString s = (.error e, c)) ∧
      (∀ as, parseAll s = .ok as → (∀ a ∈ as, a.Valid) →
        ∃ c', c.applyConnectString s = (.ok (), c') ∧
          (∀ f (a : Attribute), a.LastFor f as → f.Spells (trimmed a.value) (c'.get f)) ∧
          (∀ f, (∀ a ∈ as, a.field? ≠ some f) → c'.get f = c.get f) ∧
          ∀ t bs, parseAll t = .ok bs → SameByField as bs →
            c.applyConnectString t = (.ok (), c')) ∧
      (∀ front a behind, parseAll s = .ok (front ++ a :: behind) → (∀ b ∈ front, b.Valid) →
        ¬ a.Valid →
        upper a.key.toList = a.key.toList ∧ ∃ c', c.setAll front = (.ok (), c') ∧
          c.applyConnectString s = (.error (.invalidValue a.key (trimmed a.value)), c')) ∧
      (∀ l l' : Layout, l.text = s → l.SameButCase l' →
        c.applyConnectString l'.text = c.applyConnectString s) ∧
      (∀ a : Attribute, a.Valid ↔ ∀ f, a.field? = some f → ∃ v, f.Spells (trimmed a.value) v) ∧
      ∀ key f, Field.ofKey? key = some f ↔ key = f.key ∨ f = .server ∧ key = "HOST" := by
  refine ⟨fun e h => c.applyConnectString_of_error h, ?valid, ?invalid, ?recased, valid_iff,
    Field.ofKey?_eq_some_iff⟩
  case valid =>
    intro as h hvalid
    obtain ⟨c', hall, hover⟩ := c.setAll_of_valid (spellable_of_parseAll h) hvalid
    refine ⟨c', (c.applyConnectString_of_ok h).trans hall,
      fun f a ha => (f.read?_eq_some_iff _ _).1 (hover.given f a ha), hover.kept, ?_⟩
    intro t bs ht hsame
    obtain ⟨c'', hall', hover'⟩ := c.setAll_of_valid (spellable_of_parseAll ht) (hsame.valid hvalid)
    rw [c.applyConnectString_of_ok ht, hall', hover'.unique (hover.of_sameByField hsame)]
  case invalid =>
    intro front a behind h hfront ha
    have hspell := spellable_of_parseAll h
    obtain ⟨c', hall, -⟩ := c.setAll_of_valid (fun b hb => hspell b (by simp [hb])) hfront
    refine ⟨(hspell a (by simp)).capitals, c', hall, ?_⟩
    rw [c.applyConnectString_of_ok h, c.setAll_of_invalid hspell hfront ha, hall]
  case recased =>
    rintro l l' rfl hcase
    rw [c.applyConnectString_of_ok (parseAll_text l), c.applyConnectString_of_ok (parseAll_text l'),
      hcase.attributes]

/-- Two keys for one field, a key for none, an address that is taken away and a number with a sign, in
another order and other letters too; then a value that is not valid, and a syntax error. -/
theorem applyConnectString_effect_mixed :
    let c : Configuration := { address := some "h", schema := "S" }
    (∃ c', c.applyConnectString "HOST=a;port= +07;x=1;Server=\x7bb \x7d;ADDRESS=" = (.ok (), c') ∧
        c'.server = "b" ∧ c'.port = 7 ∧ c'.address = none ∧ c'.schema = "S" ∧
        c.applyConnectString "PORT=+07;host=a;X=1;SERVER=\x7bb \x7d;address=" = (.ok (), c')) ∧
      c.applyConnectString "SCHEMA=T;Page_size= 0 ;PORT=1" =
        (.error (.invalidValue "PAGE_SIZE" "0"), { c with schema := "T" }) ∧
      c.applyConnectString "PORT=1;oops" = (.error (.invalidSyntax "oops"), c) ∧
      c.applyConnectString "PoRt=x" = c.applyConnectString "port=x" := by
  intro c
  let as : List Attribute :=
    [⟨"HOST", "a"⟩, ⟨"PORT", "+07"⟩, ⟨"X", "1"⟩, ⟨"SERVER", "b "⟩, ⟨"ADDRESS", ""⟩]
  let bs : List Attribute :=
    [⟨"PORT", "+07"⟩, ⟨"HOST", "a"⟩, ⟨"X", "1"⟩, ⟨"SERVER", "b "⟩, ⟨"ADDRESS", ""⟩]
  obtain ⟨-, hlaid, -⟩ :=
    c.applyConnectString_effect "HOST=a;port= +07;x=1;Server=\x7bb \x7d;ADDRESS="
  obtain ⟨-, -, hstops, -⟩ := c.applyConnectString_effect "SCHEMA=T;Page_size= 0 ;PORT=1"
  obtain ⟨hnothing, -⟩ := c.applyConnectString_effect "PORT=1;oops"
  obtain ⟨-, -, -, hrecased, -⟩ := c.applyConnectString_effect "port=x"
  have hvalid : ∀ b ∈ as, b.Valid := by
    simp only [as, List.forall_mem_cons, List.not_mem_nil, false_implies, implies_true, and_true]
    exact ⟨valid_of_read (f := .server) rfl rfl,
      valid_of_read (f := .port) rfl (show readUInt16 (trimmed "+07").toList = some 7 by decide),
      valid_of_field_none rfl, valid_of_read (f := .server) rfl rfl,
      valid_of_read (f := .address) rfl rfl⟩
  have hswapped : SameByField as bs := sameByField_swap [] (as.drop 2) fun f hhost hport =>
    absurd (hhost.trans hport.symm) (by decide)
  have hinvalid : ¬ (⟨"PAGE_SIZE", "0"⟩ : Attribute).Valid := fun h =>
    absurd (h .pageSize rfl) (by decide)
  have hfront : ∀ b ∈ [(⟨"SCHEMA", "T"⟩ : Attribute)], b.Valid := by
    simpa using valid_of_read (a := ⟨"SCHEMA", "T"⟩) (f := .schema) rfl rfl
  obtain ⟨c', hc', hgiven, hkept, hreordered⟩ := hlaid as (by decide +kernel) hvalid
  have hserver := hgiven .server ⟨"SERVER", "b "⟩ ⟨as.take 3, as.drop 4, rfl, rfl, by decide⟩
  have hport := hgiven .port ⟨"PORT", "+07"⟩ ⟨as.take 1, as.drop 2, rfl, rfl, by decide⟩
  have haddress := hgiven .address ⟨"ADDRESS", ""⟩ ⟨as.take 4, [], rfl, rfl, by simp⟩
  have hseven : c'.port = 7 := by
    have hread : readUInt16 "+07".toList = some c'.port := (Field.read?_eq_some_iff .port _ _).2 hport
    exact Option.some.inj (hread.symm.trans (by decide))
  obtain ⟨-, c'', hset, hstop⟩ := hstops [⟨"SCHEMA", "T"⟩] ⟨"PAGE_SIZE", "0"⟩ [⟨"PORT", "1"⟩]
    (by decide +kernel) hfront hinvalid
  obtain rfl : { c with schema := "T" } = c'' := congrArg Prod.snd hset
  refine ⟨⟨c', hc', hserver, hseven, haddress, hkept .schema (by decide), ?_⟩, hstop,
    hnothing _ (by decide +kernel), ?_⟩
  · exact hreordered _ bs (by decide +kernel) hswapped
  · let gap : Separators := ⟨[], by simp⟩
    let value : ValueSpelling := .bare ['x'] (by decide) (by decide)
    let small : Spelling := ⟨['p', 'o', 'r', 't'], value, by simp, by decide⟩
    let mixed : Spelling := ⟨['P', 'o', 'R', 't'], value, by simp, by decide⟩
    have hcase : small.SameButCase mixed := ⟨by decide, rfl⟩
    exact hrecased (.list gap (.last small gap)) (.list gap (.last mixed gap)) (by decide)
      (.list gap (.last hcase gap))

end Configuration

/-! ## Joining -/

namespace Attribute

theorem parseChars_listing_append (l : Listing) (cs : List Char) :
    parseChars (l.text ++ ';' :: cs) = (parseChars cs).map (l.attributes ++ ·) := by
  have hmap : ∀ (a : Attribute) (as : List Attribute) (result : Except ConfigError (List Attribute)),
      (result.map (as ++ ·)).map (a :: ·) = result.map (a :: as ++ ·) := by
    intro a as result
    cases result <;> rfl
  induction l with
  | last spelling behind =>
    -- the semicolon is one more of the separators behind the last attribute
    have hgap : ∀ c ∈ behind.val ++ [';'], isSeparator c = true :=
      List.forall_mem_append.2 ⟨behind.property, by simp [isSeparator]⟩
    have hlast := parseChars_spelling spelling ⟨_, hgap⟩ cs (.inl (by simp))
    rw [List.append_assoc, List.singleton_append] at hlast
    rw [Listing.text, List.append_assoc, hlast]
    rfl
  | more spelling gap hgap rest ih =>
    have hmore := parseChars_spelling spelling gap (rest.text ++ ';' :: cs) (.inl hgap)
    rw [Listing.text, List.append_assoc, List.append_assoc, hmore, ih, hmap]
    rfl

/-- A text that is read, and a semicolon behind it, are no part of what follows. -/
theorem parseAll_join {a : String} {xs : List Attribute} (h : parseAll a = .ok xs) (b : String) :
    parseAll (a ++ ";" ++ b) = (parseAll b).map (xs ++ ·) := by
  obtain ⟨l, rfl, rfl⟩ := exists_layout_of_parseAll h
  have hchars : (l.text ++ ";" ++ b).toList = l.chars ++ ';' :: b.toList := by
    simp [Layout.text]
  rw [parseAll, hchars]
  cases l with
  | empty front =>
    rw [Layout.chars, parseChars_separators, parseChars_semicolon, parseAll]
    cases parseChars b.toList <;> rfl
  | list front listing =>
    rw [Layout.chars, List.append_assoc, parseChars_separators, parseChars_listing_append]
    rfl

end Attribute

namespace Configuration

/-- **Joining.**  Behind a text that is read, with a semicolon between them, a text is read as it is
alone, or is the same error.  So the joined text is applied as the first one, and then the second
one unless that failed. -/
theorem applyConnectString_join (a b : String) (xs : List Attribute) (h : parseAll a = .ok xs) :
    (∀ ys, parseAll b = .ok ys → parseAll (a ++ ";" ++ b) = .ok (xs ++ ys)) ∧
      (∀ e, parseAll b = .error e → parseAll (a ++ ";" ++ b) = .error e) ∧
      ∀ (c : Configuration) ys, parseAll b = .ok ys →
        c.applyConnectString (a ++ ";" ++ b) =
          match c.applyConnectString a with
          | (.ok (), c') => c'.applyConnectString b
          | (.error e, c') => (.error e, c') := by
  have hjoin := parseAll_join h b
  have hread : ∀ ys, parseAll b = .ok ys → parseAll (a ++ ";" ++ b) = .ok (xs ++ ys) := by
    intro ys hb
    rw [hjoin, hb]
    rfl
  refine ⟨hread, fun e hb => ?_, fun c ys hb => ?_⟩
  · rw [hjoin, hb]
    rfl
  · rw [c.applyConnectString_of_ok (hread ys hb), c.applyConnectString_of_ok h, setAll_append]
    rcases c.setAll xs with ⟨e | u, c'⟩
    · rfl
    · exact (c'.applyConnectString_of_ok hb).symm

/-- A value in braces with a semicolon in it, and blanks behind; then more attributes, or an equals
sign without a key. -/
theorem applyConnectString_join_braces :
    let a := "SCHEMA=\x7bp;q\x7d "
    let xs : List Attribute := [⟨"SCHEMA", "p;q"⟩]
    parseAll a = .ok xs ∧
      parseAll (a ++ ";" ++ "port=\x7b1\x7d;LAZY=no") = .ok (xs ++ [⟨"PORT", "1"⟩, ⟨"LAZY", "no"⟩]) ∧
      parseAll (a ++ ";" ++ " =\x7d") = .error (.invalidSyntax "=\x7d") ∧
      ({} : Configuration).applyConnectString (a ++ ";" ++ "port=\x7b1\x7d;LAZY=no") =
        (.error (.invalidValue "LAZY" "no"), { schema := "p;q", port := 1 }) := by
  intro a xs
  have hfirst : parseAll a = .ok xs := by decide +kernel
  have hsecond : parseAll "port=\x7b1\x7d;LAZY=no" = .ok [⟨"PORT", "1"⟩, ⟨"LAZY", "no"⟩] := by
    decide +kernel
  have hfails : parseAll " =\x7d" = .error (.invalidSyntax "=\x7d") := by decide +kernel
  obtain ⟨hread, -, happly⟩ := applyConnectString_join a "port=\x7b1\x7d;LAZY=no" xs hfirst
  obtain ⟨-, herror, -⟩ := applyConnectString_join a " =\x7d" xs hfirst
  exact ⟨hfirst, hread _ hsecond, herror _ hfails,
    (happly {} _ hsecond).trans (by decide +kernel)⟩

end Configuration

end SqlSession
