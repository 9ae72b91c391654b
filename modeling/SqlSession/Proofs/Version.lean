import SqlSession.Proofs.Text.Numeral
import SqlSession.Version
/-!
# Versions as they may be written

A version is three parts with dots between them, and blanks around:

    version  =  blanks part "." part "." part blanks
    part     =  digits  |  "+" digits  |  "-" zeros

The number of a part is at most 32767.  A version has many such texts; the one that is written has
no blanks, no plus signs and no zeros in front, and a version with a negative part has none.

* `part?_eq_some_iff`: which texts are a part.
* `parse_eq_ok_iff`: which texts are a version.
* `parse_text_eq_ok_iff`: a version is read back from its text exactly if no part is negative.
* `parse_grammar`: all of it, with the error.
-/

namespace SqlSession.Version

open Text

/-! ## Spellings -/

/-- The text of a part: a numeral, or zeros behind a minus sign. -/
def PartText (cs : List Char) (part : Int16) : Prop :=
  ∃ n : Nat, part.toInt = n ∧
    (Numeral cs n ∨ n = 0 ∧ ∃ digits, cs = '-' :: digits ∧ Digits digits 0)

/-- A text is a version as it may be written, without blanks. -/
def Spells (v : Version) (cs : List Char) : Prop :=
  ∃ major minor maintenance, cs = major ++ '.' :: (minor ++ '.' :: maintenance) ∧
    PartText major v.major ∧ PartText minor v.minor ∧ PartText maintenance v.maintenance

/-- No part of a version is negative. -/
def NonNegative (v : Version) : Prop :=
  0 ≤ v.major.toInt ∧ 0 ≤ v.minor.toInt ∧ 0 ≤ v.maintenance.toInt

instance (v : Version) : Decidable v.NonNegative := inferInstanceAs (Decidable (_ ∧ _))

/-! ## Parts -/

/-- A part is a numeral of either sign for a number that is not negative. -/
theorem partText_iff (cs : List Char) (part : Int16) :
    PartText cs part ↔ SignedNumeral cs part.toInt ∧ 0 ≤ part.toInt := by
  constructor
  · rintro ⟨n, hn, h | ⟨rfl, digits, rfl, h⟩⟩
    · exact ⟨.inl ⟨n, h, hn⟩, by omega⟩
    · exact ⟨.inr ⟨digits, 0, rfl, h, by omega⟩, by omega⟩
  · rintro ⟨⟨n, h, hn⟩ | ⟨digits, n, rfl, h, hn⟩, hpart⟩
    · exact ⟨n, hn, .inl h⟩
    · obtain rfl : n = 0 := by omega
      exact ⟨0, hn, .inr ⟨rfl, digits, rfl, h⟩⟩

theorem part?_eq_some_iff (cs : List Char) (part : Int16) :
    part? cs = some part ↔ PartText cs part := by
  rw [part?, Option.bind_eq_some_iff, partText_iff]
  simp only [readInteger_eq_some_iff, Option.ite_none_right_eq_some, Option.some.injEq]
  constructor
  · rintro ⟨n, h, ⟨hlow, hhigh⟩, rfl⟩
    have hn : (Int16.ofInt n).toInt = n := Int16.toInt_ofInt_of_le (by omega) (by omega)
    rw [hn]
    exact ⟨h, hlow⟩
  · rintro ⟨h, hlow⟩
    exact ⟨part.toInt, h, ⟨hlow, part.toInt_lt⟩, Int16.ofInt_toInt part⟩

/-- The text of a number is a part of that number, unless it is negative. -/
theorem partText_toString (n part : Int16) :
    PartText (toString n.toInt).toList part ↔ part = n ∧ 0 ≤ n.toInt := by
  have hread := (readInteger_eq_some_iff _ _).2 (signedNumeral_toString n.toInt)
  rw [partText_iff, ← readInteger_eq_some_iff, hread, Option.some.injEq, Int16.toInt_inj, eq_comm]
  constructor
  · rintro ⟨rfl, h⟩
    exact ⟨rfl, h⟩
  · rintro ⟨rfl, h⟩
    exact ⟨rfl, h⟩

/-! ## Dots -/

/-- There is neither a dot nor a blank in a numeral. -/
theorem plain_signedNumeral {cs : List Char} {n : Int} (h : SignedNumeral cs n) {c : Char}
    (hc : c ∈ cs) : c ≠ '.' ∧ isBlank c = false := by
  rcases mem_signedNumeral h hc with rfl | rfl | hdigit
  · decide
  · decide
  · refine ⟨?_, not_isBlank_of_isDigit hdigit⟩
    rintro rfl
    exact absurd hdigit (by decide)

section Dots

variable {a b c : List Char} {k l m : Int} (ha : SignedNumeral a k) (hb : SignedNumeral b l)
  (hc : SignedNumeral c m)

include ha hb hc

theorem trim_dotted : trim (a ++ '.' :: (b ++ '.' :: c)) = a ++ '.' :: (b ++ '.' :: c) := by
  refine trim_of_no_blank fun d hd => ?_
  simp only [List.mem_append, List.mem_cons] at hd
  rcases hd with hd | rfl | hd | rfl | hd
  · exact (plain_signedNumeral ha hd).2
  · decide
  · exact (plain_signedNumeral hb hd).2
  · decide
  · exact (plain_signedNumeral hc hd).2

theorem fields_dotted : fields '.' (a ++ '.' :: (b ++ '.' :: c)) = [a, b, c] := by
  have hdot : ∀ {cs : List Char} {n : Int}, SignedNumeral cs n → '.' ∉ cs := fun h hmem =>
    (plain_signedNumeral h hmem).1 rfl
  rw [fields_append (hdot ha), fields_append (hdot hb), fields_of_not_mem (hdot hc)]

end Dots

/-- Three fields are what stands between two dots. -/
theorem eq_dotted_of_fields {cs a b c : List Char} (h : fields '.' cs = [a, b, c]) :
    cs = a ++ '.' :: (b ++ '.' :: c) := by
  obtain ⟨-, ⟨hnil, -⟩ | ⟨behind, rfl, hbehind⟩⟩ := fields_eq_cons h
  · simp at hnil
  · obtain ⟨-, ⟨hnil, -⟩ | ⟨last, rfl, hlast⟩⟩ := fields_eq_cons hbehind
    · simp at hnil
    · obtain ⟨-, ⟨-, rfl⟩ | ⟨more, -, hmore⟩⟩ := fields_eq_cons hlast
      · rfl
      · exact absurd hmore (fields_ne_nil '.' more)

/-! ## Reading -/

theorem trim_spells {v : Version} {cs : List Char} (h : v.Spells cs) : trim cs = cs := by
  obtain ⟨a, b, c, rfl, ha, hb, hc⟩ := h
  exact trim_dotted ((partText_iff a _).1 ha).1 ((partText_iff b _).1 hb).1
    ((partText_iff c _).1 hc).1

/-- Three fields are read one by one. -/
theorem parse_of_fields {s : String} {a b c : List Char}
    (h : fields '.' (trim s.toList) = [a, b, c]) (v : Version) :
    parse s = .ok v ↔ PartText a v.major ∧ PartText b v.minor ∧ PartText c v.maintenance := by
  simp only [← part?_eq_some_iff, parse, h]
  obtain ⟨major, minor, maintenance⟩ := v
  rcases part? a with _ | major'
  · simp
  · rcases part? b with _ | minor'
    · simp
    · rcases part? c with _ | maintenance'
      · simp
      · simp

/-- Any other number of fields is no version. -/
theorem parse_of_not_fields {s : String} (h : ∀ a b c, fields '.' (trim s.toList) ≠ [a, b, c]) :
    parse s = .error (.invalidVersion s) := by
  unfold parse
  split
  · rename_i a b c hfields
    exact absurd hfields (h a b c)
  · rfl

/-- **Reading.**  A text is read exactly as the version it spells once it is trimmed. -/
theorem parse_eq_ok_iff (s : String) (v : Version) :
    parse s = .ok v ↔ v.Spells (trim s.toList) := by
  constructor
  · intro h
    by_cases hfields : ∃ a b c, fields '.' (trim s.toList) = [a, b, c]
    · obtain ⟨a, b, c, hfields⟩ := hfields
      exact ⟨a, b, c, eq_dotted_of_fields hfields, (parse_of_fields hfields v).1 h⟩
    · simp only [not_exists] at hfields
      exact absurd ((parse_of_not_fields hfields).symm.trans h) (by simp)
  · rintro ⟨a, b, c, hcs, ha, hb, hc⟩
    have hfields := fields_dotted ((partText_iff a _).1 ha).1 ((partText_iff b _).1 hb).1
      ((partText_iff c _).1 hc).1
    rw [← hcs] at hfields
    exact (parse_of_fields hfields v).2 ⟨ha, hb, hc⟩

/-- The error has the text as it was given. -/
theorem error_of_parse {s : String} {e : WireError} (h : parse s = .error e) :
    e = .invalidVersion s := by
  unfold parse at h
  split at h
  · split at h
    · simp at h
    · exact (Except.error.inj h).symm
  · exact (Except.error.inj h).symm

/-! ## Writing -/

/-- The text of a version has its parts for fields, whatever their signs. -/
theorem fields_text (v : Version) :
    fields '.' (trim v.text.toList) =
      [(toString v.major.toInt).toList, (toString v.minor.toInt).toList,
        (toString v.maintenance.toInt).toList] := by
  have htext : v.text.toList = (toString v.major.toInt).toList ++
      '.' :: ((toString v.minor.toInt).toList ++ '.' :: (toString v.maintenance.toInt).toList) := by
    simp [text]
  have hmajor := signedNumeral_toString v.major.toInt
  have hminor := signedNumeral_toString v.minor.toInt
  have hmaintenance := signedNumeral_toString v.maintenance.toInt
  rw [htext, trim_dotted hmajor hminor hmaintenance, fields_dotted hmajor hminor hmaintenance]

/-- **Writing.**  A version is read back from its text unless a part of it is negative, and nothing
else ever is. -/
theorem parse_text_eq_ok_iff (v w : Version) : parse v.text = .ok w ↔ w = v ∧ v.NonNegative := by
  rw [parse_of_fields (fields_text v), partText_toString, partText_toString, partText_toString]
  obtain ⟨major, minor, maintenance⟩ := v
  obtain ⟨major', minor', maintenance'⟩ := w
  rw [mk.injEq, NonNegative]
  constructor
  · rintro ⟨⟨hmajor, h⟩, ⟨hminor, h'⟩, hmaintenance, h''⟩
    exact ⟨⟨hmajor, hminor, hmaintenance⟩, h, h', h''⟩
  · rintro ⟨⟨hmajor, hminor, hmaintenance⟩, h, h', h''⟩
    exact ⟨⟨hmajor, h⟩, ⟨hminor, h'⟩, hmaintenance, h''⟩

/-- No part of a version that was read is negative. -/
theorem nonNegative_of_parse {s : String} {v : Version} (h : parse s = .ok v) : v.NonNegative := by
  obtain ⟨a, b, c, -, ha, hb, hc⟩ := (parse_eq_ok_iff s v).1 h
  exact ⟨((partText_iff a _).1 ha).2, ((partText_iff b _).1 hb).2, ((partText_iff c _).1 hc).2⟩

/-- **Versions.**  A text is read exactly if it spells a version with blanks around, and then as
that version; else the error has the text as it was given.  A version is read back from its text,
unless a part is negative.  So a text that is read can be written anew, and two of them are written
alike exactly if they are read as one version. -/
theorem parse_grammar (s : String) :
    (∀ v, parse s = .ok v ↔ ∃ text, Padded s.toList text ∧ v.Spells text) ∧
      (∀ e, parse s = .error e ↔
        (¬ ∃ (v : Version) (text : List Char), Padded s.toList text ∧ v.Spells text) ∧
          e = .invalidVersion s) ∧
      (∀ v : Version, v.NonNegative → parse v.text = .ok v) ∧
      (∀ v : Version, ¬ v.NonNegative → parse v.text = .error (.invalidVersion v.text)) ∧
      (∀ v, parse s = .ok v → parse v.text = .ok v) ∧
      ∀ t v w, parse s = .ok v → parse t = .ok w → (v.text = w.text ↔ v = w) := by
  have hspells : ∀ v, parse s = .ok v ↔ ∃ text, Padded s.toList text ∧ v.Spells text := by
    intro v
    rw [parse_eq_ok_iff]
    exact (exists_padded_iff (fun _ => trim_spells) s.toList).symm
  have hback : ∀ {s v}, parse s = .ok v → parse v.text = .ok v := fun h =>
    (parse_text_eq_ok_iff _ _).2 ⟨rfl, nonNegative_of_parse h⟩
  refine ⟨hspells, fun e => ⟨fun he => ⟨?_, error_of_parse he⟩, ?_⟩, fun v hv => ?_, fun v hv => ?_,
    fun v => hback, fun t v w hv hw => ⟨fun htext => ?_, congrArg text⟩⟩
  · rintro ⟨v, hv⟩
    exact absurd (he.symm.trans ((hspells v).2 hv)) (by simp)
  · rintro ⟨hnone, rfl⟩
    cases h : parse s with
    | error e => rw [error_of_parse h]
    | ok v => exact absurd ⟨v, (hspells v).1 h⟩ hnone
  · exact (parse_text_eq_ok_iff v v).2 ⟨rfl, hv⟩
  · cases h : parse v.text with
    | error e => rw [error_of_parse h]
    | ok w => exact absurd ((parse_text_eq_ok_iff v w).1 h).2 hv
  · have hw' := hback hw
    rw [← htext] at hw'
    exact Except.ok.inj ((hback hv).symm.trans hw')

/-- Blanks, signs and zeros; the version as it is written; another spelling of it; and a version
that cannot be read back. -/
theorem parse_grammar_signs :
    let v : Version := ⟨2, 1, 0⟩
    let w : Version := ⟨2, -1, 0⟩
    parse "\t+2.01.-0 " = .ok v ∧ v.text = "2.1.0" ∧ parse v.text = .ok v ∧
      parse "002.1.0" = .ok v ∧ (v.text = v.text ↔ v = v) ∧ w.text = "2.-1.0" ∧ ¬ w.NonNegative ∧
      parse w.text = .error (.invalidVersion w.text) := by
  intro v w
  have hpart : ∀ (cs : List Char) (part : Int16), part? cs = some part → PartText cs part :=
    fun cs part => (part?_eq_some_iff cs part).1
  have hspells : v.Spells "+2.01.-0".toList :=
    ⟨"+2".toList, "01".toList, "-0".toList, by decide, hpart _ 2 (by decide), hpart _ 1 (by decide),
      hpart _ 0 (by decide)⟩
  have hspells' : v.Spells "002.1.0".toList :=
    ⟨"002".toList, "1".toList, "0".toList, by decide, hpart _ 2 (by decide), hpart _ 1 (by decide),
      hpart _ 0 (by decide)⟩
  obtain ⟨hread, -, -, hnone, hback, halike⟩ := parse_grammar "\t+2.01.-0 "
  obtain ⟨hread', -⟩ := parse_grammar "002.1.0"
  have hv : parse "\t+2.01.-0 " = .ok v :=
    (hread v).2 ⟨_, ⟨['\t'], [' '], by decide, by simp; decide, by simp; decide⟩, hspells⟩
  have hv' : parse "002.1.0" = .ok v := (hread' v).2 ⟨_, padded_self _, hspells'⟩
  exact ⟨hv, by decide, hback v hv, hv', halike "002.1.0" v v hv hv', by decide, by decide,
    hnone w (by decide)⟩

end SqlSession.Version
