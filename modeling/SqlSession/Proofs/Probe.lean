import SqlSession.Probe
import SqlSession.Proofs.Registry.Layers
/-!
# Naming a data source

The probe puts the name of a data source in front of a connection string, in braces:

    DSN={name};connect

The braces end at the first closing brace, wherever it comes from:

    name without one      →  the name, then the attributes of connect
    name = front } inner  →  front, then what the rest spells, if a semicolon is next in inner
                             a syntax error, if not

* `readAll_eq_iff`, `readAll_cut`: how such a text is read.
* `configuration_named`: the configuration that a name without a closing brace comes to, and what is
  read of any other name.
-/

namespace SqlSession

open Text Attribute

/-! ## Values in braces -/

namespace Attribute

/-- Blanks in front of a closing brace go, and the brace stays. -/
theorem trimLeft_append_brace (cs behind : List Char) :
    trimLeft (cs ++ '}' :: behind) = trimLeft cs ++ '}' :: behind := by
  unfold trimLeft
  rw [List.dropWhile_append]
  split
  · rename_i hcs
    rw [List.isEmpty_iff.1 hcs, List.dropWhile_cons_of_neg (by decide), List.nil_append]
  · rfl

/-- What is behind a value that is closed early ends it only with a semicolon of its own. -/
theorem ends_behind_iff (inner behind : List Char) :
    Ends (trimLeft (inner ++ '}' :: behind)) ↔ (trimLeft inner).head? = some ';' := by
  rw [trimLeft_append_brace]
  rcases trimLeft inner with _ | ⟨c, cs⟩
  · simp [Ends]
  · simp [Ends]

/-- Behind the key of the data source, its value is read. -/
theorem readNext_dsn (cs : List Char) :
    readNext ('D' :: 'S' :: 'N' :: '=' :: cs) =
      (readValue ['D', 'S', 'N'] cs).map fun (text, rest) =>
        (⟨"DSN", String.ofList text⟩, rest) := by
  have hplain : ∀ c ∈ ['D', 'S', 'N'], c ≠ ';' ∧ c ≠ '=' := by simp
  have hkey : trim ['D', 'S', 'N'] = ['D', 'S', 'N'] := by decide
  have hupper : String.ofList (upper ['D', 'S', 'N']) = "DSN" := by decide
  have hnext := readNext_key hplain (by decide) cs
  rw [hkey, hupper] at hnext
  exact hnext

theorem parseChars_dsn {cs text rest : List Char}
    (h : readValue ['D', 'S', 'N'] cs = .ok (text, rest)) :
    parseChars ('D' :: 'S' :: 'N' :: '=' :: cs) =
      (parseChars rest).map (⟨"DSN", String.ofList text⟩ :: ·) := by
  rw [parseChars_eq, List.dropWhile_cons_of_neg (by decide)]
  simp only [readNext_dsn, h, Except.map]

theorem parseChars_dsn_error {cs : List Char} {e : ConfigError}
    (h : readValue ['D', 'S', 'N'] cs = .error e) :
    parseChars ('D' :: 'S' :: 'N' :: '=' :: cs) = .error e := by
  rw [parseChars_eq, List.dropWhile_cons_of_neg (by decide)]
  simp only [readNext_dsn, h, Except.map]

end Attribute

namespace Probe.Options

variable {o : Options} {name : String}

theorem toList_connectString (h : o.dsn = some name) :
    o.connectString.toList =
      'D' :: 'S' :: 'N' :: '=' :: '{' :: (name.toList ++ '}' :: ';' :: o.connect.toList) := by
  simp [connectString, h]

/-- A name without a closing brace is read as it stands. -/
theorem readAll_whole (h : o.dsn = some name) (hbrace : '}' ∉ name.toList) :
    parseAll o.connectString = (parseAll o.connect).map (⟨"DSN", name⟩ :: ·) := by
  have hends : Ends (';' :: o.connect.toList) := .inr ⟨_, rfl⟩
  rw [parseAll, toList_connectString h, parseChars_dsn (readValue_braces _ hbrace hends),
    parseChars_semicolon, String.ofList_toList, parseAll]

/-- Any other name is cut at the first closing brace, and the rest of it is read on. -/
theorem readAll_cut (h : o.dsn = some name) {front inner : List Char}
    (hname : name.toList = front ++ '}' :: inner) (hfront : '}' ∉ front) :
    parseAll o.connectString =
      if (trimLeft inner).head? = some ';' then
        (parseChars (trimLeft inner ++ '}' :: ';' :: o.connect.toList)).map
          (⟨"DSN", String.ofList front⟩ :: ·)
      else .error (.invalidSyntax "unexpected characters after value of DSN") := by
  have hmore : name.toList ++ '}' :: ';' :: o.connect.toList =
      front ++ '}' :: (inner ++ '}' :: ';' :: o.connect.toList) := by
    rw [hname, List.append_assoc, List.cons_append]
  have hends := ends_behind_iff inner (';' :: o.connect.toList)
  rw [parseAll, toList_connectString h, hmore]
  by_cases hnext : (trimLeft inner).head? = some ';'
  · rw [if_pos hnext, parseChars_dsn (readValue_closed _ hfront (hends.2 hnext)),
      trimLeft_append_brace]
  · rw [if_neg hnext, parseChars_dsn_error (readValue_unended _ hfront (mt hends.1 hnext))]
    decide

/-- The braces keep a name together exactly if it holds none that closes them. -/
theorem readAll_eq_iff {as : List Attribute} (h : o.dsn = some name)
    (hread : parseAll o.connect = .ok as) :
    parseAll o.connectString = .ok (⟨"DSN", name⟩ :: as) ↔ '}' ∉ name.toList := by
  constructor
  · intro hparse hbrace
    obtain ⟨front, inner, hname, hfront⟩ := List.eq_append_cons_of_mem hbrace
    rw [readAll_cut h hname hfront] at hparse
    split at hparse
    · rcases hmore : parseChars (trimLeft inner ++ '}' :: ';' :: o.connect.toList) with e | more
      · simp [hmore, Except.map] at hparse
      · -- the name would be its own part in front of the closing brace
        simp only [hmore, Except.map, Except.ok.injEq, List.cons.injEq, Attribute.mk.injEq,
          true_and] at hparse
        rw [← hparse.1, String.toList_ofList] at hname
        simp at hname
    · simp at hparse
  · intro hbrace
    rw [readAll_whole h hbrace, hread]
    rfl

/-! ## The configuration -/

section

variable [Yaml.Library]

/-- Without overrides, the configuration is what the connection string is resolved to. -/
theorem configuration_eq {r : Registry} (hregistry : o.registry = .ok r)
    (hoverrides : o.overrides = none) : o.configuration = r.resolve o.connectString := by
  unfold configuration
  rw [hregistry]
  show (do let c ← r.resolve o.connectString; _) = _
  rw [hoverrides]
  cases r.resolve o.connectString with
  | error e => rfl
  | ok c => rfl

/-- A name that is read as it stands names the data source to set the attributes on. -/
theorem configuration_whole {r : Registry} {as : List Attribute} {base : Configuration}
    (hregistry : o.registry = .ok r) (hoverrides : o.overrides = none)
    (hparse : parseAll o.connectString = .ok (⟨"DSN", name⟩ :: as))
    (hnone : ∀ a ∈ as, a.field? ≠ some .dsn) (hbase : r.get? name = some base) :
    o.configuration = (base.withAll as).map (·.put .dsn (some (trimmed name))) := by
  have hlast : (⟨"DSN", name⟩ : Attribute).LastFor .dsn (⟨"DSN", name⟩ :: as) :=
    ⟨[], as, rfl, rfl, hnone⟩
  rw [configuration_eq hregistry hoverrides, r.resolve_of_lastFor hparse hlast, hbase]
  exact base.withAll_cons (spellable_of_parseAll hparse) rfl rfl hnone

/-- **Names.**  The name of a stored data source is read as it stands exactly if it holds no closing
brace.  Then the configuration is the data source with the attributes of the connection string set in
order, marked with the name as it was asked for; it fails exactly if one of them is not valid.  A
name with a closing brace is cut there, and the rest of it is read as attributes or not at all. -/
theorem configuration_named {r : Registry} {as : List Attribute} (hregistry : o.registry = .ok r)
    (hdsn : o.dsn = some name) (hname : name ∈ r.names) (hoverrides : o.overrides = none)
    (hread : parseAll o.connect = .ok as) (hnone : ∀ a ∈ as, a.field? ≠ some .dsn) :
    (parseAll o.connectString = .ok (⟨"DSN", name⟩ :: as) ↔ '}' ∉ name.toList) ∧
      ('}' ∉ name.toList → ∃ base, r.get? name = some base ∧
        o.configuration = (base.withAll as).map (·.put .dsn (some (trimmed name))) ∧
        ((∃ e, o.configuration = .error e) ↔ ∃ a ∈ as, ¬ a.Valid)) ∧
      ∀ front inner, name.toList = front ++ '}' :: inner → '}' ∉ front →
        parseAll o.connectString =
          if (trimLeft inner).head? = some ';' then
            (parseChars (trimLeft inner ++ '}' :: ';' :: o.connect.toList)).map
              (⟨"DSN", String.ofList front⟩ :: ·)
          else .error (.invalidSyntax "unexpected characters after value of DSN") := by
  refine ⟨readAll_eq_iff hdsn hread, fun hbrace => ?_,
    fun front inner hcut hfront => readAll_cut hdsn hcut hfront⟩
  obtain ⟨c, -, hbase⟩ := Registry.get?_of_mem_names hname
  have hparse := (readAll_eq_iff hdsn hread).2 hbrace
  have hconfiguration := configuration_whole hregistry hoverrides hparse hnone hbase
  refine ⟨_, hbase, hconfiguration, ?_⟩
  rw [← Configuration.withAll_eq_error_iff { c with dsn := some name } (spellable_of_parseAll hread),
    hconfiguration]
  rcases Configuration.withAll { c with dsn := some name } as with e | c'
  · simp [Except.map]
  · simp [Except.map]

end

/-- Semicolons, an equals sign and blanks in a name stay in it. -/
theorem configuration_named_semicolon :
    let o : Options := {
      connect := "port=+5", dsn := some " a;PORT=1 "
      file := some ("f", .ok (Bytes.utf8 "' a;PORT=1 ': \x7bschema: S\x7d\n")) }
    let r : Registry := ⟨[(" a;PORT=1 ", { schema := "S" })], List.pairwise_singleton _ _⟩
    o.registry = .ok r ∧ " a;PORT=1 " ∈ r.names ∧ parseAll o.connect = .ok [⟨"PORT", "+5"⟩] ∧
      o.configuration = .ok { dsn := some "a;PORT=1", schema := "S", port := 5 } := by
  intro o r
  have hregistry : o.registry = .ok r := by decide +kernel
  have hread : parseAll o.connect = .ok [⟨"PORT", "+5"⟩] := by decide +kernel
  obtain ⟨-, hwhole, -⟩ := configuration_named hregistry rfl (by decide) rfl hread (by decide)
  obtain ⟨base, hbase, hconfiguration, -⟩ := hwhole (by decide)
  obtain rfl : ({ dsn := some " a;PORT=1 ", schema := "S" } : Configuration) = base :=
    Option.some.inj (Eq.trans (by decide) hbase)
  exact ⟨hregistry, by decide, hread, hconfiguration.trans (by decide +kernel)⟩

/-- A closing brace in a name is taken for the end of it, and nothing can be set at all. -/
theorem configuration_named_brace :
    let o : Options := {
      dsn := some "a\x7db"
      file := some ("f", .ok (Bytes.utf8 "'a\x7db': \x7bschema: S\x7d\n")) }
    let r : Registry := ⟨[("a\x7db", { schema := "S" })], List.pairwise_singleton _ _⟩
    o.registry = .ok r ∧ "a\x7db" ∈ r.names ∧ parseAll o.connect = .ok [] ∧
      o.configuration =
        .error (.invalidSyntax "unexpected characters after value of DSN") := by
  intro o r
  have hregistry : o.registry = .ok r := by decide +kernel
  have hcut : "a\x7db".toList = ['a'] ++ '}' :: ['b'] := by decide
  have hparse := readAll_cut (o := o) rfl hcut (by decide)
  refine ⟨hregistry, by decide, by decide +kernel, ?_⟩
  rw [configuration_eq hregistry rfl]
  exact r.resolve_of_error hparse

end Probe.Options

end SqlSession
