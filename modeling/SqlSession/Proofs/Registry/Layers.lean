import SqlSession.Proofs.Configuration.Field
import SqlSession.Registry
/-!
# Layers of a configuration

What a connection string is resolved to has three layers, and the environment is a fourth one:

    environment  >  last attribute for the field  >  data source, or the defaults

An error stands for the layer that fails first:

    syntax of the connection string  >  unknown data source  >  value of an attribute

* `get_override`: what the environment sets.
* `dataSource?_eq_some_iff`: which attribute names the data source.
* `resolve_layers`: all of it.
-/

namespace SqlSession

open Attribute

/-! ## The environment -/

/-- What the environment says about a field. -/
def Overrides.value? (o : Overrides) : (field : Field) → Option field.Value
  | .address => (o.address.filter fun text => !text.isEmpty).map some
  | .schema => o.schema
  | .protocolVersion => o.protocolVersion
  | _ => none

theorem Configuration.get_override (c : Configuration) (o : Overrides) (f : Field) :
    (c.override o).get f = (o.value? f).getD (c.get f) := by
  have haddress : (c.override o).address =
      ((o.address.filter fun text => !text.isEmpty).map some).getD c.address := by
    simp only [override]
    rcases o.address with _ | text
    · rfl
    · cases hempty : text.isEmpty <;> simp [Option.filter, hempty]
  cases f
  case address => exact haddress
  all_goals rfl

namespace Registry

/-! ## Data sources -/

/-- What is found from the back is the last attribute for the data source. -/
theorem findRev?_eq_some_iff (as : List Attribute) (a : Attribute) :
    (as.findRev? fun a => a.key == Field.dsn.key) = some a ↔ a.LastFor .dsn as := by
  have hkey (b : Attribute) : (b.key == Field.dsn.key) = true ↔ b.field? = some .dsn := by
    rw [beq_iff_eq]
    exact (Field.ofKey?_eq_dsn_iff b.key).symm
  -- the first one from the back has none for the data source behind it
  rw [List.findRev?_eq_find?_reverse, List.find?_eq_some_iff_append]
  constructor
  · rintro ⟨ha, behind, front, has, hbehind⟩
    refine ⟨front.reverse, behind.reverse, ?_, (hkey a).1 ha, fun b hb hfield => ?_⟩
    · rw [← List.reverse_reverse as, has]
      simp
    · have hnot := hbehind b (List.mem_reverse.1 hb)
      rw [(hkey b).2 hfield] at hnot
      simp at hnot
  · rintro ⟨front, behind, rfl, ha, hbehind⟩
    refine ⟨(hkey a).2 ha, behind.reverse, front.reverse, by simp, fun b hb => ?_⟩
    have hnot := hbehind b (List.mem_reverse.1 hb)
    rw [Ne, ← hkey b] at hnot
    simpa using hnot

/-- The last attribute for the data source names it. -/
theorem dataSource?_eq_some_iff (as : List Attribute) (name : String) :
    dataSource? as = some name ↔ ∃ a : Attribute, a.LastFor .dsn as ∧ a.value = name := by
  unfold dataSource?
  rw [Option.map_eq_some_iff]
  simp only [findRev?_eq_some_iff]

theorem dataSource?_eq_none {as : List Attribute} (h : ∀ a ∈ as, a.field? ≠ some .dsn) :
    dataSource? as = none := by
  rw [Option.eq_none_iff_forall_ne_some]
  intro name hname
  obtain ⟨a, ⟨front, behind, rfl, ha, -⟩, -⟩ := (dataSource?_eq_some_iff as name).1 hname
  exact h a (by simp) ha

/-- A name that is stored refers to an entry as it stands. -/
theorem entry?_of_mem_names {r : Registry} {name : String} (h : name ∈ r.names) :
    ∃ c, (name, c) ∈ r.entries ∧ r.entry? name = some (name, c) := by
  obtain ⟨e, he, rfl⟩ := List.mem_map.1 h
  have hfound : (r.entries.find? fun e' => e'.1 == e.1).isSome := by
    rw [List.find?_isSome]
    exact ⟨e, he, beq_self_eq_true e.1⟩
  obtain ⟨⟨name, c⟩, hfind⟩ := Option.isSome_iff_exists.1 hfound
  have hname := List.find?_some hfind
  obtain rfl : name = e.1 := beq_iff_eq.1 hname
  refine ⟨c, List.mem_of_find?_eq_some hfind, ?_⟩
  unfold entry?
  rw [hfind]

/-- It is found, and marks its configuration. -/
theorem get?_of_mem_names {r : Registry} {name : String} (h : name ∈ r.names) :
    ∃ c, (name, c) ∈ r.entries ∧ r.get? name = some { c with dsn := some name } := by
  obtain ⟨c, hc, hentry⟩ := entry?_of_mem_names h
  refine ⟨c, hc, ?_⟩
  rw [get?, hentry, Option.map_some]

/-! ## Resolution -/

theorem resolve_of_error (r : Registry) {s : String} {e : ConfigError}
    (h : parseAll s = .error e) : r.resolve s = .error e := by
  unfold resolve
  rw [h]
  rfl

theorem resolve_of_none (r : Registry) {s : String} {as : List Attribute}
    (h : parseAll s = .ok as) (hnone : ∀ a ∈ as, a.field? ≠ some .dsn) :
    r.resolve s = Configuration.ofConnectString s := by
  have hresolve : r.resolve s = Configuration.withAll {} as := by
    unfold resolve
    simp only [h, bind, Except.bind, dataSource?_eq_none hnone]
  rw [hresolve, Configuration.ofConnectString, Configuration.applyConnectString, h,
    Configuration.withAll]

theorem resolve_of_lastFor (r : Registry) {s : String} {as : List Attribute} {a : Attribute}
    (h : parseAll s = .ok as) (ha : a.LastFor .dsn as) :
    r.resolve s =
      match r.get? a.value with
      | some c => c.withAll as
      | none => .error (.unknownDataSource a.value) := by
  have hsome : dataSource? as = some a.value := (dataSource?_eq_some_iff as a.value).2 ⟨a, ha, rfl⟩
  unfold resolve
  cases hget : r.get? a.value with
  | none => simp only [h, bind, Except.bind, hsome, hget]
  | some c => simp only [h, bind, Except.bind, hsome, hget]

/-- **Layers.**  A connection string with a syntax error is that error.  Without an attribute for the
data source, the registry does not matter.  If the last one names a data source that is not defined,
that is the error, whatever the values of the others are.  Else valid attributes are laid over the
data source, and nothing else happens to it.  The environment goes over all that. -/
theorem resolve_layers (r : Registry) (s : String) :
    (∀ e, parseAll s = .error e → (∃ near, e = .invalidSyntax near) ∧ r.resolve s = .error e) ∧
      (∀ as, parseAll s = .ok as → (∀ a ∈ as, a.field? ≠ some .dsn) →
        r.resolve s = Configuration.ofConnectString s) ∧
      (∀ as (a : Attribute), parseAll s = .ok as → a.LastFor .dsn as → r.get? a.value = none →
        r.resolve s = .error (.unknownDataSource a.value)) ∧
      (∀ as (a : Attribute) base, parseAll s = .ok as → a.LastFor .dsn as →
        r.get? a.value = some base → (∀ b ∈ as, b.Valid) →
        ∃ c, r.resolve s = .ok c ∧ ∀ c', c'.Overlays as base ↔ c' = c) ∧
      ∀ (c : Configuration) (o : Overrides) (f : Field),
        (c.override o).get f = (o.value? f).getD (c.get f) := by
  refine ⟨fun e h => ⟨error_of_parseChars _ e h, r.resolve_of_error h⟩,
    fun as h hnone => r.resolve_of_none h hnone, ?_, ?_, Configuration.get_override⟩
  · intro as a h ha hunknown
    rw [r.resolve_of_lastFor h ha, hunknown]
  · intro as a base h ha hbase hvalid
    obtain ⟨c, hall, hover⟩ := base.setAll_of_valid (spellable_of_parseAll h) hvalid
    refine ⟨c, ?_, fun c' => ⟨fun hover' => hover'.unique hover, ?_⟩⟩
    · rw [r.resolve_of_lastFor h ha, hbase]
      dsimp only
      rw [Configuration.withAll, hall]
    · rintro rfl
      exact hover

/-- Two keys for one field, an address that is taken away, a key that names no field, a data source
in other letters, and an environment on top; then an unknown data source beside a value that is not
valid, and a syntax error beside both. -/
theorem resolve_layers_prod :
    let r : Registry :=
      ⟨[("Prod", { address := some "h:1", schema := "S", port := 7 })], List.pairwise_singleton _ _⟩
    let o : Overrides := { address := some "", schema := some "" }
    let as : List Attribute :=
      [⟨"HOST", "a"⟩, ⟨"DSN", "x"⟩, ⟨"ADDRESS", ""⟩, ⟨"DSN", "prod"⟩, ⟨"NO", "1"⟩, ⟨"SERVER", "b"⟩]
    parseAll "HOST=a;Dsn=x;address=;DSN=\x7bprod\x7d;no=1;server= b" = .ok as ∧
      (∃ c, r.resolve "HOST=a;Dsn=x;address=;DSN=\x7bprod\x7d;no=1;server= b" = .ok c ∧
        c.server = "b" ∧ c.address = none ∧ c.dsn = some "prod" ∧ c.schema = "S" ∧ c.port = 7 ∧
        (c.override o).address = none ∧ (c.override o).schema = "" ∧ (c.override o).port = 7) ∧
      r.resolve "PORT=x;DSN=prod;DSN=y" = .error (.unknownDataSource "y") ∧
      ∃ near, r.resolve "PORT=x;DSN=y;=" = .error (.invalidSyntax near) := by
  intro r o as
  have hread : parseAll "HOST=a;Dsn=x;address=;DSN=\x7bprod\x7d;no=1;server= b" = .ok as := by
    decide +kernel
  have hunread : parseAll "PORT=x;DSN=y;=" = .error (.invalidSyntax "=") := by decide +kernel
  have hvalid : ∀ b ∈ as, b.Valid := by
    simp only [as, List.forall_mem_cons, List.not_mem_nil, false_implies, implies_true, and_true]
    exact ⟨valid_of_read (f := .server) rfl rfl, valid_of_read (f := .dsn) rfl rfl,
      valid_of_read (f := .address) rfl rfl, valid_of_read (f := .dsn) rfl rfl,
      valid_of_field_none rfl, valid_of_read (f := .server) rfl rfl⟩
  have hsource : (⟨"DSN", "prod"⟩ : Attribute).LastFor .dsn as :=
    ⟨as.take 3, as.drop 4, rfl, rfl, by decide⟩
  have hother : (⟨"DSN", "y"⟩ : Attribute).LastFor .dsn
      [⟨"PORT", "x"⟩, ⟨"DSN", "prod"⟩, ⟨"DSN", "y"⟩] :=
    ⟨[⟨"PORT", "x"⟩, ⟨"DSN", "prod"⟩], [], rfl, rfl, by simp⟩
  obtain ⟨-, -, -, hlayers, hoverride⟩ := r.resolve_layers
    "HOST=a;Dsn=x;address=;DSN=\x7bprod\x7d;no=1;server= b"
  obtain ⟨-, -, hunknown, -⟩ := r.resolve_layers "PORT=x;DSN=prod;DSN=y"
  obtain ⟨hunreadable, -⟩ := r.resolve_layers "PORT=x;DSN=y;="
  obtain ⟨c, hc, hlaid⟩ := hlayers as _ _ hread hsource rfl hvalid
  have hover := (hlaid c).2 rfl
  have hserver := hover.given .server ⟨"SERVER", "b"⟩ ⟨as.take 5, [], rfl, rfl, by simp⟩
  have haddress := hover.given .address ⟨"ADDRESS", ""⟩ ⟨as.take 2, as.drop 3, rfl, rfl, by decide⟩
  have hdsn := hover.given .dsn ⟨"DSN", "prod"⟩ hsource
  have hport := hover.kept .port (by decide)
  refine ⟨hread, ⟨c, hc, (Option.some.inj hserver).symm, (Option.some.inj haddress).symm,
    (Option.some.inj hdsn).symm, hover.kept .schema (by decide), hport, ?_, hoverride c o .schema,
    (hoverride c o .port).trans hport⟩, hunknown _ _ (by decide +kernel) hother rfl,
    _, (hunreadable _ hunread).2⟩
  exact (hoverride c o .address).trans (Option.some.inj haddress).symm

end Registry

end SqlSession
