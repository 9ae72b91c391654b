import SqlSession.Proofs.Attribute.Grammar
import SqlSession.Proofs.Configuration
/-!
# Fields

A configuration holds a value for each field.  An attribute with the key of a field is valid if its
text can be read as a value of the field; then setting it puts that value, and nothing else changes.

* `setAttribute_cases`: what setting an attribute comes to.
* `setAll_of_valid`: valid attributes are laid over a configuration.  The last one for a field
  counts, and a field without one keeps its value; nothing else does that (`Overlays.unique`).
* `setAll_of_invalid`: setting stops at the first attribute that is not valid.
* `setAll_put`: fields that no attribute is for stay out of the way.
-/

namespace SqlSession

open Text Attribute

/-! ## Values -/

/-- The values a field can have. -/
def Field.Value : Field → Type
  | .dsn => Option String
  | .driver => String
  | .address => Option String
  | .server => String
  | .port => UInt16
  | .schema => String
  | .pageSize => UInt32
  | .protocolVersion => String
  | .distributedJoins => Bool
  | .enforceJoinOrder => Bool
  | .replicatedOnly => Bool
  | .collocated => Bool
  | .lazy => Bool
  | .loginTimeout => UInt64

/-- The value that a trimmed text stands for.  An empty address is no address, and a page is never
empty. -/
def Field.read? : (field : Field) → String → Option field.Value
  | .dsn, text => some (some text)
  | .driver, text => some text
  | .address, text => some (if text.isEmpty then none else some text)
  | .server, text => some text
  | .port, text => readUInt16 text.toList
  | .schema, text => some text
  | .pageSize, text => ((readUInt32 text.toList).filter (· ≠ 0) : Option UInt32)
  | .protocolVersion, text => some text
  | .distributedJoins, text => Configuration.readFlag text
  | .enforceJoinOrder, text => Configuration.readFlag text
  | .replicatedOnly, text => Configuration.readFlag text
  | .collocated, text => Configuration.readFlag text
  | .lazy, text => Configuration.readFlag text
  | .loginTimeout, text => readUInt64 text.toList

/-- Each field has one key, and the server has a second one. -/
theorem Field.ofKey?_eq_some_iff (key : String) (f : Field) :
    ofKey? key = some f ↔ key = f.key ∨ f = .server ∧ key = "HOST" := by
  constructor
  · intro h
    unfold ofKey? at h
    split at h
    case h_5 => exact .inr ⟨(Option.some.inj h).symm, rfl⟩
    case h_16 => simp at h
    all_goals
      obtain rfl := Option.some.inj h
      exact .inl rfl
  · rintro (rfl | ⟨rfl, rfl⟩)
    · cases f <;> rfl
    · rfl

theorem Field.ofKey?_eq_dsn_iff (key : String) : ofKey? key = some .dsn ↔ key = "DSN" := by
  simp [ofKey?_eq_some_iff, Field.key]

namespace Configuration

/-- The value of a field. -/
def get (c : Configuration) : (field : Field) → field.Value
  | .dsn => c.dsn
  | .driver => c.driver
  | .address => c.address
  | .server => c.server
  | .port => c.port
  | .schema => c.schema
  | .pageSize => c.pageSize
  | .protocolVersion => c.protocolVersion
  | .distributedJoins => c.distributedJoins
  | .enforceJoinOrder => c.enforceJoinOrder
  | .replicatedOnly => c.replicatedOnly
  | .collocated => c.collocated
  | .lazy => c.lazy
  | .loginTimeout => c.loginTimeout

/-- The configuration with another value of a field. -/
def put (c : Configuration) : (field : Field) → field.Value → Configuration
  | .dsn, v => { c with dsn := v }
  | .driver, v => { c with driver := v }
  | .address, v => { c with address := v }
  | .server, v => { c with server := v }
  | .port, v => { c with port := v }
  | .schema, v => { c with schema := v }
  | .pageSize, v => { c with pageSize := v }
  | .protocolVersion, v => { c with protocolVersion := v }
  | .distributedJoins, v => { c with distributedJoins := v }
  | .enforceJoinOrder, v => { c with enforceJoinOrder := v }
  | .replicatedOnly, v => { c with replicatedOnly := v }
  | .collocated, v => { c with collocated := v }
  | .lazy, v => { c with lazy := v }
  | .loginTimeout, v => { c with loginTimeout := v }

@[simp] theorem get_put_self (c : Configuration) (f : Field) (v : f.Value) :
    (c.put f v).get f = v := by
  cases f <;> rfl

theorem get_put_of_ne (c : Configuration) {f g : Field} (h : g ≠ f) (v : f.Value) :
    (c.put f v).get g = c.get g := by
  cases f <;> cases g <;> first | rfl | exact absurd rfl h

/-- A configuration is the values of its fields. -/
theorem ext_get {c c' : Configuration} (h : ∀ f, c.get f = c'.get f) : c = c' := by
  rcases c with ⟨⟩
  rcases c' with ⟨⟩
  rw [mk.injEq]
  exact ⟨h .dsn, h .driver, h .address, h .server, h .port, h .schema, h .pageSize,
    h .protocolVersion, h .distributedJoins, h .enforceJoinOrder, h .replicatedOnly, h .collocated,
    h .lazy, h .loginTimeout⟩

/-- Two fields can be put in either order. -/
theorem put_comm (c : Configuration) {f g : Field} (h : g ≠ f) (v : f.Value) (w : g.Value) :
    (c.put f v).put g w = (c.put g w).put f v := by
  cases f <;> cases g <;> first | rfl | exact absurd rfl h

/-- Setting a field puts the value that is read. -/
theorem set?_eq (c : Configuration) (f : Field) (text : String) :
    c.set? f text = (f.read? text).map (c.put f) := by
  cases f <;> rfl

end Configuration

/-! ## Attributes -/

namespace Attribute

/-- The field that an attribute sets. -/
def field? (a : Attribute) : Option Field := Field.ofKey? a.key

/-- The text of an attribute is a value of its field; one that names no field can say anything. -/
def Valid (a : Attribute) : Prop := ∀ f, a.field? = some f → (f.read? (trimmed a.value)).isSome

theorem valid_of_field_none {a : Attribute} (h : a.field? = none) : a.Valid := by
  intro f hf
  simp [h] at hf

theorem valid_of_read {a : Attribute} {f : Field} {v : f.Value} (hf : a.field? = some f)
    (hv : f.read? (trimmed a.value) = some v) : a.Valid := by
  intro g hg
  obtain rfl : f = g := Option.some.inj (hf.symm.trans hg)
  simp [hv]

/-- All attributes are valid, or one of them is the first that is not. -/
theorem valid_or_first_invalid (as : List Attribute) :
    (∀ a ∈ as, a.Valid) ∨ ∃ front a behind, as = front ++ a :: behind ∧
      (∀ b ∈ front, b.Valid) ∧ ¬ a.Valid := by
  induction as with
  | nil => exact .inl (by simp)
  | cons b as ih =>
    by_cases hb : b.Valid
    · rcases ih with hvalid | ⟨front, a, behind, rfl, hfront, ha⟩
      · exact .inl (List.forall_mem_cons.2 ⟨hb, hvalid⟩)
      · exact .inr ⟨b :: front, a, behind, rfl, List.forall_mem_cons.2 ⟨hb, hfront⟩, ha⟩
    · exact .inr ⟨[], b, as, rfl, by simp, hb⟩

/-- An attribute is the last one for a field. -/
def LastFor (a : Attribute) (f : Field) (as : List Attribute) : Prop :=
  ∃ front behind, as = front ++ a :: behind ∧ a.field? = some f ∧ ∀ b ∈ behind, b.field? ≠ some f

theorem lastFor_cons {a b : Attribute} {f : Field} {as : List Attribute} :
    a.LastFor f (b :: as) ↔
      a.LastFor f as ∨ a = b ∧ b.field? = some f ∧ ∀ b' ∈ as, b'.field? ≠ some f := by
  constructor
  · rintro ⟨_ | ⟨b', front⟩, behind, has, hfield, hbehind⟩
    · obtain ⟨rfl, rfl⟩ := List.cons.inj has
      exact .inr ⟨rfl, hfield, hbehind⟩
    · obtain ⟨rfl, rfl⟩ := List.cons.inj has
      exact .inl ⟨front, behind, rfl, hfield, hbehind⟩
  · rintro (⟨front, behind, rfl, hfield, hbehind⟩ | ⟨rfl, hfield, hbehind⟩)
    · exact ⟨b :: front, behind, rfl, hfield, hbehind⟩
    · exact ⟨[], as, rfl, hfield, hbehind⟩

/-- A field has a last attribute, or none. -/
theorem exists_lastFor_or (f : Field) (as : List Attribute) :
    (∃ a : Attribute, a.LastFor f as) ∨ ∀ a ∈ as, a.field? ≠ some f := by
  induction as with
  | nil => exact .inr (by simp)
  | cons b as ih =>
    rcases ih with ⟨a, ha⟩ | hnone
    · exact .inl ⟨a, lastFor_cons.2 (.inl ha)⟩
    · by_cases hb : b.field? = some f
      · exact .inl ⟨b, lastFor_cons.2 (.inr ⟨rfl, hb, hnone⟩)⟩
      · exact .inr (List.forall_mem_cons.2 ⟨hb, hnone⟩)

/-- Attributes that are read have trimmed keys in capitals. -/
theorem spellable_of_parseAll {s : String} {as : List Attribute} (h : parseAll s = .ok as) :
    ∀ a ∈ as, Spellable a := by
  obtain ⟨l, -, hl⟩ := exists_layout_of_parseAll h
  exact (exists_layout_iff as).1 ⟨l, hl⟩

end Attribute

/-! ## Setting attributes -/

namespace Configuration

/-- An attribute names no field and changes nothing, or its value is put, or it is not valid. -/
theorem setAttribute_cases {a : Attribute} (h : Spellable a) :
    (a.field? = none ∧ ∀ c : Configuration, c.setAttribute a.key a.value = .ok c) ∨
      (∃ f v, a.field? = some f ∧ f.read? (trimmed a.value) = some v ∧
        ∀ c : Configuration, c.setAttribute a.key a.value = .ok (c.put f v)) ∨
      (¬ a.Valid ∧ ∀ c : Configuration,
        c.setAttribute a.key a.value = .error (.invalidValue a.key (trimmed a.value))) := by
  have hkey : String.ofList (upper (trim a.key.toList)) = a.key := by
    rw [h.trimmed, h.capitals, String.ofList_toList]
  cases hfield : Field.ofKey? a.key with
  | none =>
    refine .inl ⟨hfield, fun c => ?_⟩
    simp only [setAttribute, hkey, hfield]
  | some f =>
    cases hread : f.read? (trimmed a.value) with
    | some v =>
      refine .inr (.inl ⟨f, v, hfield, hread, fun c => ?_⟩)
      simp only [setAttribute, hkey, hfield, set?_eq, hread, Option.map_some]
    | none =>
      refine .inr (.inr ⟨fun hvalid => ?_, fun c => ?_⟩)
      · have hsome := hvalid f hfield
        simp [hread] at hsome
      · simp only [setAttribute, hkey, hfield, set?_eq, hread, Option.map_none]

/-- A configuration is another one with attributes laid over it. -/
structure Overlays (c : Configuration) (as : List Attribute) (base : Configuration) : Prop where
  given : ∀ f (a : Attribute), a.LastFor f as → f.read? (trimmed a.value) = some (c.get f)
  kept : ∀ f, (∀ a ∈ as, a.field? ≠ some f) → c.get f = base.get f

theorem overlays_nil (c : Configuration) : c.Overlays [] c where
  given := by
    rintro f a ⟨front, behind, hnil, -⟩
    simp at hnil
  kept _ _ := rfl

/-- What is laid over a configuration, and the configuration, leave no choice. -/
theorem Overlays.unique {c c' base : Configuration} {as : List Attribute} (h : c.Overlays as base)
    (h' : c'.Overlays as base) : c = c' := by
  refine ext_get fun f => ?_
  rcases exists_lastFor_or f as with ⟨a, ha⟩ | hnone
  · exact Option.some.inj ((h.given f a ha).symm.trans (h'.given f a ha))
  · exact (h.kept f hnone).trans (h'.kept f hnone).symm

/-- An attribute without a field leaves what the others say. -/
theorem Overlays.cons_none {c base : Configuration} {a : Attribute} {as : List Attribute}
    (h : c.Overlays as base) (ha : a.field? = none) : c.Overlays (a :: as) base where
  given f b hb := by
    rcases lastFor_cons.1 hb with hb | ⟨-, hfield, -⟩
    · exact h.given f b hb
    · simp [ha] at hfield
  kept f hnone := h.kept f fun b hb => hnone b (List.mem_cons_of_mem a hb)

/-- A value that is put first counts unless another attribute is for its field. -/
theorem Overlays.cons_put {c base : Configuration} {a : Attribute} {as : List Attribute} {f : Field}
    {v : f.Value} (h : c.Overlays as (base.put f v)) (ha : a.field? = some f)
    (hv : f.read? (trimmed a.value) = some v) : c.Overlays (a :: as) base where
  given g b hb := by
    rcases lastFor_cons.1 hb with hb | ⟨rfl, hfield, hnone⟩
    · exact h.given g b hb
    · -- no later attribute is for the field, so it keeps what is put now
      obtain rfl : f = g := Option.some.inj (ha.symm.trans hfield)
      rw [hv, h.kept f hnone, get_put_self]
  kept g hnone := by
    obtain ⟨hne, hnone⟩ := List.forall_mem_cons.1 hnone
    have hfg : g ≠ f := by
      rintro rfl
      exact hne ha
    rw [h.kept g hnone, get_put_of_ne base hfg]

/-- **Valid attributes.**  They are laid over the configuration they are set on. -/
theorem setAll_of_valid (c : Configuration) {as : List Attribute} (hspell : ∀ a ∈ as, Spellable a)
    (hvalid : ∀ a ∈ as, a.Valid) : ∃ c', c.setAll as = (.ok (), c') ∧ c'.Overlays as c := by
  -- the rest is laid over what the first attribute leaves
  induction as generalizing c with
  | nil => exact ⟨c, rfl, overlays_nil c⟩
  | cons a as ih =>
    rw [List.forall_mem_cons] at hspell hvalid
    rw [setAll]
    obtain ⟨hfield, hset⟩ | ⟨f, v, hfield, hread, hset⟩ | ⟨hinvalid, -⟩ :=
      setAttribute_cases hspell.1
    · obtain ⟨c', hall, hover⟩ := ih c hspell.2 hvalid.2
      rw [hset]
      exact ⟨c', hall, hover.cons_none hfield⟩
    · obtain ⟨c', hall, hover⟩ := ih (c.put f v) hspell.2 hvalid.2
      rw [hset]
      exact ⟨c', hall, hover.cons_put hfield hread⟩
    · exact absurd hvalid.1 hinvalid

/-- **Invalid attributes.**  The first one is the error, and those in front of it are set. -/
theorem setAll_of_invalid (c : Configuration) {front behind : List Attribute} {a : Attribute}
    (hspell : ∀ b ∈ front ++ a :: behind, Spellable b) (hvalid : ∀ b ∈ front, b.Valid)
    (ha : ¬ a.Valid) :
    c.setAll (front ++ a :: behind) =
      (.error (.invalidValue a.key (trimmed a.value)), (c.setAll front).2) := by
  rw [List.forall_mem_append, List.forall_mem_cons] at hspell
  obtain ⟨hfront, hspell, -⟩ := hspell
  obtain ⟨c', hall, -⟩ := c.setAll_of_valid hfront hvalid
  rw [setAll_append, hall]
  dsimp only
  rw [setAll]
  obtain ⟨hfield, -⟩ | ⟨f, v, hfield, hread, -⟩ | ⟨-, hset⟩ := setAttribute_cases hspell
  · exact absurd (valid_of_field_none hfield) ha
  · exact absurd (valid_of_read hfield hread) ha
  · rw [hset]

/-- Attributes cannot be set exactly if one of them is not valid. -/
theorem withAll_eq_error_iff (c : Configuration) {as : List Attribute}
    (hspell : ∀ a ∈ as, Spellable a) :
    (∃ e, c.withAll as = .error e) ↔ ∃ a ∈ as, ¬ a.Valid := by
  unfold withAll
  rcases valid_or_first_invalid as with hvalid | ⟨front, a, behind, rfl, hfront, ha⟩
  · obtain ⟨c', hall, -⟩ := c.setAll_of_valid hspell hvalid
    simpa [hall] using hvalid
  · rw [c.setAll_of_invalid hspell hfront ha]
    exact ⟨fun _ => ⟨a, by simp, ha⟩, fun _ => ⟨_, rfl⟩⟩

/-- What attributes are set on comes to has them laid over it. -/
theorem overlays_of_withAll {c base : Configuration} {as : List Attribute}
    (hspell : ∀ a ∈ as, Spellable a) (h : base.withAll as = .ok c) : c.Overlays as base := by
  unfold withAll at h
  rcases valid_or_first_invalid as with hvalid | ⟨front, a, behind, rfl, hfront, ha⟩
  · obtain ⟨c', hall, hover⟩ := base.setAll_of_valid hspell hvalid
    rw [hall] at h
    obtain rfl : c' = c := Except.ok.inj h
    exact hover
  · simp [base.setAll_of_invalid hspell hfront ha] at h

/-- Attributes that cannot be set have one to blame. -/
theorem error_of_withAll {base : Configuration} {as : List Attribute} {e : ConfigError}
    (hspell : ∀ a ∈ as, Spellable a) (h : base.withAll as = .error e) :
    ∃ a ∈ as, ¬ a.Valid ∧ e = .invalidValue a.key (trimmed a.value) := by
  unfold withAll at h
  rcases valid_or_first_invalid as with hvalid | ⟨front, a, behind, rfl, hfront, ha⟩
  · obtain ⟨c', hall, -⟩ := base.setAll_of_valid hspell hvalid
    simp [hall] at h
  · rw [base.setAll_of_invalid hspell hfront ha] at h
    exact ⟨a, by simp, ha, (Except.error.inj h).symm⟩

/-- A field that no attribute is for can be put before or behind. -/
theorem setAll_put (c : Configuration) {f : Field} (v : f.Value) {as : List Attribute}
    (hspell : ∀ a ∈ as, Spellable a) (hnone : ∀ a ∈ as, a.field? ≠ some f) :
    (c.put f v).setAll as = ((c.setAll as).1, (c.setAll as).2.put f v) := by
  induction as generalizing c with
  | nil => rfl
  | cons a as ih =>
    rw [List.forall_mem_cons] at hspell hnone
    rw [setAll, setAll]
    obtain ⟨-, hset⟩ | ⟨g, w, hfield, -, hset⟩ | ⟨-, hset⟩ := setAttribute_cases hspell.1
    · rw [hset, hset]
      exact ih c hspell.2 hnone.2
    · -- the attribute is for another field, and the two puts change places
      have hgf : g ≠ f := fun heq => hnone.1 (heq ▸ hfield)
      rw [hset, hset, put_comm c hgf]
      exact ih (c.put g w) hspell.2 hnone.2
    · rw [hset, hset]

/-- The only attribute for a field can be set last. -/
theorem withAll_cons (c : Configuration) {f : Field} {v : f.Value} {a : Attribute}
    {as : List Attribute} (hspell : ∀ b ∈ a :: as, Spellable b) (ha : a.field? = some f)
    (hv : f.read? (trimmed a.value) = some v) (hnone : ∀ b ∈ as, b.field? ≠ some f) :
    c.withAll (a :: as) = (c.withAll as).map (·.put f v) := by
  rw [List.forall_mem_cons] at hspell
  have hset : c.setAttribute a.key a.value = .ok (c.put f v) := by
    obtain ⟨hfield, -⟩ | ⟨g, w, hfield, hread, hset⟩ | ⟨hinvalid, -⟩ := setAttribute_cases hspell.1
    · simp [ha] at hfield
    · obtain rfl : f = g := Option.some.inj (ha.symm.trans hfield)
      obtain rfl : v = w := Option.some.inj (hv.symm.trans hread)
      exact hset c
    · exact absurd (valid_of_read ha hv) hinvalid
  unfold withAll
  rw [setAll, hset]
  dsimp only
  rw [setAll_put c v hspell.2 hnone]
  rcases c.setAll as with ⟨e | u, c'⟩
  · rfl
  · rfl

end Configuration

end SqlSession
