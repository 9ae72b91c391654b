import SqlSession.Proofs.Registry.Layers
/-!
# The name of a data source

The value of the last attribute for the data source is used twice: as it stands it is looked up, and
trimmed it is recorded.  The two are one name unless there are blanks at an end of the value, which
only braces let in:

    DSN= prod      looks up "prod",    records "prod"
    DSN={ prod }   looks up " prod ",  records "prod"

* `ResolvesBy`: what it is for a connection string to be resolved by one name.
* `resolve_naming`: that this holds in every registry exactly if the value is trimmed.
* `resolve_padded`: a data source that is defined and not found, and one that is found and not the
  one recorded.
-/

namespace SqlSession

open Text Attribute

namespace Registry

/-! ## Lookup -/

theorem length_eq_of_sameLetters {a b : String} (h : sameLetters a b = true) :
    a.toList.length = b.toList.length := by
  have hletters : a.toList.map Char.toLower = b.toList.map Char.toLower := by
    simpa [sameLetters] using h
  simpa using congrArg List.length hletters

/-- In a registry with one data source, only names of the same length find it. -/
theorem get?_single_eq_none {name other : String} (c : Configuration)
    (h : name.toList.length ≠ other.toList.length) :
    get? ⟨[(name, c)], List.pairwise_singleton _ _⟩ other = none := by
  have hsame : sameLetters name other = false := by
    cases hsame : sameLetters name other with
    | true => exact absurd (length_eq_of_sameLetters hsame) h
    | false => rfl
  have hne : (name == other) = false := by
    rw [beq_eq_false_iff_ne]
    rintro rfl
    exact h rfl
  simp [get?, entry?, hne, hsame]

theorem get?_single (name : String) (c : Configuration) :
    get? ⟨[(name, c)], List.pairwise_singleton _ _⟩ name = some { c with dsn := some name } := by
  simp [get?, entry?]

/-- A text that is as long as its trimmed text is trimmed. -/
theorem trimmed_of_length {text : String}
    (h : (trimmed text).toList.length = text.toList.length) : trimmed text = text := by
  rw [trimmed, String.toList_ofList] at h
  rw [trimmed, (trim_sublist text.toList).eq_of_length h, String.ofList_toList]

/-! ## One name for both -/

/-- A connection string is resolved by a name.  It asks for an unknown data source exactly if the
name is not defined; else what comes of it is the data source of that name with the attributes set,
and records the name. -/
structure ResolvesBy (r : Registry) (s : String) (as : List Attribute) (name : String) : Prop where
  unknown : (∃ other, r.resolve s = .error (.unknownDataSource other)) ↔ r.get? name = none
  found : ∀ c, r.resolve s = .ok c →
    c.dsn = some name ∧ ∃ base, r.get? name = some base ∧ base.withAll as = .ok c

variable {s : String} {as : List Attribute} {a : Attribute}

/-- The trimmed value is recorded. -/
theorem dsn_of_resolve {r : Registry} {c : Configuration} (h : parseAll s = .ok as)
    (ha : a.LastFor .dsn as) (hc : r.resolve s = .ok c) : c.dsn = some (trimmed a.value) := by
  rw [r.resolve_of_lastFor h ha] at hc
  split at hc
  · have hover := Configuration.overlays_of_withAll (spellable_of_parseAll h) hc
    have hgiven : some (some (trimmed a.value)) = some c.dsn := hover.given .dsn a ha
    exact (Option.some.inj hgiven).symm
  · simp at hc

/-- The value as it stands is not defined exactly if that is the error. -/
theorem unknown_iff (r : Registry) (h : parseAll s = .ok as) (ha : a.LastFor .dsn as) :
    (∃ other, r.resolve s = .error (.unknownDataSource other)) ↔ r.get? a.value = none := by
  rw [r.resolve_of_lastFor h ha]
  cases hget : r.get? a.value with
  | none => simp
  | some base =>
    simp only [reduceCtorEq, iff_false, not_exists]
    intro other hother
    obtain ⟨b, -, -, hb⟩ := Configuration.error_of_withAll (spellable_of_parseAll h) hother
    simp at hb

/-- **Naming.**  What is looked up is the value of the last attribute for the data source as it
stands, and what is recorded is the trimmed value.  A connection string is resolved by the trimmed
value in every registry exactly if the value is trimmed. -/
theorem resolve_naming (h : parseAll s = .ok as) (ha : a.LastFor .dsn as) :
    (∀ r : Registry, r.resolve s =
        match r.get? a.value with
        | some base => base.withAll as
        | none => .error (.unknownDataSource a.value)) ∧
      (∀ (r : Registry) c, r.resolve s = .ok c → c.dsn = some (trimmed a.value)) ∧
      ((∀ r : Registry, r.ResolvesBy s as (trimmed a.value)) ↔ trimmed a.value = a.value) := by
  refine ⟨fun r => r.resolve_of_lastFor h ha, fun r c hc => dsn_of_resolve h ha hc, ?_, ?_⟩
  · intro hall
    -- with the trimmed value as the only data source, the value as it stands has to find it
    by_contra hne
    have hlength := mt trimmed_of_length hne
    let r : Registry := ⟨[(trimmed a.value, {})], List.pairwise_singleton _ _⟩
    have hnone : r.get? a.value = none := get?_single_eq_none {} hlength
    have hsome : r.get? (trimmed a.value) ≠ none := by
      rw [get?_single]
      simp
    exact hsome ((hall r).unknown.1 ((r.unknown_iff h ha).2 hnone))
  · intro htrim r
    refine ⟨?_, fun c hc => ⟨dsn_of_resolve h ha hc, ?_⟩⟩
    · rw [htrim]
      exact r.unknown_iff h ha
    · rw [r.resolve_of_lastFor h ha, ← htrim] at hc
      cases hget : r.get? (trimmed a.value) with
      | none => simp [hget] at hc
      | some base =>
        rw [hget] at hc
        exact ⟨base, rfl, hc⟩

/-- Blanks around a bare value, other letters, and an attribute to set. -/
theorem resolve_naming_bare :
    let r : Registry := ⟨[("Prod", { port := 7 })], List.pairwise_singleton _ _⟩
    let as : List Attribute := [⟨"DSN", "x"⟩, ⟨"SCHEMA", "T"⟩, ⟨"DSN", "prod"⟩]
    let c : Configuration := { dsn := some "prod", schema := "T", port := 7 }
    parseAll "dsn=x;schema=T;DSN= prod " = .ok as ∧ (⟨"DSN", "prod"⟩ : Attribute).LastFor .dsn as ∧
      r.resolve "dsn=x;schema=T;DSN= prod " = .ok c ∧
      ∃ base, r.get? "prod" = some base ∧ base.withAll as = .ok c := by
  intro r as c
  have hread : parseAll "dsn=x;schema=T;DSN= prod " = .ok as := by decide +kernel
  have hlast : (⟨"DSN", "prod"⟩ : Attribute).LastFor .dsn as :=
    ⟨as.take 2, [], rfl, rfl, by simp⟩
  obtain ⟨hresolve, -, hagree⟩ := resolve_naming hread hlast
  have hc : r.resolve "dsn=x;schema=T;DSN= prod " = .ok c := (hresolve r).trans (by decide +kernel)
  exact ⟨hread, hlast, hc, (((hagree.2 (by decide)) r).found c hc).2⟩

/-- A data source that is defined is not found behind padding in braces, and one that is found there
is not the one that is recorded. -/
theorem resolve_padded :
    let prod : Registry := ⟨[("prod", { schema := "S" })], List.pairwise_singleton _ _⟩
    let padded : Registry := ⟨[(" prod ", { schema := "S" })], List.pairwise_singleton _ _⟩
    parseAll "DSN=\x7b prod \x7d" = .ok [⟨"DSN", " prod "⟩] ∧ trimmed " prod " = "prod" ∧
      prod.get? "prod" = some { dsn := some "prod", schema := "S" } ∧
      prod.resolve "DSN=\x7b prod \x7d" = .error (.unknownDataSource " prod ") ∧
      padded.get? "prod" = none ∧
      padded.resolve "DSN=\x7b prod \x7d" = .ok { dsn := some "prod", schema := "S" } := by
  decide +kernel

end Registry

end SqlSession
