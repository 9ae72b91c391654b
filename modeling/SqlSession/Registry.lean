import SqlSession.Configuration
/-!
# Data sources

A registry holds configurations under names.  Names are kept in ascending order of their characters,
which is the order of their UTF-8 bytes too, and no name twice.  The order is a part of a registry,
so each operation that builds one has a lemma beside it that says so.

* `insert` stores a configuration; a name that is there is overwritten.
* `ofList` is the registry of entries in any order.
* `get?` finds a name, or else the first name that differs in letter case only.
* `resolve` builds a configuration from a connection string that may name a data source.
-/

namespace SqlSession

/-- Entries are in ascending order of their names, and no name stands twice. -/
abbrev Registry.Ascending (entries : List (String × Configuration)) : Prop :=
  entries.Pairwise fun a b => a.1 < b.1

/-- Configurations under names, in ascending order of the names. -/
@[ext] structure Registry where
  entries : List (String × Configuration)
  ascending : Registry.Ascending entries
  deriving DecidableEq, Repr

namespace Registry

/-- The registry without data sources. -/
def empty : Registry := ⟨[], .nil⟩

/-! ## Inserting -/

/-- Puts an entry into entries in ascending order: behind the smaller names, in place of its own. -/
def place (name : String) (c : Configuration) (entries : List (String × Configuration)) :
    List (String × Configuration) :=
  entries.takeWhile (fun e => e.1 < name) ++
    (name, c) :: entries.dropWhile fun e => !decide (name < e.1)

/-- What is behind the place of a name has larger names. -/
theorem lt_of_mem_behind {name : String} {entries : List (String × Configuration)}
    (h : Ascending entries) {e : String × Configuration}
    (he : e ∈ entries.dropWhile fun e => !decide (name < e.1)) : name < e.1 := by
  induction entries with
  | nil => cases he
  | cons first entries ih =>
    obtain ⟨hfirst, h⟩ := List.pairwise_cons.1 h
    by_cases hlt : name < first.1
    · rw [List.dropWhile_cons_of_neg (by simp [hlt])] at he
      rcases List.mem_cons.1 he with rfl | he
      · exact hlt
      · exact String.lt_trans hlt (hfirst e he)
    · rw [List.dropWhile_cons_of_pos (by simp [hlt])] at he
      exact ih h he

/-- An entry that is put in its place keeps the order. -/
theorem ascending_place (name : String) (c : Configuration)
    {entries : List (String × Configuration)} (h : Ascending entries) :
    Ascending (place name c entries) := by
  have hfront : ∀ e ∈ entries.takeWhile (fun e => e.1 < name), e.1 < name := fun e he =>
    of_decide_eq_true (List.all_eq_true.1 List.all_takeWhile e he)
  rw [Ascending, place, List.pairwise_append, List.pairwise_cons]
  refine ⟨h.sublist (List.takeWhile_sublist _),
    ⟨fun e he => lt_of_mem_behind h he, h.sublist (List.dropWhile_sublist _)⟩, fun a ha b hb => ?_⟩
  rcases List.mem_cons.1 hb with rfl | hb
  · exact hfront a ha
  · exact String.lt_trans (hfront a ha) (lt_of_mem_behind h hb)

/-- Stores a configuration under a name. -/
def insert (r : Registry) (name : String) (c : Configuration) : Registry :=
  ⟨place name c r.entries, ascending_place name c r.ascending⟩

/-! ## Lists of entries -/

/-- Whether an entry may stand in front of another. -/
def mayPrecede (a b : String × Configuration) : Bool := !decide (b.1 < a.1)

/-- Puts an entry in front of others, unless the first of them has its name. -/
def addUnlessNamed (e : String × Configuration) (entries : List (String × Configuration)) :
    List (String × Configuration) :=
  if entries.head?.any fun first => first.1 == e.1 then entries else e :: entries

/-- Of entries in order, the last one under each name. -/
def lastOfEach (entries : List (String × Configuration)) : List (String × Configuration) :=
  entries.foldr addUnlessNamed []

theorem mayPrecede_iff {a b : String × Configuration} : mayPrecede a b = true ↔ a.1 ≤ b.1 := by
  rw [mayPrecede, Bool.not_eq_true', decide_eq_false_iff_not, String.not_lt]

theorem mem_of_mem_lastOfEach {e : String × Configuration}
    {entries : List (String × Configuration)} (h : e ∈ lastOfEach entries) : e ∈ entries := by
  induction entries with
  | nil => exact h
  | cons first entries ih =>
    rw [lastOfEach, List.foldr_cons, addUnlessNamed] at h
    split at h
    · exact List.mem_cons_of_mem _ (ih h)
    · rcases List.mem_cons.1 h with rfl | h
      · exact List.mem_cons_self
      · exact List.mem_cons_of_mem _ (ih h)

/-- Entries in order, one for each name, are in strictly ascending order. -/
theorem ascending_lastOfEach {entries : List (String × Configuration)}
    (h : entries.Pairwise fun a b => mayPrecede a b = true) : Ascending (lastOfEach entries) := by
  induction entries with
  | nil => exact .nil
  | cons e entries ih =>
    obtain ⟨he, h⟩ := List.pairwise_cons.1 h
    have hothers : ∀ other ∈ lastOfEach entries, e.1 ≤ other.1 := fun other hother =>
      mayPrecede_iff.1 (he other (mem_of_mem_lastOfEach hother))
    have hkept := ih h
    rw [lastOfEach, List.foldr_cons, ← lastOfEach, addUnlessNamed]
    split
    · exact hkept
    · rename_i hfirst
      refine List.pairwise_cons.2 ⟨fun other hother => ?_, hkept⟩
      -- the first of the others has another name, and the rest are larger than it
      cases hlist : lastOfEach entries with
      | nil => simp [hlist] at hother
      | cons first rest =>
        rw [hlist] at hkept hfirst hothers hother
        have hne : first.1 ≠ e.1 := by simpa using hfirst
        have hlt : e.1 < first.1 := String.not_le.1 fun hle =>
          hne (String.le_antisymm hle (hothers first List.mem_cons_self))
        rcases List.mem_cons.1 hother with rfl | hother
        · exact hlt
        · exact String.lt_trans hlt ((List.pairwise_cons.1 hkept).1 other hother)

/-- Sorting puts entries in order. -/
theorem sorted_mergeSort (entries : List (String × Configuration)) :
    (entries.mergeSort mayPrecede).Pairwise fun a b => mayPrecede a b = true := by
  refine List.pairwise_mergeSort (fun a b c hab hbc => ?_) (fun a b => ?_) entries
  · exact mayPrecede_iff.2 (String.le_trans (mayPrecede_iff.1 hab) (mayPrecede_iff.1 hbc))
  · rw [Bool.or_eq_true, mayPrecede_iff, mayPrecede_iff]
    exact String.le_total a.1 b.1

/-- The registry of a list of entries; of two with one name the later counts. -/
def ofList (entries : List (String × Configuration)) : Registry :=
  ⟨lastOfEach (entries.mergeSort mayPrecede), ascending_lastOfEach (sorted_mergeSort entries)⟩

/-! ## Lookup -/

/-- The names, in ascending order. -/
def names (r : Registry) : List String := r.entries.map (·.1)

/-- The configurations in the order of their names, each marked with its name. -/
def configurations (r : Registry) : List Configuration :=
  r.entries.map fun e => { e.2 with dsn := some e.1 }

/-- The number of data sources. -/
def size (r : Registry) : Nat := r.entries.length

/-- Whether there is no data source. -/
def isEmpty (r : Registry) : Bool := r.entries.isEmpty

/-- The entry a name refers to. -/
def entry? (r : Registry) (name : String) : Option (String × Configuration) :=
  match r.entries.find? fun e => e.1 == name with
  | some e => some e
  | none => r.entries.find? fun e => Text.sameLetters e.1 name

/-- The configuration a name refers to, marked with the name it is stored under. -/
def get? (r : Registry) (name : String) : Option Configuration :=
  (r.entry? name).map fun e => { e.2 with dsn := some e.1 }

/-- The last data source that attributes name. -/
def dataSource? (attributes : List Attribute) : Option String :=
  (attributes.findRev? fun a => a.key == Field.dsn.key).map (·.value)

/-- The configuration of a connection string, on top of the data source it names or of the
defaults. -/
def resolve (r : Registry) (s : String) : Except ConfigError Configuration := do
  let attributes ← Attribute.parseAll s
  match dataSource? attributes with
  | none => Configuration.withAll {} attributes
  | some name =>
    match r.get? name with
    | some c => c.withAll attributes
    | none => .error (.unknownDataSource name)

end Registry

end SqlSession
