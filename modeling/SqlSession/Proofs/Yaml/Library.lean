import Mathlib.Data.List.Forall2
import SqlSession.Yaml.Library
/-!
# What a YAML library promises

A library reads back what it has written (`Library.ReadsBack`): a document that it loads again starts
at a node that stands for the value, and of a node that stands for

    a text         the text is read, also where it may be missing
    a number       the number is read, below any limit that it is below
    a truth value  the truth value is read
    a mapping      pairs of nodes are read that stand for its keys and values, in order

That is asked for documents of visible texts only, those of the ASCII characters that show on paper
and the space.
-/

namespace SqlSession.Yaml

/-! ## Visible texts -/

/-- An ASCII character that shows on paper, or the space. -/
def Visible (c : Char) : Prop := 0x20 ≤ c.toNat ∧ c.toNat ≤ 0x7E

instance : DecidablePred Visible := fun c =>
  inferInstanceAs (Decidable (0x20 ≤ c.toNat ∧ c.toNat ≤ 0x7E))

/-- A text of visible characters. -/
def VisibleText (text : String) : Prop := ∀ c ∈ text.toList, Visible c

theorem visibleText_iff (text : String) :
    (text.toList.all fun c => decide (Visible c)) = true ↔ VisibleText text := by
  rw [List.all_eq_true]
  simp only [decide_eq_true_eq, VisibleText]

instance : DecidablePred VisibleText := fun text => decidable_of_iff _ (visibleText_iff text)

namespace Value

mutual

/-- All texts of a value are visible, and no mapping in it is empty. -/
def IsVisible : Value → Prop
  | .text s => VisibleText s
  | .number _ => True
  | .flag _ => True
  | .mapping fields => fields ≠ [] ∧ FieldsVisible fields

/-- All keys and values of fields are visible. -/
def FieldsVisible : List (String × Value) → Prop
  | [] => True
  | (key, value) :: rest => VisibleText key ∧ IsVisible value ∧ FieldsVisible rest

end

theorem fieldsVisible_of_forall {fields : List (String × Value)}
    (h : ∀ e ∈ fields, VisibleText e.1 ∧ e.2.IsVisible) : FieldsVisible fields := by
  induction fields with
  | nil =>
    rw [FieldsVisible]
    exact trivial
  | cons e fields ih =>
    obtain ⟨he, hfields⟩ := List.forall_mem_cons.1 h
    rw [FieldsVisible]
    exact ⟨he.1, he.2, ih hfields⟩

end Value

/-! ## Readings that succeed -/

section

variable [Library] {α β : Type} {r : Reading α} {f : α → Reading β} {a : α} {b : β}

/-- A reading gives a result, whatever was read before. -/
def Gives (r : Reading α) (a : α) : Prop := ∀ state, ∃ state', r state = .ok (a, state')

theorem gives_pure (a : α) : Gives (pure a) a := fun state => ⟨state, rfl⟩

theorem Gives.bind (h : Gives r a) (hf : Gives (f a) b) : Gives (r >>= f) b := by
  intro state
  obtain ⟨state₁, h⟩ := h state
  obtain ⟨state₂, hf⟩ := hf state₁
  refine ⟨state₂, ?_⟩
  show (r state >>= fun p => f p.1 p.2) = _
  rw [h]
  exact hf

/-- The result is what a run comes to. -/
theorem Gives.run' (h : Gives r a) (state : Library.State) : r.run' state = .ok a := by
  obtain ⟨state', h⟩ := h state
  show (·.1) <$> r state = _
  rw [h]
  rfl

theorem Gives.map (h : Gives r a) (g : α → β) : Gives (g <$> r) (g a) := by
  intro state
  obtain ⟨state', h⟩ := h state
  refine ⟨state', ?_⟩
  show (r state >>= fun p => pure (g p.1, p.2)) = _
  rw [h]
  rfl

end

/-! ## Promises -/

/-- A pair of nodes stands for a key and its value. -/
def Library.PairStands [Library] (Stands : Library.Node → Value → Prop)
    (pair : Library.Node × Library.Node) (field : String × Value) : Prop :=
  Stands pair.1 (.text field.1) ∧ Stands pair.2 field.2

/-- A library reads back what it has written, where `Stands` tells which nodes stand for a value. -/
structure Library.ReadsBack [Library] (Stands : Library.Node → Value → Prop) : Prop where
  /-- A mapping that was written is loaded as a node that stands for it. -/
  load_write : ∀ fields, Value.FieldsVisible fields → ∃ n state,
    Library.load (Library.write (.mapping fields)) = .ok (n, state) ∧ Stands n (.mapping fields)
  text : ∀ {n s}, Stands n (.text s) → Gives (Library.text n) s
  optionalText : ∀ {n s}, Stands n (.text s) → Gives (Library.optionalText n) (some s)
  number : ∀ {n k limit}, Stands n (.number k) → k.toNat < limit →
    Gives (Library.number limit n) k.toNat
  flag : ∀ {n b}, Stands n (.flag b) → Gives (Library.flag n) b
  pairs : ∀ {n fields}, Stands n (.mapping fields) → ∃ nodes, Gives (Library.pairs n) nodes ∧
    List.Forall₂ (PairStands Stands) nodes fields

end SqlSession.Yaml
