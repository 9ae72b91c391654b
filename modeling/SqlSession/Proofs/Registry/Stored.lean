import SqlSession.Proofs.Configuration.Field
import SqlSession.Proofs.Registry.Lookup
import SqlSession.Proofs.Wire.Handshake
import SqlSession.Proofs.Yaml.Builtin
import SqlSession.Registry.File
/-!
# Stored data sources

A registry whose names and texts are of visible characters is read back from the file that it is
written to, by any YAML library that reads back what it has written.

    a text                          the text
    a text that may be missing      no field if it is missing, and that is the default
    a number, a truth value         what it was, as it is below the limit of its type

* `gives_setNode`: a field that is written is read back, on any configuration.
* `gives_setPairs`: so are the fields of a configuration, in the order they are written.
* `ofFile_text`: a registry.
-/

namespace SqlSession

open Yaml

/-! ## What is written -/

namespace Configuration

variable {c : Configuration}

/-- A field that is not written has its default. -/
theorem get_of_value?_none {f : Field} (h : c.value? f = none) :
    c.get f = ({} : Configuration).get f := by
  cases f
  case dsn | address => exact Option.map_eq_none_iff.1 h
  all_goals exact absurd h (Option.some_ne_none _)

@[simp] theorem put_get_self (c : Configuration) (f : Field) : c.put f (c.get f) = c := by
  cases f <;> rfl

/-- The texts of a configuration. -/
def texts (c : Configuration) : List String :=
  c.dsn.toList ++ [c.driver] ++ c.address.toList ++ [c.server, c.schema, c.protocolVersion]

/-- Fields of visible texts are written as visible values. -/
theorem visible_value? (hc : ∀ text ∈ c.texts, VisibleText text) {f : Field} {v : Value}
    (h : c.value? f = some v) : v.IsVisible := by
  cases f
  case dsn | address =>
    obtain ⟨text, htext, rfl⟩ := Option.map_eq_some_iff.1 h
    rw [Value.IsVisible]
    exact hc text (by simp [texts, htext])
  case driver | server | schema | protocolVersion =>
    obtain rfl := Option.some.inj h
    rw [Value.IsVisible]
    exact hc _ (by simp [texts])
  case port | pageSize | loginTimeout | distributedJoins | enforceJoinOrder | replicatedOnly |
      collocated | lazy =>
    obtain rfl := Option.some.inj h
    rw [Value.IsVisible]
    exact trivial

theorem visible_name (f : Field) : VisibleText f.name := by
  cases f <;> decide +kernel

theorem fieldValues_of_none {f : Field} (h : c.value? f = none) (fs : List Field) :
    c.fieldValues (f :: fs) = c.fieldValues fs := by
  rw [fieldValues, List.filterMap_cons, h]
  rfl

theorem fieldValues_of_some {f : Field} {v : Value} (h : c.value? f = some v) (fs : List Field) :
    c.fieldValues (f :: fs) = (f.name, v) :: c.fieldValues fs := by
  rw [fieldValues, List.filterMap_cons, h]
  rfl

/-- A configuration of visible texts is written as a visible value. -/
theorem visible_value (hc : ∀ text ∈ c.texts, VisibleText text) : c.value.IsVisible := by
  have hfields : ∀ e ∈ c.fieldValues Field.all, VisibleText e.1 ∧ e.2.IsVisible := by
    intro e he
    obtain ⟨f, -, he⟩ := List.mem_filterMap.1 he
    obtain ⟨v, hv, rfl⟩ := Option.map_eq_some_iff.1 he
    exact ⟨visible_name f, visible_value? hc hv⟩
  have hdriver : (Field.driver.name, Value.text c.driver) ∈ c.fieldValues Field.all :=
    List.mem_filterMap.2 ⟨.driver, by decide, rfl⟩
  rw [value, Value.IsVisible]
  exact ⟨List.ne_nil_of_mem hdriver, Value.fieldsVisible_of_forall hfields⟩

/-- A configuration is the values of its fields, put one after the other. -/
theorem foldl_put (c : Configuration) :
    Field.all.foldl (fun base f => base.put f (c.get f)) {} = c := by
  cases c
  rfl

end Configuration

namespace Registry

/-- Of entries in ascending order each is the last one under its name. -/
theorem lastOfEach_of_ascending {entries : List (String × Configuration)}
    (h : Ascending entries) : lastOfEach entries = entries := by
  induction entries with
  | nil => rfl
  | cons e entries ih =>
    obtain ⟨he, h⟩ := List.pairwise_cons.1 h
    have hfirst : (entries.head?.any fun first => first.1 == e.1) = false := by
      cases entries with
      | nil => rfl
      | cons first entries => exact beq_eq_false_iff_ne.2 (he first List.mem_cons_self).ne'
    rw [lastOfEach, List.foldr_cons, ← lastOfEach, ih h, addUnlessNamed, hfirst,
      if_neg Bool.false_ne_true]

/-- A registry is the registry of its entries. -/
theorem ofList_entries (r : Registry) : ofList r.entries = r := by
  have hsort : r.entries.mergeSort mayPrecede = r.entries :=
    List.mergeSort_of_pairwise (r.ascending.imp fun {a b} hab => mayPrecede_iff.2 (le_of_lt hab))
  refine Registry.ext ?_
  show lastOfEach (r.entries.mergeSort mayPrecede) = r.entries
  rw [hsort, lastOfEach_of_ascending r.ascending]

/-- What is written for a registry of visible names and texts is visible. -/
theorem visible_value {r : Registry}
    (h : ∀ e ∈ r.entries, VisibleText e.1 ∧ ∀ text ∈ e.2.texts, VisibleText text) :
    Value.FieldsVisible (r.entries.map fun e => (e.1, e.2.value)) := by
  refine Value.fieldsVisible_of_forall ?_
  rw [List.forall_mem_map]
  exact fun e he => ⟨(h e he).1, Configuration.visible_value (h e he).2⟩

end Registry

/-! ## Reading it back -/

section

variable [Library] {Stands : Library.Node → Value → Prop} (hlibrary : Library.ReadsBack Stands)

include hlibrary

namespace Configuration

variable {c : Configuration}

/-- **Fields.**  A field that is written is read back, on any configuration. -/
theorem gives_setNode {f : Field} {v : Value} (h : c.value? f = some v) {n : Library.Node}
    (hn : Stands n v) (base : Configuration) :
    Gives (base.setNode f n) (base.put f (c.get f)) := by
  cases f
  case dsn =>
    obtain ⟨text, htext, rfl⟩ := Option.map_eq_some_iff.1 h
    show Gives _ (base.put .dsn c.dsn)
    rw [htext]
    exact (hlibrary.optionalText hn).map (base.put .dsn)
  case address =>
    obtain ⟨text, htext, rfl⟩ := Option.map_eq_some_iff.1 h
    show Gives _ (base.put .address c.address)
    rw [htext]
    exact (hlibrary.optionalText hn).map (base.put .address)
  case driver | server | schema | protocolVersion =>
    obtain rfl := Option.some.inj h
    exact (hlibrary.text hn).map _
  case port =>
    obtain rfl := Option.some.inj h
    have hsize : c.port.toUInt64.toNat < UInt16.size := c.port.toNat_lt
    have hread := (hlibrary.number hn hsize).map fun k => base.put .port (UInt16.ofNat k)
    rwa [UInt16.toNat_toUInt64, UInt16.ofNat_toNat] at hread
  case pageSize =>
    obtain rfl := Option.some.inj h
    have hsize : c.pageSize.toUInt64.toNat < UInt32.size := c.pageSize.toNat_lt
    have hread := (hlibrary.number hn hsize).map fun k => base.put .pageSize (UInt32.ofNat k)
    rwa [UInt32.toNat_toUInt64, UInt32.ofNat_toNat] at hread
  case loginTimeout =>
    obtain rfl := Option.some.inj h
    have hsize : c.loginTimeout.toNat < UInt64.size := c.loginTimeout.toNat_lt
    have hread := (hlibrary.number hn hsize).map fun k => base.put .loginTimeout (UInt64.ofNat k)
    rwa [UInt64.ofNat_toNat] at hread
  case distributedJoins | enforceJoinOrder | replicatedOnly | collocated | lazy =>
    obtain rfl := Option.some.inj h
    exact (hlibrary.flag hn).map _

/-- A field that was not given before is set, and the fields behind it follow. -/
theorem gives_setPairs_cons {f : Field} {v : Value} (h : c.value? f = some v)
    {given : List Field} (hfree : f ∉ given) {key n : Library.Node}
    (hkey : Stands key (.text f.name)) (hn : Stands n v) {base result : Configuration}
    {rest : List (Library.Node × Library.Node)}
    (hrest : Gives (setPairs (base.put f (c.get f)) (f :: given) rest) result) :
    Gives (setPairs base given ((key, n) :: rest)) result := by
  have hname : Field.ofName? f.name = some f := by cases f <;> decide
  have hcontains : given.contains f = false :=
    Bool.eq_false_iff.2 fun h => hfree (List.contains_iff_mem.1 h)
  rw [setPairs]
  refine (hlibrary.text hkey).bind ?_
  rw [hname]
  dsimp only
  rw [hcontains, if_neg Bool.false_ne_true]
  exact (gives_setNode hlibrary h hn base).bind hrest

/-- **Runs.**  Fields that were not given before are read back, one after the other. -/
theorem gives_setPairs {fs : List Field} (hnodup : fs.Nodup)
    {given : List Field} (hfree : ∀ f ∈ fs, f ∉ given) {base : Configuration}
    (hbase : ∀ f ∈ fs, base.get f = ({} : Configuration).get f)
    {nodes : List (Library.Node × Library.Node)}
    (hnodes : List.Forall₂ (Library.PairStands Stands) nodes (c.fieldValues fs)) :
    Gives (setPairs base given nodes) (fs.foldl (fun base f => base.put f (c.get f)) base) := by
  induction fs generalizing given base nodes with
  | nil =>
    obtain rfl := List.forall₂_nil_right_iff.1 hnodes
    exact gives_pure base
  | cons f fs ih =>
    obtain ⟨hf, hnodup⟩ := List.nodup_cons.1 hnodup
    rw [List.forall_mem_cons] at hfree hbase
    rw [List.foldl_cons]
    cases hvalue : c.value? f with
    | none =>
      -- the default is there already
      have hput : base.put f (c.get f) = base := by
        rw [get_of_value?_none hvalue, ← hbase.1, put_get_self]
      rw [fieldValues_of_none hvalue] at hnodes
      rw [hput]
      exact ih hnodup hfree.2 hbase.2 hnodes
    | some v =>
      rw [fieldValues_of_some hvalue] at hnodes
      obtain ⟨⟨key, n⟩, rest, ⟨hkey, hn⟩, hrest, rfl⟩ := List.forall₂_cons_right_iff.1 hnodes
      refine gives_setPairs_cons hlibrary hvalue hfree.1 hkey hn (ih hnodup ?_ ?_ hrest)
      · intro g hg hmem
        obtain rfl | hmem := List.mem_cons.1 hmem
        · exact hf hg
        · exact hfree.2 g hg hmem
      · intro g hg
        have hne : g ≠ f := fun heq => hf (heq ▸ hg)
        rw [get_put_of_ne base hne]
        exact hbase.2 g hg

/-- **Configurations.**  A configuration is read back from a node that stands for it. -/
theorem gives_ofNode {n : Library.Node} (hn : Stands n c.value) : Gives (ofNode n) c := by
  obtain ⟨nodes, hpairs, hnodes⟩ := hlibrary.pairs hn
  have hread : Gives (setPairs {} [] nodes) _ :=
    gives_setPairs hlibrary (by decide) (fun f _ => List.not_mem_nil) (fun f _ => rfl) hnodes
  rw [foldl_put] at hread
  exact hpairs.bind hread

end Configuration

namespace Registry

/-- **Entries.**  The entries of a registry are read back. -/
theorem gives_mapM_entryOf {entries : List (String × Configuration)}
    {nodes : List (Library.Node × Library.Node)}
    (hnodes : List.Forall₂ (Library.PairStands Stands) nodes
      (entries.map fun e => (e.1, e.2.value))) :
    Gives (nodes.mapM entryOf) entries := by
  induction entries generalizing nodes with
  | nil =>
    obtain rfl := List.forall₂_nil_right_iff.1 hnodes
    exact gives_pure []
  | cons e entries ih =>
    rw [List.map_cons] at hnodes
    obtain ⟨⟨key, n⟩, rest, ⟨hkey, hn⟩, hrest, rfl⟩ := List.forall₂_cons_right_iff.1 hnodes
    have hentry : Gives (entryOf (key, n)) e :=
      (hlibrary.text hkey).bind ((Configuration.gives_ofNode hlibrary hn).bind (gives_pure e))
    rw [List.mapM_cons]
    exact hentry.bind ((ih hrest).bind (gives_pure _))

/-- The text of a registry of visible names and texts is read as the registry. -/
theorem ofText_text {r : Registry}
    (h : ∀ e ∈ r.entries, VisibleText e.1 ∧ ∀ text ∈ e.2.texts, VisibleText text) :
    ofText r.text = .ok r := by
  obtain ⟨root, state, hload, hroot⟩ := hlibrary.load_write _ (visible_value h)
  obtain ⟨nodes, hpairs, hnodes⟩ := hlibrary.pairs hroot
  have hread : (entriesOf root).run' state = .ok r.entries :=
    (hpairs.bind (gives_mapM_entryOf hlibrary hnodes)).run' state
  have htext : Library.load r.text = .ok (root, state) := hload
  unfold ofText
  simp only [htext, hread, bind, Except.bind, ofList_entries]
  rfl

end Registry

end

namespace Registry

/-- **Files.**  A registry that data sources of visible names and texts were inserted into is read
back from the file that it is written to, by a library that reads back what it has written: the same
names in the same order, each with the same configuration. -/
theorem ofFile_text [Library] {Stands : Library.Node → Value → Prop}
    (hlibrary : Library.ReadsBack Stands) (path : String) {history : List (String × Configuration)}
    (h : ∀ e ∈ history, VisibleText e.1 ∧ ∀ text ∈ e.2.texts, VisibleText text) :
    ofFile path (.ok (Bytes.utf8 (inserted history).text)) = .ok (inserted history) := by
  have hentries : ∀ e ∈ (inserted history).entries,
      VisibleText e.1 ∧ ∀ text ∈ e.2.texts, VisibleText text := by
    rintro ⟨name, c⟩ he
    obtain ⟨front, behind, rfl, -⟩ := mem_inserted.1 he
    exact h (name, c) (by simp)
  rw [ofFile, Bytes.ofUtf8?_utf8]
  dsimp only
  rw [ofText_text hlibrary hentries]

/-- Texts that look like values of other types, and a page size that no connection string sets, with
the built-in library. -/
theorem ofFile_text_lookalikes :
    let history : List (String × Configuration) :=
      [("true", { schema := "123", server := "~", driver := "", pageSize := 0 }),
        ("a: #b", { dsn := some "null", address := some "", protocolVersion := "0x1F" })]
    (Library.ReadsBack fun (n : Node) value => n = value.toNode) ∧
      (∀ e ∈ history, VisibleText e.1 ∧ ∀ text ∈ e.2.texts, VisibleText text) ∧
      ofFile "data.yaml" (.ok (Bytes.utf8 (inserted history).text)) = .ok (inserted history) :=
  ⟨readsBack, by decide +kernel, ofFile_text readsBack "data.yaml" (by decide +kernel)⟩

end Registry

end SqlSession
