import Mathlib.Data.List.Dedup
import Mathlib.Data.List.Induction
import SqlSession.Proofs.Registry.Layers
import SqlSession.Proofs.Text.Order
/-!
# Lookup after insertions

A registry that data sources were inserted into, one after the other, is a map in which letter case
hardly counts.  For a name that is looked up, the first line that applies decides:

    it was inserted                    →  what was inserted under it last
    it was, but in other letter case   →  what was inserted last under the least of those names
    it was not                         →  nothing

Names are compared by the bytes of their UTF-8 forms.

* `Picks`, `LastUnder`: the name the table picks, and the last insertion under a name.
* `mem_insert`: what one insertion does to the entries.
* `mem_inserted`: what all of them come to.
* `lookup_inserted`: the table, and the names that are listed.
-/

namespace SqlSession.Registry

open Text

/-- A name that is looked up picks one of some names: itself, or else the least one that differs in
letter case only. -/
def Picks (names : List String) (looked name : String) : Prop :=
  name ∈ names ∧ (name = looked ∨ looked ∉ names ∧ sameLetters name looked = true ∧
    ∀ other ∈ names, sameLetters other looked = true →
      other = name ∨ Bytes.utf8 name < Bytes.utf8 other)

/-- What was inserted under a name last. -/
def LastUnder (name : String) (c : Configuration) (history : List (String × Configuration)) :
    Prop :=
  ∃ front behind, history = front ++ (name, c) :: behind ∧ ∀ e ∈ behind, e.1 ≠ name

/-- The registry that data sources were inserted into, from the front on. -/
def inserted (history : List (String × Configuration)) : Registry :=
  history.foldl (fun r e => r.insert e.1 e.2) empty

/-! ## Ascending lists -/

section

variable {α : Type} {p : α → Bool} {l : List α}

theorem takeWhile_eq_filter (h : l.Pairwise fun a b => p b = true → p a = true) :
    l.takeWhile p = l.filter p := by
  induction l with
  | nil => rfl
  | cons a l ih =>
    obtain ⟨ha, hl⟩ := List.pairwise_cons.1 h
    by_cases hp : p a = true
    · rw [List.takeWhile_cons_of_pos hp, List.filter_cons_of_pos hp, ih hl]
    · have hnone : l.filter p = [] := List.filter_eq_nil_iff.2 fun b hb hpb => hp (ha b hb hpb)
      rw [List.takeWhile_cons_of_neg hp, List.filter_cons_of_neg hp, hnone]

theorem dropWhile_eq_filter (h : l.Pairwise fun a b => p b = true → p a = true) :
    l.dropWhile p = l.filter fun a => !p a := by
  induction l with
  | nil => rfl
  | cons a l ih =>
    obtain ⟨ha, hl⟩ := List.pairwise_cons.1 h
    by_cases hp : p a = true
    · rw [List.dropWhile_cons_of_pos hp, List.filter_cons_of_neg (by simp [hp]), ih hl]
    · have hall : ∀ b ∈ l, (!p b) = true := by
        intro b hb
        rw [Bool.not_eq_true']
        exact Bool.eq_false_iff.2 fun hpb => hp (ha b hb hpb)
      rw [List.dropWhile_cons_of_neg hp, List.filter_cons_of_pos (by simp [hp]),
        List.filter_eq_self.2 hall]

/-- In a list in strictly ascending order, what is found first is the least that there is. -/
theorem find?_eq_some_iff_of_pairwise {lt : α → α → Prop} (hasymm : ∀ a b, lt a b → ¬ lt b a)
    (h : l.Pairwise lt) (a : α) :
    l.find? p = some a ↔ a ∈ l ∧ p a = true ∧ ∀ b ∈ l, p b = true → b = a ∨ lt a b := by
  rw [List.find?_eq_some_iff_append]
  constructor
  · rintro ⟨hp, front, behind, rfl, hfront⟩
    refine ⟨by simp, hp, fun b hb hpb => ?_⟩
    rcases List.mem_append.1 hb with hb | hb
    · have hnot := hfront b hb
      simp [hpb] at hnot
    · rcases List.mem_cons.1 hb with rfl | hb
      · exact .inl rfl
      · exact .inr (List.rel_of_pairwise_cons (List.pairwise_append.1 h).2.1 hb)
  · rintro ⟨ha, hp, hleast⟩
    obtain ⟨front, behind, rfl⟩ := List.append_of_mem ha
    refine ⟨hp, front, behind, rfl, fun b hb => ?_⟩
    have hlt : lt b a := (List.pairwise_append.1 h).2.2 b hb a List.mem_cons_self
    rw [Bool.not_eq_true']
    refine Bool.eq_false_iff.2 fun hpb => ?_
    rcases hleast b (List.mem_append_left _ hb) hpb with rfl | hgt
    · exact hasymm _ _ hlt hlt
    · exact hasymm _ _ hlt hgt

end

/-! ## One insertion -/

variable {r : Registry}

/-- An insertion keeps the smaller names in front of it and the larger ones behind it. -/
theorem entries_insert (r : Registry) (name : String) (c : Configuration) :
    (r.insert name c).entries = r.entries.filter (fun e => e.1 < name) ++
      (name, c) :: r.entries.filter fun e => name < e.1 := by
  have hfront : r.entries.takeWhile (fun e => e.1 < name) =
      r.entries.filter fun e => e.1 < name := by
    refine takeWhile_eq_filter (r.ascending.imp fun {a b} hab hb => ?_)
    rw [decide_eq_true_iff] at hb ⊢
    exact hab.trans hb
  have hbehind : (r.entries.dropWhile fun e => !decide (name < e.1)) =
      r.entries.filter fun e => name < e.1 := by
    rw [dropWhile_eq_filter]
    · simp only [Bool.not_not]
    · refine r.ascending.imp fun {a b} hab hb => ?_
      rw [Bool.not_eq_true', decide_eq_false_iff_not] at hb ⊢
      exact fun ha => hb (ha.trans hab)
  show place name c r.entries = _
  rw [place, hfront, hbehind]

/-- **Steps.**  After an insertion, its entry is there, and all with other names. -/
theorem mem_insert {name : String} {c : Configuration} {e : String × Configuration} :
    e ∈ (r.insert name c).entries ↔ e = (name, c) ∨ e.1 ≠ name ∧ e ∈ r.entries := by
  rw [entries_insert]
  simp only [List.mem_append, List.mem_cons, List.mem_filter, decide_eq_true_eq, ne_iff_lt_or_gt]
  tauto

/-! ## All insertions -/

theorem inserted_append (history : List (String × Configuration)) (e : String × Configuration) :
    inserted (history ++ [e]) = (inserted history).insert e.1 e.2 := by
  unfold inserted
  rw [List.foldl_append]
  rfl

theorem lastUnder_append {name : String} {c : Configuration}
    {history : List (String × Configuration)} {e : String × Configuration} :
    LastUnder name c (history ++ [e]) ↔ (name, c) = e ∨ name ≠ e.1 ∧ LastUnder name c history := by
  constructor
  · rintro ⟨front, behind, heq, hbehind⟩
    rcases List.eq_nil_or_concat behind with rfl | ⟨behind, last, rfl⟩
    · obtain ⟨-, hlast⟩ := List.append_inj' heq rfl
      exact .inl (List.cons.inj hlast).1.symm
    · rw [List.concat_eq_append, ← List.cons_append, ← List.append_assoc] at heq
      obtain ⟨rfl, hlast⟩ := List.append_inj' heq rfl
      obtain rfl := (List.cons.inj hlast).1
      refine .inr ⟨(hbehind e (by simp)).symm, front, behind, rfl, fun e' he' => ?_⟩
      exact hbehind e' (by simp [he'])
  · rintro (rfl | ⟨hne, front, behind, rfl, hbehind⟩)
    · exact ⟨history, [], rfl, by simp⟩
    · refine ⟨front, behind ++ [e], by simp, fun e' he' => ?_⟩
      rcases List.mem_append.1 he' with he' | he'
      · exact hbehind e' he'
      · rw [List.mem_singleton.1 he']
        exact hne.symm

/-- **Runs.**  The entries are the last insertions under their names. -/
theorem mem_inserted {history : List (String × Configuration)} {name : String}
    {c : Configuration} : (name, c) ∈ (inserted history).entries ↔ LastUnder name c history := by
  induction history using List.reverseRecOn with
  | nil => simp [inserted, empty, LastUnder]
  | append_singleton history e ih =>
    rw [inserted_append, mem_insert, lastUnder_append, ih]

/-- A name is listed exactly if it was inserted. -/
theorem mem_names_inserted {history : List (String × Configuration)} {name : String} :
    name ∈ (inserted history).names ↔ name ∈ history.map (·.1) := by
  induction history using List.reverseRecOn with
  | nil => simp [inserted, empty, names]
  | append_singleton history e ih =>
    have hnames : name ∈ ((inserted history).insert e.1 e.2).names ↔
        name = e.1 ∨ name ∈ (inserted history).names := by
      simp only [names, List.mem_map, mem_insert]
      constructor
      · rintro ⟨e', rfl | ⟨-, he'⟩, rfl⟩
        · exact .inl rfl
        · exact .inr ⟨e', he', rfl⟩
      · rintro (rfl | ⟨e', he', rfl⟩)
        · exact ⟨e, .inl rfl, rfl⟩
        · by_cases heq : e'.1 = e.1
          · exact ⟨e, .inl rfl, heq.symm⟩
          · exact ⟨e', .inr ⟨heq, he'⟩, rfl⟩
    rw [inserted_append, hnames, ih, List.map_append, List.mem_append, or_comm]
    simp

/-! ## Lookup -/

theorem names_ascending (r : Registry) : r.names.Pairwise (· < ·) := List.pairwise_map.2 r.ascending

theorem nodup_names (r : Registry) : r.names.Nodup := r.names_ascending.imp ne_of_lt

/-- A name that is not there refers to the first entry with the same letters. -/
theorem entry?_of_not_mem_names {looked : String} (h : looked ∉ r.names) :
    r.entry? looked = r.entries.find? fun e => sameLetters e.1 looked := by
  have hnone : (r.entries.find? fun e => e.1 == looked) = none := by
    rw [List.find?_eq_none]
    intro e he heq
    exact h (List.mem_map.2 ⟨e, he, by simpa using heq⟩)
  unfold entry?
  rw [hnone]

/-- The entry a name refers to is the one with the name it picks. -/
theorem entry?_eq_some_iff (r : Registry) (looked : String) (e : String × Configuration) :
    r.entry? looked = some e ↔ e ∈ r.entries ∧ Picks r.names looked e.1 := by
  have hunique {a b : String × Configuration} (ha : a ∈ r.entries) (hb : b ∈ r.entries)
      (hab : a.1 = b.1) : a = b := List.inj_on_of_nodup_map r.nodup_names ha hb hab
  by_cases hlooked : looked ∈ r.names
  · obtain ⟨c, hc, hentry⟩ := entry?_of_mem_names hlooked
    rw [hentry, Option.some.injEq]
    constructor
    · rintro rfl
      exact ⟨hc, hlooked, .inl rfl⟩
    · rintro ⟨he, -, heq | ⟨hnot, -⟩⟩
      · exact hunique hc he heq.symm
      · exact absurd hlooked hnot
  · rw [entry?_of_not_mem_names hlooked,
      find?_eq_some_iff_of_pairwise (fun a b => lt_asymm) r.ascending]
    constructor
    · rintro ⟨he, hsame, hleast⟩
      refine ⟨he, List.mem_map_of_mem he, .inr ⟨hlooked, hsame, fun other hother hletters => ?_⟩⟩
      obtain ⟨e', he', rfl⟩ := List.mem_map.1 hother
      rcases hleast e' he' hletters with rfl | hlt
      · exact .inl rfl
      · exact .inr (Bytes.utf8_lt_utf8_iff.2 hlt)
    · rintro ⟨he, hname, rfl | ⟨-, hsame, hleast⟩⟩
      · exact absurd hname hlooked
      · refine ⟨he, hsame, fun e' he' hletters => ?_⟩
        rcases hleast e'.1 (List.mem_map_of_mem he') hletters with heq | hlt
        · exact .inl (hunique he' he heq)
        · exact .inr (Bytes.utf8_lt_utf8_iff.1 hlt)

theorem entry?_eq_none_iff (r : Registry) (looked : String) :
    r.entry? looked = none ↔ ∀ name ∈ r.names, sameLetters name looked = false := by
  by_cases hlooked : looked ∈ r.names
  · -- a name that is there as it stands has the same letters
    obtain ⟨c, -, hentry⟩ := entry?_of_mem_names hlooked
    have hsame : sameLetters looked looked = true := by simp [sameLetters]
    simp only [hentry, reduceCtorEq, false_iff]
    exact fun hnone => by simp [hnone looked hlooked] at hsame
  · rw [entry?_of_not_mem_names hlooked]
    simp [names]

theorem picks_congr {names names' : List String} (h : ∀ name, name ∈ names ↔ name ∈ names')
    (looked name : String) : Picks names looked name ↔ Picks names' looked name := by
  simp only [Picks, h]

/-- **Lookup.**  After insertions, a name that is looked up gives what was inserted last under the
name it picks, marked with that name, and nothing exactly if it was inserted in no letter case.  The
names that were inserted are listed once each, in ascending order. -/
theorem lookup_inserted (history : List (String × Configuration)) :
    (∀ looked c, (inserted history).get? looked = some c ↔
      ∃ name base, Picks (history.map (·.1)) looked name ∧ LastUnder name base history ∧
        c = { base with dsn := some name }) ∧
    (∀ looked, (inserted history).get? looked = none ↔
      ∀ name ∈ history.map (·.1), sameLetters name looked = false) ∧
    (inserted history).names.Pairwise (fun a b => Bytes.utf8 a < Bytes.utf8 b) ∧
    (inserted history).names.Nodup ∧
    (∀ name, name ∈ (inserted history).names ↔ name ∈ history.map (·.1)) ∧
    (inserted history).size = (inserted history).names.length ∧
    (inserted history).size = (history.map (·.1)).dedup.length := by
  have hnames (name : String) : name ∈ (inserted history).names ↔ name ∈ history.map (·.1) :=
    mem_names_inserted
  have hsize : (inserted history).size = (inserted history).names.length :=
    (List.length_map _).symm
  refine ⟨fun looked c => ?_, fun looked => ?_, ?_, (inserted history).nodup_names, hnames, hsize, ?_⟩
  · unfold get?
    simp only [Option.map_eq_some_iff, entry?_eq_some_iff, picks_congr hnames]
    constructor
    · rintro ⟨⟨name, base⟩, ⟨he, hpicks⟩, rfl⟩
      exact ⟨name, base, hpicks, mem_inserted.1 he, rfl⟩
    · rintro ⟨name, base, hpicks, hlast, rfl⟩
      exact ⟨(name, base), ⟨mem_inserted.2 hlast, hpicks⟩, rfl⟩
  · unfold get?
    simp only [Option.map_eq_none_iff, entry?_eq_none_iff, hnames]
  · exact (inserted history).names_ascending.imp Bytes.utf8_lt_utf8
  · have hperm : (inserted history).names.Perm (history.map (·.1)).dedup := by
      rw [List.perm_ext_iff_of_nodup (inserted history).nodup_names (List.nodup_dedup _)]
      intro name
      rw [hnames, List.mem_dedup]
    rw [hsize, hperm.length_eq]

/-- Capitals come first, and an overwritten configuration is gone. -/
example :
    let r := inserted [("prod", {}), ("Prod", { port := 1 }), ("prod", { port := 2 })]
    r.get? "PROD" = some { dsn := some "Prod", port := 1 } ∧
      r.get? "prod" = some { dsn := some "prod", port := 2 } ∧ r.get? "test" = none := by
  decide +kernel

end SqlSession.Registry
