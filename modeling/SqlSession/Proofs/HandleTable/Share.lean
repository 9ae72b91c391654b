import Mathlib.Data.List.Basic
import SqlSession.Proofs.HandleTable.Freed
/-!
# The share of a session

What a table holds for a session is its share: its entry and the statements it created.  A change
of the share (`Change`) gives every entry of it a new value or drops it, and no statement another
creator.

    changes of different sessions commute               (Change.apply_comm)
    a change of one session leaves the others' shares   (Change.share_apply_other)
    the share after a change  =  the share, changed     (Change.share_apply)
-/

namespace SqlSession

namespace HandleTable

/-! ## Changes of some entries -/

section

variable {κ ν : Type} {mine yours : κ × ν → Bool} {f g : κ → ν → Option ν} {es : List (κ × ν)}

/-- Changes an entry that is picked; without a new value it is dropped. -/
def amendEntry (mine : κ × ν → Bool) (f : κ → ν → Option ν) (e : κ × ν) : Option (κ × ν) :=
  if mine e then (f e.1 e.2).map (Prod.mk e.1) else some e

/-- Changes the entries that are picked. -/
def amend (mine : κ × ν → Bool) (f : κ → ν → Option ν) (es : List (κ × ν)) : List (κ × ν) :=
  es.filterMap (amendEntry mine f)

/-- A picked entry stays picked when it is changed. -/
def Stays (mine : κ × ν → Bool) (f : κ → ν → Option ν) : Prop :=
  ∀ k v v', mine (k, v) = true → f k v = some v' → mine (k, v') = true

/-- No entry is picked by both. -/
def Apart (mine yours : κ × ν → Bool) : Prop := ∀ e, mine e = false ∨ yours e = false

theorem Apart.symm (h : Apart mine yours) : Apart yours mine := fun e => (h e).symm

theorem Apart.not_yours (h : Apart mine yours) {e : κ × ν} (hm : mine e = true) :
    yours e = false := by
  obtain hother | hother := h e
  · rw [hm] at hother
    cases hother
  · exact hother

theorem amendEntry_of_not {e : κ × ν} (h : mine e = false) : amendEntry mine f e = some e := by
  unfold amendEntry
  rw [h]
  rfl

theorem amendEntry_eq_some {e e' : κ × ν} (h : amendEntry mine f e = some e') :
    e'.1 = e.1 ∧ (e' = e ∨ mine e = true ∧ f e.1 e.2 = some e'.2) := by
  unfold amendEntry at h
  by_cases hmine : mine e = true
  · rw [if_pos hmine] at h
    obtain ⟨v, hf, rfl⟩ := Option.map_eq_some_iff.1 h
    exact ⟨rfl, .inr ⟨hmine, hf⟩⟩
  · rw [if_neg hmine, Option.some.injEq] at h
    exact ⟨congrArg Prod.fst h.symm, .inl h.symm⟩

theorem Stays.amendEntry (hf : Stays mine f) {e e' : κ × ν} (h : amendEntry mine f e = some e') :
    mine e' = mine e := by
  obtain ⟨hkey, rfl | ⟨hmine, hvalue⟩⟩ := amendEntry_eq_some h
  · rfl
  · rw [hmine, ← hf e.1 e.2 e'.2 hmine hvalue, ← hkey]

/-- What becomes of a picked entry is not picked by others. -/
theorem bind_amendEntry (hapart : Apart mine yours) (hf : Stays mine f)
    {e : κ × ν} (h : mine e = true) :
    (amendEntry mine f e).bind (amendEntry yours g) = amendEntry mine f e := by
  cases hnew : amendEntry mine f e with
  | none => rfl
  | some e' =>
    have hstays : mine e' = true := (hf.amendEntry hnew).trans h
    exact amendEntry_of_not (hapart.not_yours hstays)

/-- Changes of different entries commute. -/
theorem amend_comm (hapart : Apart mine yours) (hf : Stays mine f)
    (hg : Stays yours g) :
    amend yours g (amend mine f es) = amend mine f (amend yours g es) := by
  unfold amend
  rw [List.filterMap_filterMap, List.filterMap_filterMap]
  congr 1
  -- entry by entry: one of the two changes picks it, or neither does
  funext e
  cases hm : mine e with
  | true =>
    rw [bind_amendEntry hapart hf hm, amendEntry_of_not (hapart.not_yours hm)]
    rfl
  | false =>
    rw [amendEntry_of_not hm]
    show amendEntry yours g e = (amendEntry yours g e).bind (amendEntry mine f)
    cases hy : yours e with
    | true => rw [bind_amendEntry hapart.symm hg hy]
    | false =>
      rw [amendEntry_of_not hy]
      exact (amendEntry_of_not hm).symm

/-- The picked entries of a changed list are the picked entries, changed. -/
theorem filter_amend (hf : Stays mine f) :
    (amend mine f es).filter mine = amend mine f (es.filter mine) := by
  unfold amend
  rw [List.filter_filterMap, List.filterMap_filter]
  congr 1
  funext e
  cases hm : mine e with
  | true =>
    cases hnew : amendEntry mine f e with
    | none => rfl
    | some e' => simp [hf.amendEntry hnew, hm]
  | false =>
    rw [amendEntry_of_not hm, Option.filter_some, hm]

/-- Others' entries of a changed list are as they were. -/
theorem filter_amend_other (hapart : Apart mine yours) (hf : Stays mine f) :
    (amend mine f es).filter yours = es.filter yours := by
  unfold amend
  rw [List.filter_filterMap, ← List.filterMap_eq_filter]
  congr 1
  funext e
  cases hm : mine e with
  | true =>
    have hy := hapart.not_yours hm
    cases hnew : amendEntry mine f e with
    | none => simp [Option.guard, hy]
    | some e' =>
      have hy' := hapart.not_yours ((hf.amendEntry hnew).trans hm)
      simp [Option.guard, hy, hy']
  | false =>
    rw [amendEntry_of_not hm, Option.filter_some]
    rfl

/-! ## The changes of a table -/

/-- No entry is changed. -/
def keep : κ → ν → Option ν := fun _ v => some v

/-- All entries are dropped. -/
def dropAll : κ → ν → Option ν := fun _ _ => none

variable [DecidableEq κ]

/-- The entry of a key is set. -/
def put (key : κ) (value : ν) : κ → ν → Option ν := fun k v => some (if k = key then value else v)

/-- The entry of a key is dropped. -/
def drop (key : κ) : κ → ν → Option ν := fun k v => if k = key then none else some v

omit [DecidableEq κ] in
theorem amend_keep : amend mine keep es = es := by
  unfold amend
  refine (List.filterMap_congr fun e _ => ?_).trans (List.filterMap_some (l := es))
  simp [amendEntry, keep]

omit [DecidableEq κ] in
theorem amend_dropAll : amend mine dropAll es = es.filter fun e => !mine e := by
  unfold amend
  rw [← List.filterMap_eq_filter]
  refine List.filterMap_congr fun e _ => ?_
  cases hm : mine e with
  | true => simp [amendEntry, dropAll, Option.guard, hm]
  | false => simp [amendEntry, Option.guard, hm]

theorem amend_put {key : κ} (value : ν) (hown : ∀ e ∈ es, e.1 = key → mine e = true) :
    amend mine (put key value) es = replace key value es := by
  unfold amend replace
  rw [← List.filterMap_eq_map]
  refine List.filterMap_congr fun e he => ?_
  by_cases hkey : e.1 = key
  · simp [amendEntry, put, hown e he hkey, hkey]
  · simp [amendEntry, put, hkey]

theorem amend_drop {key : κ} (hown : ∀ e ∈ es, e.1 = key → mine e = true) :
    amend mine (drop key) es = remove key es := by
  unfold amend remove
  rw [← List.filterMap_eq_filter]
  refine List.filterMap_congr fun e he => ?_
  by_cases hkey : e.1 = key
  · simp [amendEntry, drop, hown e he hkey, hkey, Option.guard]
  · simp [amendEntry, drop, hkey, Option.guard]

/-- A key whose entries are all picked is found among those. -/
theorem find?_filter_own {key : κ} (hown : ∀ e ∈ es, e.1 = key → mine e = true) :
    find? key (es.filter mine) = find? key es := by
  induction es with
  | nil => rfl
  | cons e es ih =>
    have htail := ih fun e' he' => hown e' (List.mem_cons_of_mem e he')
    rw [List.filter_cons, find?_cons]
    by_cases hkey : e.1 = key
    · rw [if_pos (hown e List.mem_cons_self hkey), find?_cons, if_pos hkey, if_pos hkey]
    · rw [if_neg hkey]
      cases hm : mine e with
      | true => rw [if_pos rfl, find?_cons, if_neg hkey, htail]
      | false => exact htail

end

/-! ## Shares -/

section

variable {τ : Type} {a b : SessionHandle} {k : StatementHandle} {t t' : HandleTable τ}

/-- Whether an entry is that of a session. -/
def ofSession (a : SessionHandle) (e : SessionHandle × Session τ) : Bool := decide (e.1 = a)

/-- Whether a statement was created by a session. -/
def ofCreator (a : SessionHandle) (e : StatementHandle × Statement) : Bool :=
  decide (e.2.creator = a)

/-- What a table holds for a session: its entry, and the statements it created. -/
def share (t : HandleTable τ) (a : SessionHandle) :
    List (SessionHandle × Session τ) × List (StatementHandle × Statement) :=
  (t.sessions.filter (ofSession a), t.createdBy a)

theorem ofSession_apart (hab : a ≠ b) :
    Apart (ofSession a) (ofSession b : SessionHandle × Session τ → Bool) := by
  intro e
  by_cases ha : e.1 = a
  · right
    exact decide_eq_false fun hb => hab (ha.symm.trans hb)
  · exact .inl (decide_eq_false ha)

theorem ofCreator_apart (hab : a ≠ b) : Apart (ofCreator a) (ofCreator b) := by
  intro e
  by_cases ha : e.2.creator = a
  · right
    exact decide_eq_false fun hb => hab (ha.symm.trans hb)
  · exact .inl (decide_eq_false ha)

theorem ofSession_of_key (t : HandleTable τ) (a : SessionHandle) :
    ∀ e ∈ t.sessions, e.1 = a → ofSession a e = true :=
  fun _ _ hkey => decide_eq_true hkey

theorem ofCreator_of_key (hk : ∀ st, (k, st) ∈ t.statements → st.creator = a) :
    ∀ e ∈ t.statements, e.1 = k → ofCreator a e = true := by
  intro e he hkey
  exact decide_eq_true (hk e.2 (hkey ▸ he))

/-- The entry of a session is in its share. -/
theorem find?_of_share (h : t'.share a = t.share a) :
    find? a t'.sessions = find? a t.sessions := by
  rw [← find?_filter_own (ofSession_of_key t' a), ← find?_filter_own (ofSession_of_key t a)]
  exact congrArg (fun p => find? a p.1) h

/-- A statement that is only stored for a session is in its share. -/
theorem find?_statement_of_share (h : t'.share a = t.share a)
    (hk : ∀ st, (k, st) ∈ t.statements → st.creator = a)
    (hk' : ∀ st, (k, st) ∈ t'.statements → st.creator = a) :
    find? k t'.statements = find? k t.statements := by
  rw [← find?_filter_own (ofCreator_of_key hk'), ← find?_filter_own (ofCreator_of_key hk)]
  exact congrArg (fun p => find? k p.2) h

/-- A change of the share of a session.  Statements stay with the session that created them. -/
structure Change (τ : Type) (a : SessionHandle) where
  sessions : SessionHandle → Session τ → Option (Session τ) := keep
  statements : StatementHandle → Statement → Option Statement := keep
  creator : ∀ k st st', st.creator = a → statements k st = some st' → st'.creator = a

namespace Change

/-- Makes a change. -/
def apply (c : Change τ a) (t : HandleTable τ) : HandleTable τ :=
  { t with
    sessions := amend (ofSession a) c.sessions t.sessions
    statements := amend (ofCreator a) c.statements t.statements }

theorem stays_sessions (c : Change τ a) : Stays (ofSession a) c.sessions :=
  fun _ _ _ hown _ => hown

theorem stays_statements (c : Change τ a) : Stays (ofCreator a) c.statements :=
  fun k st st' hown hnew => decide_eq_true (c.creator k st st' (of_decide_eq_true hown) hnew)

/-- **Changes.**  Those of different sessions commute. -/
theorem apply_comm (hab : a ≠ b) (c : Change τ a) (d : Change τ b) (t : HandleTable τ) :
    d.apply (c.apply t) = c.apply (d.apply t) := by
  unfold apply
  dsimp only
  rw [amend_comm (ofSession_apart hab) c.stays_sessions d.stays_sessions,
    amend_comm (ofCreator_apart hab) c.stays_statements d.stays_statements]

/-- The share after a change is a function of the share. -/
theorem share_apply (c : Change τ a) (h : t'.share a = t.share a) :
    (c.apply t').share a = (c.apply t).share a := by
  have hshare : ∀ u : HandleTable τ, (c.apply u).share a =
      (amend (ofSession a) c.sessions (u.share a).1,
        amend (ofCreator a) c.statements (u.share a).2) := by
    intro u
    exact Prod.ext (filter_amend c.stays_sessions) (filter_amend c.stays_statements)
  rw [hshare, hshare, h]

/-- Other shares stay. -/
theorem share_apply_other (hab : a ≠ b) (c : Change τ a) (t : HandleTable τ) :
    (c.apply t).share b = t.share b :=
  Prod.ext (filter_amend_other (ofSession_apart hab) c.stays_sessions)
    (filter_amend_other (ofCreator_apart hab) c.stays_statements)

/-- No statement gets another creator. -/
theorem mem_statements_apply (c : Change τ a) {k : StatementHandle} {st : Statement}
    (h : (k, st) ∈ (c.apply t).statements) :
    ∃ st', (k, st') ∈ t.statements ∧ st'.creator = st.creator := by
  obtain ⟨⟨k', st'⟩, hmem, hnew⟩ := List.mem_filterMap.1 h
  obtain ⟨hkey, hsame | ⟨hown, hvalue⟩⟩ := amendEntry_eq_some hnew
  · cases hsame
    exact ⟨st, hmem, rfl⟩
  · obtain rfl : k = k' := hkey
    have howner : st'.creator = a := of_decide_eq_true hown
    exact ⟨st', hmem, howner.trans (c.creator k st' st howner hvalue).symm⟩

theorem creator_keep (k : StatementHandle) (st st' : Statement) (h : st.creator = a)
    (hnew : keep k st = some st') : st'.creator = a :=
  Option.some.inj hnew ▸ h

theorem creator_dropAll (k : StatementHandle) (st st' : Statement) (_ : st.creator = a)
    (hnew : dropAll k st = some st') : st'.creator = a := by
  cases hnew

theorem creator_drop (key : StatementHandle) (k : StatementHandle) (st st' : Statement)
    (h : st.creator = a) (hnew : drop key k st = some st') : st'.creator = a := by
  unfold drop at hnew
  by_cases hkey : k = key
  · rw [if_pos hkey] at hnew
    cases hnew
  · rw [if_neg hkey] at hnew
    exact Option.some.inj hnew ▸ h

theorem creator_put (key : StatementHandle) {value : Statement} (hvalue : value.creator = a)
    (k : StatementHandle) (st st' : Statement) (h : st.creator = a)
    (hnew : put key value k st = some st') : st'.creator = a := by
  unfold put at hnew
  rw [Option.some.injEq] at hnew
  by_cases hkey : k = key
  · rwa [← hnew, if_pos hkey]
  · rwa [← hnew, if_neg hkey]

/-- The change of an operation that is refused. -/
def none : Change τ a where
  creator := creator_keep

theorem apply_none (t : HandleTable τ) : (none : Change τ a).apply t = t := by
  unfold apply none
  dsimp only
  rw [amend_keep, amend_keep]

end Change

end

end HandleTable

end SqlSession
