import SqlSession.Proofs.HandleTable.Ownership
/-!
# Freed handles

Freeing a session drops its entry and those of the statements it created, and no others
(`Frees`).  A handle that was freed is spent (`Spent`): its number was drawn, and no entry has it.
No edit stores a spent number, so whatever is done later, every operation refuses the handle.

    freed  →  spent                        (spent_of_freeSession, spent_of_freeStatement)
    spent  →  spent after any edits        (spent_edits)
    in no entry  →  refused by operations  (refusesSession_of_gone, refusesStatement_of_gone)
-/

namespace SqlSession

variable {τ : Type}

namespace Operation

/-- The session handle that an operation is given. -/
def session? : Operation τ → Option SessionHandle
  | .createStatement h => some h
  | .newStatement h => some h
  | .call h _ => some h
  | .freeSession h => some h
  | _ => none

/-- The statement handle that an operation is given. -/
def statement? : Operation τ → Option StatementHandle
  | .exchange k _ => some k
  | .freeStatement k => some k
  | _ => none

end Operation

namespace HandleTable

/-- The statements that a session created. -/
def createdBy (t : HandleTable τ) (h : SessionHandle) : List (StatementHandle × Statement) :=
  t.statements.filter fun e => decide (e.2.creator = h)

section

variable {t t' : HandleTable τ} {n d : Nat} {h : SessionHandle} {k : StatementHandle}

/-! ## What is freed -/

/-- `t'` is `t` without a session and the statements it created. -/
structure Frees (t t' : HandleTable τ) (h : SessionHandle) : Prop where
  handles : t'.handles = t.handles
  session : t'.session h = .error (.invalidConnection h.id)
  sessions : ∀ h', h' ≠ h → t'.session h' = t.session h'
  statement : ∀ k st, t.statement k = .ok st → st.creator = h →
    t'.statement k = .error (.invalidStatement k.id)
  statements : ∀ k, (∀ st, t.statement k = .ok st → st.creator ≠ h) →
    t'.statement k = t.statement k
  sessionCount : t'.sessionCount + 1 = t.sessionCount
  statementCount : t'.statementCount + (t.createdBy h).length = t.statementCount

theorem session_congr (hfound : find? h t'.sessions = find? h t.sessions) :
    t'.session h = t.session h := by
  unfold session
  rw [hfound]

theorem statement_congr (hfound : find? k t'.statements = find? k t.statements) :
    t'.statement k = t.statement k := by
  unfold statement
  rw [hfound]

/-- The statements of a session and the others are all statements. -/
theorem length_kept (t : HandleTable τ) (h : SessionHandle) :
    (t.statements.filter fun e => decide (e.2.creator ≠ h)).length + (t.createdBy h).length =
      t.statements.length := by
  have hsplit := List.length_eq_countP_add_countP (l := t.statements)
    fun e => decide (e.2.creator = h)
  rw [List.countP_eq_length_filter, List.countP_eq_length_filter] at hsplit
  rw [hsplit, Nat.add_comm, createdBy]
  simp

/-! ## Spent handles -/

/-- One of the numbers drawn, and no entry has it. -/
structure Spent (t : HandleTable τ) (n : Nat) (id : UInt64) : Prop where
  drawn : id.toNat ≤ n
  gone : id ∉ t.ids

/-- **Steps.**  No edit stores a number that is spent. -/
theorem spent_edit {id : UInt64} (h : Edit t t' d) (hfew : n + d < UInt64.size)
    (hn : t.Numbered n) (hspent : t.Spent n id) : t'.Spent (n + d) id := by
  refine ⟨Nat.le_add_right_of_le hspent.drawn, fun hid => ?_⟩
  obtain hold | ⟨rfl, rfl⟩ := mem_ids_edit h hid
  · exact hspent.gone hold
  · have hnext := hn.toNat_next hfew
    have hle := hspent.drawn
    omega

theorem spent_edits {id : UInt64} (h : Edits t t' d) (hfew : n + d < UInt64.size)
    (hn : t.Numbered n) (hspent : t.Spent n id) : t'.Spent (n + d) id :=
  (kept_of_edits (P := fun t n => t.Spent n id) spent_edit h hfew hn hspent).1

theorem mem_ids_iff {id : UInt64} :
    id ∈ t.ids ↔ (∃ e ∈ t.sessions, e.1.id = id) ∨ ∃ e ∈ t.statements, e.1.id = id := by
  rw [ids, List.mem_append, List.mem_map, List.mem_map]

theorem mem_ids_of_session {s : Session τ} (hs : find? h t.sessions = some s) : h.id ∈ t.ids :=
  mem_ids_iff.2 (.inl ⟨(h, s), mem_of_find? hs, rfl⟩)

theorem mem_ids_of_statement {st : Statement} (hst : find? k t.statements = some st) :
    k.id ∈ t.ids :=
  mem_ids_iff.2 (.inr ⟨(k, st), mem_of_find? hst, rfl⟩)

/-- No session and no statement share a number. -/
theorem Tidy.id_ne (ht : t.Tidy) {e : SessionHandle × Session τ} {f : StatementHandle × Statement}
    (he : e ∈ t.sessions) (hf : f ∈ t.statements) : e.1.id ≠ f.1.id :=
  (List.nodup_append.1 ht.distinct).2.2 _ (List.mem_map_of_mem he) _ (List.mem_map_of_mem hf)

/-- Freeing a statement spends its number. -/
theorem spent_of_freeStatement (ht : t.Tidy) (hn : t.Numbered n) {st : Statement}
    (hst : t.statement k = .ok st) : (t.freeStatement k).2.Spent n k.id := by
  have hstored := statement_eq_ok_iff.1 hst
  rw [freeStatement_of_some hstored]
  refine ⟨(hn.drawn _ (mem_ids_of_statement hstored)).2, fun hid => ?_⟩
  obtain ⟨e, he, heq⟩ | ⟨f, hf, heq⟩ := mem_ids_iff.1 hid
  · exact ht.id_ne he (mem_of_find? hstored) heq
  · have hkey : f.1 = k := congrArg StatementHandle.mk heq
    exact of_decide_eq_true (List.mem_filter.1 hf).2 hkey

variable [Transport τ]

/-! ## Freeing a session -/

/-- Freeing a stored session removes it and its statements, and says how many these were. -/
theorem freeSession_of_stored (ht : t.Tidy) {s : Session τ} (hs : t.session h = .ok s) :
    (t.freeSession h).1 = .ok ((t.createdBy h).length, s.close.2.transport) ∧
      t.Frees (t.freeSession h).2 h := by
  have hfound := session_eq_ok_iff.1 hs
  have hlength := length_kept t h
  rw [freeSession_of_some hfound]
  constructor
  · rw [← hlength, Nat.add_sub_cancel_left]
  · refine
      { handles := rfl
        session := session_of_none ?_
        sessions := fun h' hne => session_congr ?_
        statement := fun k st hst hcreator => statement_of_none ?_
        statements := fun k hother => statement_congr ?_
        sessionCount := length_remove ht.unique_sessions hfound
        statementCount := hlength }
    · rw [find?_remove, if_pos rfl]
    · rw [find?_remove, if_neg hne]
    · rw [find?_filter ht.unique_statements, statement_eq_ok_iff.1 hst]
      simp [Option.filter, hcreator]
    · rw [find?_filter ht.unique_statements]
      cases hst : find? k t.statements with
      | none => rfl
      | some st => simp [Option.filter, hother st (statement_eq_ok_iff.2 hst)]

/-- Freeing a session spends its number. -/
theorem spent_of_freeSession (ht : t.Tidy) (hn : t.Numbered n) {s : Session τ}
    (hs : t.session h = .ok s) : (t.freeSession h).2.Spent n h.id := by
  have hfound := session_eq_ok_iff.1 hs
  rw [freeSession_of_some hfound]
  refine ⟨(hn.drawn _ (mem_ids_of_session hfound)).2, fun hid => ?_⟩
  -- the session's own entry is gone, and no statement ever had its number
  obtain ⟨e, he, heq⟩ | ⟨f, hf, heq⟩ := mem_ids_iff.1 hid
  · have hkey : e.1 = h := congrArg SessionHandle.mk heq
    exact of_decide_eq_true (List.mem_filter.1 he).2 hkey
  · exact ht.id_ne (mem_of_find? hfound) (List.mem_filter.1 hf).1 heq.symm

/-- Freeing a session spends the numbers of its statements. -/
theorem spent_of_freeSession_statement (ht : t.Tidy) (hn : t.Numbered n) {s : Session τ}
    (hs : t.session h = .ok s) {st : Statement} (hst : t.statement k = .ok st)
    (hcreator : st.creator = h) : (t.freeSession h).2.Spent n k.id := by
  have hstored := statement_eq_ok_iff.1 hst
  rw [freeSession_of_some (session_eq_ok_iff.1 hs)]
  refine ⟨(hn.drawn _ (mem_ids_of_statement hstored)).2, fun hid => ?_⟩
  -- the statement's own entry is gone, and no session ever had its number
  obtain ⟨e, he, heq⟩ | ⟨⟨k', st'⟩, hf, heq⟩ := mem_ids_iff.1 hid
  · exact ht.id_ne (List.mem_filter.1 he).1 (mem_of_find? hstored) heq
  · obtain rfl : k' = k := congrArg StatementHandle.mk heq
    obtain ⟨hf, hother⟩ := List.mem_filter.1 hf
    have hsame := (find?_eq_some_iff ht.unique_statements _ _).2 hf
    rw [hstored, Option.some.injEq] at hsame
    exact of_decide_eq_true hother (hsame ▸ hcreator)

/-! ## Refusal -/

/-- A session handle is refused, and every operation that is given it does nothing else. -/
def RefusesSession (t : HandleTable τ) (h : SessionHandle) : Prop :=
  t.session h = .error (.invalidConnection h.id) ∧
    ∀ op : Operation τ, op.session? = some h → op.apply t = (.error (.invalidConnection h.id), t)

/-- A statement handle is refused, and every operation that is given it does nothing else. -/
def RefusesStatement (t : HandleTable τ) (k : StatementHandle) : Prop :=
  t.statement k = .error (.invalidStatement k.id) ∧
    ∀ op : Operation τ, op.statement? = some k → op.apply t = (.error (.invalidStatement k.id), t)

theorem refusesSession_of_gone (hgone : h.id ∉ t.ids) : t.RefusesSession h := by
  have hs : find? h t.sessions = none := by
    refine (find?_eq_none_iff h).2 fun e he hkey => hgone ?_
    exact mem_ids_iff.2 (.inl ⟨e, he, congrArg SessionHandle.id hkey⟩)
  refine ⟨session_of_none hs, fun op hop => ?_⟩
  cases op with
  | createStatement h' =>
    obtain rfl : h' = h := Option.some.inj hop
    simp only [Operation.apply, createStatement_of_none hs, Except.map]
  | newStatement h' =>
    obtain rfl : h' = h := Option.some.inj hop
    simp only [Operation.apply, newStatement_of_none hs, Except.map]
  | call h' c =>
    obtain rfl : h' = h := Option.some.inj hop
    exact onSession_of_none c.run hs
  | freeSession h' =>
    obtain rfl : h' = h := Option.some.inj hop
    simp only [Operation.apply, freeSession_of_none hs, Except.map]
  | _ => cases hop

theorem refusesStatement_of_gone (hgone : k.id ∉ t.ids) : t.RefusesStatement k := by
  have hst : find? k t.statements = none := by
    refine (find?_eq_none_iff k).2 fun e he hkey => hgone ?_
    exact mem_ids_iff.2 (.inr ⟨e, he, congrArg StatementHandle.id hkey⟩)
  refine ⟨statement_of_none hst, fun op hop => ?_⟩
  cases op with
  | exchange k' request =>
    obtain rfl : k' = k := Option.some.inj hop
    simp only [Operation.apply, exchange_of_none request hst, Except.map]
  | freeStatement k' =>
    obtain rfl : k' = k := Option.some.inj hop
    simp only [Operation.apply, freeStatement_of_none hst, Except.map]
  | _ => cases hop

/-! ## Runs -/

theorem run_append_cons (t : HandleTable τ) (ops more : List (Operation τ)) (op : Operation τ) :
    t.run (ops ++ op :: more) = (op.apply (t.run ops)).2.run more := by
  rw [run, List.foldl_append]
  exact run_cons _ op more

/-- A number that an operation spends is gone for good. -/
theorem gone_of_spent (ops more : List (Operation τ)) (op : Operation τ) {id : UInt64}
    (hdraws : op.draws (({} : HandleTable τ).run ops) = 0)
    (hspent : (op.apply (({} : HandleTable τ).run ops)).2.Spent (({} : HandleTable τ).drawn ops) id)
    (hfew : ({} : HandleTable τ).drawn (ops ++ op :: more) < UInt64.size) :
    id ∉ (({} : HandleTable τ).run (ops ++ op :: more)).ids := by
  have hall : ({} : HandleTable τ).drawn (ops ++ op :: more) =
      ({} : HandleTable τ).drawn ops + (op.apply (({} : HandleTable τ).run ops)).2.drawn more := by
    rw [drawn_append, drawn, hdraws, Nat.zero_add]
  rw [hall] at hfew
  obtain ⟨ht, hn⟩ := tidy_of_run ops (by omega)
  have hn' := (tidy_edits (edits_apply op _) (by omega) hn ht).2
  rw [hdraws, Nat.add_zero] at hn'
  rw [run_append_cons]
  exact (spent_edits (edits_run _ more) hfew hn' hspent).gone

/-- **Freed handles.**  Freeing a stored session says how many statements it created, and drops
exactly these and the session; a session that is not stored cannot be freed.  Whatever is done
later, every operation refuses a handle that was freed. -/
theorem freed_for_good (ops : List (Operation τ))
    (hfew : ({} : HandleTable τ).drawn ops < UInt64.size) :
    let t := ({} : HandleTable τ).run ops
    (∀ h s, t.session h = .ok s →
      (t.freeSession h).1 = .ok ((t.createdBy h).length, s.close.2.transport) ∧
      t.Frees (t.freeSession h).2 h ∧
      ∀ more, ({} : HandleTable τ).drawn (ops ++ .freeSession h :: more) < UInt64.size →
        let later := ({} : HandleTable τ).run (ops ++ .freeSession h :: more)
        later.RefusesSession h ∧
        ∀ k st, t.statement k = .ok st → st.creator = h → later.RefusesStatement k) ∧
    (∀ h, (∀ s, t.session h ≠ .ok s) →
      t.freeSession h = (.error (.invalidConnection h.id), t)) ∧
    ∀ k st, t.statement k = .ok st →
      ∀ more, ({} : HandleTable τ).drawn (ops ++ .freeStatement k :: more) < UInt64.size →
        (({} : HandleTable τ).run (ops ++ .freeStatement k :: more)).RefusesStatement k := by
  intro t
  obtain ⟨ht, hn⟩ := tidy_of_run ops hfew
  refine ⟨fun h s hs => ?_, fun h hunknown => ?_, fun k st hst more hmore => ?_⟩
  · obtain ⟨hresult, hfrees⟩ := freeSession_of_stored ht hs
    refine ⟨hresult, hfrees, fun more hmore => ⟨?_, fun k st hst hcreator => ?_⟩⟩
    · have hspent := spent_of_freeSession ht hn hs
      exact refusesSession_of_gone (gone_of_spent ops more _ rfl hspent hmore)
    · have hspent := spent_of_freeSession_statement ht hn hs hst hcreator
      exact refusesStatement_of_gone (gone_of_spent ops more _ rfl hspent hmore)
  · cases hs : find? h t.sessions with
    | none => exact freeSession_of_none hs
    | some s => exact absurd (session_eq_ok_iff.2 hs) (hunknown s)
  · have hspent := spent_of_freeStatement ht hn hst
    exact refusesStatement_of_gone (gone_of_spent ops more _ rfl hspent hmore)

/-- Two sessions with statements; one session is freed, and one statement of the other. -/
theorem freed_for_good_two_sessions :
    let ops : List (Operation MemoryTransport) :=
      [.alloc {}, .createStatement ⟨1⟩, .alloc {}, .createStatement ⟨3⟩, .createStatement ⟨1⟩]
    let t := ({} : HandleTable MemoryTransport).run ops
    let more : List (Operation MemoryTransport) := [.alloc {}, .createStatement ⟨3⟩]
    let without := ({} : HandleTable MemoryTransport).run (ops ++ .freeSession ⟨1⟩ :: more)
    let fewer := ({} : HandleTable MemoryTransport).run (ops ++ .freeStatement ⟨4⟩ :: more)
    ({} : HandleTable MemoryTransport).drawn ops < UInt64.size ∧
      (t.freeSession ⟨1⟩).1.map (·.1) = .ok 2 ∧ t.Frees (t.freeSession ⟨1⟩).2 ⟨1⟩ ∧
      without.RefusesSession ⟨1⟩ ∧ without.RefusesStatement ⟨2⟩ ∧
      t.freeSession ⟨9⟩ = (.error (.invalidConnection 9), t) ∧ fewer.RefusesStatement ⟨4⟩ := by
  intro ops t more without fewer
  have hfew : ({} : HandleTable MemoryTransport).drawn ops < UInt64.size := by decide
  obtain ⟨hsession, hunknown, hstatement⟩ := freed_for_good ops hfew
  obtain ⟨hresult, hfrees, hlater⟩ := hsession ⟨1⟩ _ rfl
  obtain ⟨hrefused, hstatements⟩ := hlater more (by decide)
  refine ⟨hfew, ?_, hfrees, hrefused, hstatements ⟨2⟩ _ rfl rfl, hunknown ⟨9⟩ ?_,
    hstatement ⟨4⟩ _ rfl more (by decide)⟩
  · rw [hresult]
    rfl
  · intro s hs
    have hnone : t.session ⟨9⟩ = .error (.invalidConnection 9) := rfl
    exact absurd (hnone.symm.trans hs) (by simp)

end

end HandleTable

end SqlSession
