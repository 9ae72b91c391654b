import SqlSession.Proofs.HandleTable.Operation
/-!
# Who owns what in a handle table

Handles are numbered in the order in which they are drawn, so as long as the numbers last every
entry has one of its own.  A table is then tidy (`Tidy`) after any run: what is stored under a
handle has that handle, no two entries share a number, and no statement is left without the session
that created it.

    drawn in all < 2^64  →  tidy                                       (tidy_of_run)
    tidy  →  an exchange of a stored statement runs on its creator     (exchange_of_tidy)
    a statement is created by a stored session  →  it is stored        (statement_of_created)
-/

namespace SqlSession

/-! ## Foreign sessions -/

namespace Statement

variable {τ : Type} [Transport τ]

/-- The error of an exchange over a session that did not create the statement. -/
def foreign (st : Statement) (h : SessionHandle) : DriverError :=
  .general ("Statement " ++ st.handle.display ++ " does not belong to connection " ++ h.display ++
    ".")

/-- Over any other session, an exchange is refused. -/
theorem exchange_of_foreign (st : Statement) (s : Session τ) (request : Bytes)
    (h : s.handle ≠ st.creator) :
    st.exchange s request =
      (.ofOutcome (.error (st.foreign s.handle)),
        { st with diagnostics := ⟨[.ofError (st.foreign s.handle)]⟩ }, s) := by
  simp only [exchange, foreign, h, if_false, Diagnostics.complete_clear, CallResult.ofOutcome]

/-- Over its creator, an exchange is that of the session; its error goes to the statement. -/
theorem exchange_of_creator (st : Statement) (s : Session τ) (request : Bytes)
    (h : s.handle = st.creator) :
    st.exchange s request =
      (.ofOutcome (s.exchange request).1,
        { st with diagnostics := ⟨(CallResult.ofOutcome (s.exchange request).1).records⟩ },
        (s.exchange request).2) := by
  simp only [exchange, h, if_true, Diagnostics.complete_clear]

end Statement

/-- The text about a foreign session is no text about a frame. -/
theorem foreign_ne_tooLong (st : Statement) (h : SessionHandle) (size max : Nat) :
    (st.foreign h).message ≠ (WireError.frameTooLarge size max).message := by
  intro heq
  unfold Statement.foreign DriverError.message WireError.message at heq
  have hfirst := congrArg (fun text : String => text.toList.head?) heq
  have hs : "Statement ".toList = 'S' :: "tatement ".toList := by decide
  have hf : "frame too large: ".toList = 'f' :: "rame too large: ".toList := by decide
  dsimp only at hfirst
  simp only [String.toList_append, List.append_assoc] at hfirst
  rw [hs, hf, List.cons_append, List.cons_append, List.head?_cons, List.head?_cons] at hfirst
  exact absurd hfirst (by decide)

namespace Session

variable {τ : Type} [Transport τ]

theorem transfer_error {α : Type} {s s' : Session τ} {op : τ → Except DriverError α × τ}
    {e : DriverError} (h : s.transfer op = (.error e, s')) :
    e = .notConnected "Connection is not established" ∨ ∃ t', op s.transport = (.error e, t') := by
  unfold transfer at h
  split at h
  · rcases hop : op s.transport with ⟨e' | value, t'⟩
    · rw [hop] at h
      obtain rfl : e' = e := Except.error.inj (congrArg Prod.fst h)
      exact .inr ⟨t', rfl⟩
    · rw [hop] at h
      simp [trackLink] at h
  · exact .inl (Except.error.inj (congrArg Prod.fst h)).symm

/-- The only general error of an exchange is that of a request that is too long. -/
theorem exchange_error {s : Session τ} {request : Bytes} {e : DriverError}
    (h : (s.exchange request).1 = .error e) :
    e.state ≠ .generalError ∨
      ∃ size max, e = .general (WireError.frameTooLarge size max).message := by
  unfold exchange at h
  split at h
  · rename_i e' s' hsend
    obtain rfl : e' = e := Except.error.inj h
    obtain rfl | ⟨t', hframe⟩ := transfer_error hsend
    · exact .inl (by decide)
    · obtain ⟨cause, hcause, rfl, -⟩ | ⟨-, text, rfl⟩ := Framing.error_of_send hframe
      · rcases Nat.lt_or_ge Frame.maxPayload request.length with hlt | hle
        · rw [Frame.encode_of_gt hlt, Except.error.injEq] at hcause
          exact .inr ⟨_, _, by rw [hcause]⟩
        · simp [Frame.encode_of_le hle] at hcause
      · exact .inl (fun hstate => by simp [DriverError.state] at hstate)
  · rename_i s' _
    obtain rfl | ⟨t', hframe⟩ := transfer_error (Prod.ext h rfl : s'.receive = (.error e, _))
    · exact .inl (by decide)
    · obtain ⟨text, rfl⟩ := Framing.error_of_receive hframe
      exact .inl (fun hstate => by simp [DriverError.state] at hstate)

/-- No exchange of a session reports that the session is foreign. -/
theorem foreign_not_mem_exchange (s : Session τ) (request : Bytes) (st : Statement)
    (h : SessionHandle) :
    .ofError (st.foreign h) ∉ (CallResult.ofOutcome (s.exchange request).1).records := by
  intro hmem
  cases hout : (s.exchange request).1 with
  | ok answer =>
    rw [hout] at hmem
    simp [CallResult.ofOutcome] at hmem
  | error e =>
    rw [hout] at hmem
    have hrecord : DiagnosticRecord.ofError (st.foreign h) = .ofError e := List.mem_singleton.1 hmem
    obtain hstate | ⟨size, max, rfl⟩ := exchange_error hout
    · exact hstate (congrArg DiagnosticRecord.state hrecord).symm
    · exact foreign_ne_tooLong st h size max (congrArg DiagnosticRecord.message hrecord)

end Session

namespace HandleTable

variable {τ : Type}

/-! ## Tidy tables -/

/-- The numbers of all stored handles. -/
def ids (t : HandleTable τ) : List UInt64 :=
  t.sessions.map (·.1.id) ++ t.statements.map (·.1.id)

/-- Every session and every statement is stored under its own handle, no two of them share a
number, and the session that created a stored statement is stored. -/
structure Tidy (t : HandleTable τ) : Prop where
  sessions : ∀ e ∈ t.sessions, e.2.handle = e.1
  statements : ∀ e ∈ t.statements, e.2.handle = e.1
  distinct : t.ids.Nodup
  creators : ∀ e ∈ t.statements, ∃ s, t.session e.2.creator = .ok s

/-- `n` handles were drawn, and those that are stored are among them. -/
structure Numbered (t : HandleTable τ) (n : Nat) : Prop where
  next : t.handles.next = UInt64.ofNat (n + 1)
  drawn : ∀ id ∈ t.ids, 0 < id.toNat ∧ id.toNat ≤ n

section

variable {t t' : HandleTable τ} {n d : Nat}

theorem Numbered.toNat_next (h : t.Numbered n) (hfew : n + 1 < UInt64.size) :
    t.handles.next.toNat = n + 1 := by
  rw [h.next]
  exact UInt64.toNat_ofNat_of_lt' hfew

/-- A handle is drawn that no entry has. -/
theorem Numbered.next_not_mem (h : t.Numbered n) (hfew : n + 1 < UInt64.size) :
    t.handles.next ∉ t.ids := by
  intro hmem
  have hnext := h.toNat_next hfew
  have hle := (h.drawn _ hmem).2
  omega

theorem Tidy.unique_sessions (h : t.Tidy) : (t.sessions.map (·.1)).Nodup := by
  have hids := (List.nodup_append.1 h.distinct).1
  rw [List.Nodup, List.pairwise_map] at hids ⊢
  exact hids.imp fun hne heq => hne (congrArg SessionHandle.id heq)

theorem Tidy.unique_statements (h : t.Tidy) : (t.statements.map (·.1)).Nodup := by
  have hids := (List.nodup_append.1 h.distinct).2.1
  rw [List.Nodup, List.pairwise_map] at hids ⊢
  exact hids.imp fun hne heq => hne (congrArg StatementHandle.id heq)

/-! ## What an edit keeps -/

theorem next_edit (h : Edit t t' d) (hn : t.handles.next = UInt64.ofNat (n + 1)) :
    t'.handles.next = UInt64.ofNat (n + d + 1) := by
  have hdraw : t.handles.draw.2.next = UInt64.ofNat (n + 1 + 1) := by
    rw [UInt64.ofNat_add, ← hn]
    rfl
  cases h with
  | draw => exact hdraw
  | addSession => exact hdraw
  | addStatement => exact hdraw
  | setSession => exact hn
  | setStatement => exact hn
  | dropStatement => exact hn
  | dropSession => exact hn

/-- Changing an entry keeps the numbers of all. -/
theorem map_id_replace {κ ν : Type} [DecidableEq κ] (id : κ → UInt64) (key : κ) (value : ν)
    (entries : List (κ × ν)) :
    (replace key value entries).map (fun e => id e.1) = entries.map fun e => id e.1 := by
  have hkeys := congrArg (List.map id) (keys_replace key value entries)
  rwa [List.map_map, List.map_map] at hkeys

/-- The numbers after an edit: those before, a new one in front, or some of them are gone. -/
theorem ids_edit (h : Edit t t' d) :
    t'.ids.Sublist t.ids ∨ d = 1 ∧ t'.ids.Perm (t.handles.next :: t.ids) := by
  cases h with
  | draw => exact .inl (List.Sublist.refl _)
  | addSession => exact .inr ⟨rfl, List.Perm.refl _⟩
  | addStatement _ => exact .inr ⟨rfl, List.perm_middle⟩
  | @setSession h s s' _ _ =>
    have hkept := map_id_replace SessionHandle.id h s' t.sessions
    have hids : ids { t with sessions := replace h s' t.sessions } = t.ids :=
      congrArg (· ++ t.statements.map (·.1.id)) hkept
    exact .inl (hids.symm ▸ List.Sublist.refl t.ids)
  | @setStatement k st st' _ _ _ =>
    have hkept := map_id_replace StatementHandle.id k st' t.statements
    have hids : ids { t with statements := replace k st' t.statements } = t.ids :=
      congrArg (t.sessions.map (·.1.id) ++ ·) hkept
    exact .inl (hids.symm ▸ List.Sublist.refl t.ids)
  | dropStatement => exact .inl (List.Sublist.append_left (List.filter_sublist.map _) _)
  | dropSession =>
    exact .inl ((List.filter_sublist.map _).append (List.filter_sublist.map _))

theorem mem_ids_edit (h : Edit t t' d) {id : UInt64} (hid : id ∈ t'.ids) :
    id ∈ t.ids ∨ d = 1 ∧ id = t.handles.next := by
  obtain hsub | ⟨hd, hperm⟩ := ids_edit h
  · exact .inl (hsub.mem hid)
  · rcases List.mem_cons.1 (hperm.mem_iff.1 hid) with rfl | hold
    · exact .inr ⟨hd, rfl⟩
    · exact .inl hold

theorem numbered_edit (h : Edit t t' d) (hfew : n + d < UInt64.size) (hn : t.Numbered n) :
    t'.Numbered (n + d) := by
  refine ⟨next_edit h hn.next, fun id hid => ?_⟩
  obtain hold | ⟨rfl, rfl⟩ := mem_ids_edit h hid
  · have hid := hn.drawn id hold
    omega
  · have hnext := hn.toNat_next hfew
    omega

theorem distinct_edit (h : Edit t t' d) (hfew : n + d < UInt64.size) (hn : t.Numbered n)
    (ht : t.ids.Nodup) : t'.ids.Nodup := by
  obtain hsub | ⟨rfl, hperm⟩ := ids_edit h
  · exact ht.sublist hsub
  · rw [hperm.nodup_iff, List.nodup_cons]
    exact ⟨hn.next_not_mem hfew, ht⟩

theorem sessions_edit (h : Edit t t' d) (ht : ∀ e ∈ t.sessions, e.2.handle = e.1) :
    ∀ e ∈ t'.sessions, e.2.handle = e.1 := by
  intro e he
  cases h with
  | addSession =>
    rcases List.mem_cons.1 he with rfl | he
    · rfl
    · exact ht e he
  | setSession hs hkept =>
    obtain rfl | he := mem_replace he
    · exact hkept.trans (ht _ (mem_of_find? hs))
    · exact ht e he
  | dropSession => exact ht e (List.mem_filter.1 he).1
  | _ => exact ht e he

theorem statements_edit (h : Edit t t' d) (ht : ∀ e ∈ t.statements, e.2.handle = e.1) :
    ∀ e ∈ t'.statements, e.2.handle = e.1 := by
  intro e he
  cases h with
  | addStatement _ =>
    rcases List.mem_cons.1 he with rfl | he
    · rfl
    · exact ht e he
  | setStatement hst hkept _ =>
    obtain rfl | he := mem_replace he
    · exact hkept.trans (ht _ (mem_of_find? hst))
    · exact ht e he
  | dropStatement => exact ht e (List.mem_filter.1 he).1
  | dropSession => exact ht e (List.mem_filter.1 he).1
  | _ => exact ht e he

theorem creators_edit (h : Edit t t' d) (ht : t.Tidy) :
    ∀ e ∈ t'.statements, ∃ s, t'.session e.2.creator = .ok s := by
  have hfound : ∀ e ∈ t.statements, ∃ s, find? e.2.creator t.sessions = some s := by
    intro e he
    obtain ⟨s, hs⟩ := ht.creators e he
    exact ⟨s, session_eq_ok_iff.1 hs⟩
  simp only [session_eq_ok_iff]
  intro e he
  cases h with
  | draw => exact hfound e he
  | addSession transport =>
    rw [find?_cons]
    by_cases hnew : (⟨t.handles.next⟩ : SessionHandle) = e.2.creator
    · exact ⟨_, if_pos hnew⟩
    · rw [if_neg hnew]
      exact hfound e he
  | addStatement hs =>
    rcases List.mem_cons.1 he with rfl | he
    · rw [ht.sessions _ (mem_of_find? hs)]
      exact ⟨_, hs⟩
    · exact hfound e he
  | @setSession h s s' hs _ =>
    obtain ⟨c, hc⟩ := hfound e he
    rw [find?_replace]
    by_cases hsame : e.2.creator = h
    · exact ⟨s', by rw [if_pos hsame, hs, Option.map_some]⟩
    · exact ⟨c, by rw [if_neg hsame, hc]⟩
  | setStatement hst _ hkept =>
    obtain rfl | he := mem_replace he
    · obtain ⟨s, hs⟩ := hfound _ (mem_of_find? hst)
      exact ⟨s, hkept ▸ hs⟩
    · exact hfound e he
  | dropStatement => exact hfound e (List.mem_filter.1 he).1
  | dropSession h =>
    obtain ⟨he, hother⟩ := List.mem_filter.1 he
    obtain ⟨s, hs⟩ := hfound e he
    rw [find?_remove, if_neg (of_decide_eq_true hother)]
    exact ⟨s, hs⟩

/-- **Steps.**  An edit leaves a tidy table tidy, as long as the numbers last. -/
theorem tidy_edit (h : Edit t t' d) (hfew : n + d < UInt64.size) (hn : t.Numbered n)
    (ht : t.Tidy) : t'.Tidy where
  sessions := sessions_edit h ht.sessions
  statements := statements_edit h ht.statements
  distinct := distinct_edit h hfew hn ht.distinct
  creators := creators_edit h ht

/-- What each edit keeps as long as the numbers last, edits in a row keep. -/
theorem kept_of_edits {P : HandleTable τ → Nat → Prop}
    (hstep : ∀ {t t' : HandleTable τ} {n d : Nat}, Edit t t' d → n + d < UInt64.size →
      t.Numbered n → P t n → P t' (n + d))
    (h : Edits t t' d) (hfew : n + d < UInt64.size) (hn : t.Numbered n) (hp : P t n) :
    P t' (n + d) ∧ t'.Numbered (n + d) := by
  induction h with
  | refl => exact ⟨hp, hn⟩
  | tail _ hedit ih =>
    rw [← Nat.add_assoc] at hfew ⊢
    obtain ⟨hp', hn'⟩ := ih (by omega)
    exact ⟨hstep hedit hfew hn' hp', numbered_edit hedit hfew hn'⟩

theorem tidy_edits (h : Edits t t' d) (hfew : n + d < UInt64.size) (hn : t.Numbered n)
    (ht : t.Tidy) : t'.Tidy ∧ t'.Numbered (n + d) :=
  kept_of_edits (P := fun t _ => t.Tidy) tidy_edit h hfew hn ht

end

/-! ## Runs -/

section

variable [Transport τ]

omit [Transport τ] in
theorem tidy_empty : ({} : HandleTable τ).Tidy ∧ ({} : HandleTable τ).Numbered 0 := by
  refine ⟨⟨by simp, by simp, by simp [ids], by simp⟩, ⟨rfl, by simp [ids]⟩⟩

/-- A run from the empty table leads to a tidy one. -/
theorem tidy_of_run (ops : List (Operation τ))
    (hfew : ({} : HandleTable τ).drawn ops < UInt64.size) :
    (({} : HandleTable τ).run ops).Tidy ∧
      (({} : HandleTable τ).run ops).Numbered (({} : HandleTable τ).drawn ops) := by
  have hrun := tidy_edits (n := 0) (edits_run {} ops) (by omega) tidy_empty.2 tidy_empty.1
  rwa [Nat.zero_add] at hrun

/-- **Exchanges.**  In a tidy table an exchange finds its statement and then its creator, and is
that of the creator; or its handle is not that of a stored statement. -/
theorem exchange_of_tidy {t : HandleTable τ} (ht : t.Tidy) (k : StatementHandle)
    (request : Bytes) :
    (t.statement k = .error (.invalidStatement k.id) ∧
        t.exchange k request = (.error (.invalidStatement k.id), t)) ∨
      ∃ st s, t.statement k = .ok st ∧ t.session st.creator = .ok s ∧
        (t.exchange k request).1 = .ok (.ofOutcome (s.exchange request).1) ∧
        (t.exchange k request).2.session st.creator = .ok (s.exchange request).2 := by
  cases hst : find? k t.statements with
  | none => exact .inl ⟨statement_of_none hst, exchange_of_none request hst⟩
  | some st =>
    obtain ⟨s, hs⟩ := ht.creators _ (mem_of_find? hst)
    have hfound := session_eq_ok_iff.1 hs
    have howner : s.handle = st.creator := ht.sessions _ (mem_of_find? hfound)
    have hrun := exchange_of_some request hst hfound
    rw [st.exchange_of_creator s request howner] at hrun
    refine .inr ⟨st, s, statement_eq_ok_iff.2 hst, hs, ?_, ?_⟩
    · rw [hrun]
    · rw [hrun]
      exact session_eq_ok_iff.2 (find?_replace_self _ hfound)

omit [Transport τ] in
/-- **Creation.**  A stored session always creates a statement, and it is stored. -/
theorem statement_of_created {t : HandleTable τ} (ht : t.Tidy) {h : SessionHandle} {s : Session τ}
    (hs : t.session h = .ok s) :
    ∃ k st, (t.createStatement h).1 = .ok (.ofOutcome (.ok k)) ∧
      (t.createStatement h).2.statement k = .ok st ∧ st.creator = h := by
  have hfound := session_eq_ok_iff.1 hs
  have howner : s.handle = h := ht.sessions _ (mem_of_find? hfound)
  rw [createStatement_of_some hfound]
  refine ⟨⟨t.handles.next⟩, { handle := ⟨t.handles.next⟩, creator := s.handle }, rfl, ?_, howner⟩
  rw [statement_eq_ok_iff, find?_cons, if_pos rfl]

/-- **Runs.**  Whatever is done to a table, it stays tidy while the numbers last.  So an exchange of
a stored statement runs on its creator, and is never refused as foreign; and a stored session always
creates a statement that is then stored. -/
theorem run_tidy (ops : List (Operation τ))
    (hfew : ({} : HandleTable τ).drawn ops < UInt64.size) :
    let t := ({} : HandleTable τ).run ops
    t.Tidy ∧
    (∀ k request,
      (t.statement k = .error (.invalidStatement k.id) ∧
          t.exchange k request = (.error (.invalidStatement k.id), t)) ∨
        ∃ st s, t.statement k = .ok st ∧ t.session st.creator = .ok s ∧
          (t.exchange k request).1 = .ok (.ofOutcome (s.exchange request).1) ∧
          (t.exchange k request).2.session st.creator = .ok (s.exchange request).2 ∧
          ∀ (st' : Statement) (h : SessionHandle),
            .ofError (st'.foreign h) ∉ (CallResult.ofOutcome (s.exchange request).1).records) ∧
    ∀ h s, t.session h = .ok s →
      ∃ k st, (t.createStatement h).1 = .ok (.ofOutcome (.ok k)) ∧
        (t.createStatement h).2.statement k = .ok st ∧ st.creator = h := by
  intro t
  obtain ⟨ht, -⟩ := tidy_of_run ops hfew
  refine ⟨ht, fun k request => ?_, fun h s hs => statement_of_created ht hs⟩
  obtain hnone | ⟨st, s, hst, hs, hresult, hafter⟩ := exchange_of_tidy ht k request
  · exact .inl hnone
  · exact .inr ⟨st, s, hst, hs, hresult, hafter, s.foreign_not_mem_exchange request⟩

/-- A session, its statement, a handle drawn elsewhere, and a session that is freed. -/
theorem run_tidy_two_sessions :
    let ops : List (Operation MemoryTransport) :=
      [.alloc {}, .createStatement ⟨1⟩, .drawSession, .alloc {}, .createStatement ⟨4⟩,
        .freeSession ⟨4⟩]
    let t := ({} : HandleTable MemoryTransport).run ops
    ({} : HandleTable MemoryTransport).drawn ops < UInt64.size ∧ t.Tidy ∧
      t.ids = [1, 2] ∧
      t.exchange ⟨5⟩ [7] = (.error (.invalidStatement 5), t) ∧
      ∃ s, t.session ⟨1⟩ = .ok s ∧
        (t.exchange ⟨2⟩ [7]).1 = .ok (.ofOutcome (s.exchange [7]).1) := by
  intro ops t
  have hfew : ({} : HandleTable MemoryTransport).drawn ops < UInt64.size := by decide
  obtain ⟨ht, hexchange, -⟩ := run_tidy ops hfew
  refine ⟨hfew, ht, rfl, rfl, ?_⟩
  obtain ⟨hnone, -⟩ | ⟨st, s, hst, hs, hresult, -⟩ := hexchange ⟨2⟩ [7]
  · have hstored : t.statement ⟨2⟩ = .ok { handle := ⟨2⟩, creator := ⟨1⟩ } := rfl
    exact absurd (hnone.symm.trans hstored) (by simp)
  · obtain rfl : st = { handle := ⟨2⟩, creator := ⟨1⟩ } := Except.ok.inj (hst.symm.trans rfl)
    exact ⟨s, hs, hresult⟩

end

end HandleTable

end SqlSession
