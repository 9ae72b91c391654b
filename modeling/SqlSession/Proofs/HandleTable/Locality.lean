import SqlSession.Proofs.HandleTable.Share
/-!
# Sessions of a table do not touch each other

An operation that addresses a session reads and changes its share only.  So operations on different
sessions can be done in any order, and a session in any interleaving does what it does alone.

    result and change  =  a function of the share               (Operation.acts)
    operations on different sessions commute                    (Operation.apply_comm)
    replies and share in an interleaving  =  those alone        (share_run)
-/

namespace SqlSession

/-! ## Operations on one session -/

namespace Operation

open HandleTable

variable {τ : Type} {a b : SessionHandle} {t t' : HandleTable τ}

/-- An operation is given a session's handle, or that of a statement that is the session's.  One
that draws a handle concerns no session. -/
def Concerns (op : Operation τ) (a : SessionHandle) (owned : StatementHandle → Prop) : Prop :=
  match op with
  | .call h _ => h = a
  | .exchange k _ => owned k
  | .freeStatement k => owned k
  | .freeSession h => h = a
  | _ => False

/-- The operation addresses a session of a table: it is given its handle, or that of one of its
statements. -/
def Addresses (op : Operation τ) (t : HandleTable τ) (a : SessionHandle) : Prop :=
  op.Concerns a fun k => ∀ st, t.statement k = .ok st → st.creator = a

/-- The operation stays within the share of a session, also where a handle has several entries. -/
def Within (op : Operation τ) (t : HandleTable τ) (a : SessionHandle) : Prop :=
  op.Concerns a fun k => ∀ st, (k, st) ∈ t.statements → st.creator = a

theorem Concerns.mono {op : Operation τ} {owned owned' : StatementHandle → Prop}
    (h : op.Concerns a owned) (himp : ∀ k, owned k → owned' k) : op.Concerns a owned' := by
  cases op with
  | exchange k request => exact himp k h
  | freeStatement k => exact himp k h
  | _ => exact h

theorem Addresses.within {op : Operation τ} (ht : t.Tidy) (h : op.Addresses t a) :
    op.Within t a := by
  refine h.mono fun k hk st hmem => hk st ?_
  rw [statement_eq_ok_iff]
  exact (find?_eq_some_iff ht.unique_statements k st).2 hmem

/-- Changes give no session a statement of another. -/
theorem Within.change {op : Operation τ} (h : op.Within t a) (c : Change τ b) :
    op.Within (c.apply t) a := by
  refine h.mono fun k hk st hmem => ?_
  obtain ⟨st', hmem', hcreator⟩ := c.mem_statements_apply hmem
  exact hcreator ▸ hk st' hmem'

variable [Transport τ]

/-- An operation gives one result and makes one change in all tables with the same share. -/
def Acts (op : Operation τ) (t : HandleTable τ) (a : SessionHandle) : Prop :=
  ∃ r, ∃ c : Change τ a, ∀ t' : HandleTable τ, t'.share a = t.share a → op.Within t' a →
    op.apply t' = (r, c.apply t')

/-- An operation that is refused wherever the share is the same changes nothing. -/
theorem acts_of_refused {op : Operation τ} {r : Except HandleError (Reply τ)}
    (h : ∀ t' : HandleTable τ, t'.share a = t.share a → op.Within t' a → op.apply t' = (r, t')) :
    op.Acts t a := by
  refine ⟨r, .none, fun t' hshare hwithin => ?_⟩
  rw [Change.apply_none]
  exact h t' hshare hwithin

theorem acts_call (c : SessionCall τ) (t : HandleTable τ) : (call a c).Acts t a := by
  cases hs : find? a t.sessions with
  | none =>
    refine acts_of_refused (r := .error (.invalidConnection a.id)) fun t' hshare _ => ?_
    exact onSession_of_none c.run ((find?_of_share hshare).trans hs)
  | some s =>
    refine ⟨.ok (c.run s).1,
      { sessions := put a (c.run s).2
        creator := Change.creator_keep }, fun t' hshare _ => ?_⟩
    have hrun := onSession_of_some c.run ((find?_of_share hshare).trans hs)
    rw [Change.apply, amend_put _ (ofSession_of_key t' a), amend_keep]
    exact hrun

theorem acts_exchange {k : StatementHandle} {request : Bytes}
    (h : (exchange (τ := τ) k request).Within t a) : (exchange (τ := τ) k request).Acts t a := by
  cases hst : find? k t.statements with
  | none =>
    refine acts_of_refused (r := .error (.invalidStatement k.id)) fun t' hshare h' => ?_
    have hst' := (find?_statement_of_share hshare h h').trans hst
    rw [apply, exchange_of_none request hst']
    rfl
  | some st =>
    obtain rfl : st.creator = a := h st (mem_of_find? hst)
    cases hs : find? st.creator t.sessions with
    | none =>
      refine acts_of_refused (r := .error (.invalidConnection st.creator.id)) fun t' hshare h' => ?_
      have hst' := (find?_statement_of_share hshare h h').trans hst
      rw [apply, exchange_of_no_creator request hst' ((find?_of_share hshare).trans hs)]
      rfl
    | some s =>
      refine ⟨.ok (.exchanged (st.exchange s request).1),
        { sessions := put st.creator (st.exchange s request).2.2
          statements := put k (st.exchange s request).2.1
          creator := Change.creator_put k rfl }, fun t' hshare h' => ?_⟩
      have hst' := (find?_statement_of_share hshare h h').trans hst
      rw [Change.apply, amend_put _ (ofSession_of_key t' _), amend_put _ (ofCreator_of_key h'),
        apply, exchange_of_some request hst' ((find?_of_share hshare).trans hs)]
      rfl

theorem acts_freeStatement {k : StatementHandle} (h : (freeStatement (τ := τ) k).Within t a) :
    (freeStatement (τ := τ) k).Acts t a := by
  cases hst : find? k t.statements with
  | none =>
    refine acts_of_refused (r := .error (.invalidStatement k.id)) fun t' hshare h' => ?_
    have hst' := (find?_statement_of_share hshare h h').trans hst
    rw [apply, freeStatement_of_none hst']
    rfl
  | some st =>
    refine ⟨.ok .freedStatement,
      { statements := drop k
        creator := Change.creator_drop k }, fun t' hshare h' => ?_⟩
    have hst' := (find?_statement_of_share hshare h h').trans hst
    rw [Change.apply, amend_keep, amend_drop (ofCreator_of_key h'), apply,
      freeStatement_of_some hst']
    rfl

theorem acts_freeSession (t : HandleTable τ) : (freeSession a).Acts t a := by
  cases hs : find? a t.sessions with
  | none =>
    refine acts_of_refused (r := .error (.invalidConnection a.id)) fun t' hshare _ => ?_
    rw [apply, freeSession_of_none ((find?_of_share hshare).trans hs)]
    rfl
  | some s =>
    refine ⟨.ok (.freedSession (t.createdBy a).length s.close.2.transport),
      { sessions := drop a
        statements := dropAll
        creator := Change.creator_dropAll }, fun t' hshare _ => ?_⟩
    have hcount := length_kept t' a
    have hcreated : t'.createdBy a = t.createdBy a := congrArg Prod.snd hshare
    have hdropped : (t'.statements.filter fun e => !ofCreator a e) =
        t'.statements.filter fun e => decide (e.2.creator ≠ a) := by
      simp only [ofCreator, ne_eq, decide_not]
    rw [Change.apply, amend_drop (ofSession_of_key t' a), amend_dropAll, hdropped, apply,
      freeSession_of_some ((find?_of_share hshare).trans hs), ← hcount, Nat.add_sub_cancel_left,
      hcreated]
    rfl

/-- **Operations.**  Those that stay within a share act on it. -/
theorem acts {op : Operation τ} (h : op.Within t a) : op.Acts t a := by
  cases op with
  | call h' c =>
    obtain rfl : h' = a := h
    exact acts_call c t
  | exchange k request => exact acts_exchange h
  | freeStatement k => exact acts_freeStatement h
  | freeSession h' =>
    obtain rfl : h' = a := h
    exact acts_freeSession t
  | _ => exact h.elim

/-- **Pairs.**  Operations on different sessions give the same in either order. -/
theorem apply_comm (hab : a ≠ b) {op op' : Operation τ} (h : op.Within t a)
    (h' : op'.Within t b) :
    (op'.apply (op.apply t).2).1 = (op'.apply t).1 ∧
      (op.apply (op'.apply t).2).1 = (op.apply t).1 ∧
      (op'.apply (op.apply t).2).2 = (op.apply (op'.apply t).2).2 := by
  obtain ⟨r, c, hc⟩ := acts h
  obtain ⟨r', c', hc'⟩ := acts h'
  have hsecond := hc' (c.apply t) (c.share_apply_other hab t) (h'.change c)
  have hsecond' := hc (c'.apply t) (c'.share_apply_other hab.symm t) (h.change c')
  rw [hc t rfl h, hc' t rfl h', hsecond, hsecond']
  exact ⟨rfl, rfl, Change.apply_comm hab c c' t⟩

end Operation

namespace HandleTable

/-! ## Interleavings -/

section

variable {τ : Type} {a : SessionHandle} {t t' : HandleTable τ}

/-- What is a session's own among what is done for several, in order. -/
def own {α : Type} (a : SessionHandle) (trace : List (SessionHandle × α)) :
    List (SessionHandle × α) :=
  trace.filter fun p => decide (p.1 = a)

theorem own_cons_self {α : Type} (x : α) (trace : List (SessionHandle × α)) :
    own a ((a, x) :: trace) = (a, x) :: own a trace :=
  List.filter_cons_of_pos (decide_eq_true rfl)

theorem own_cons_other {α : Type} {b : SessionHandle} (hb : b ≠ a) (x : α)
    (trace : List (SessionHandle × α)) : own a ((b, x) :: trace) = own a trace :=
  List.filter_cons_of_neg (by simpa using hb)

variable [Transport τ]

/-- The replies of operations done for several sessions. -/
def replies : HandleTable τ → List (SessionHandle × Operation τ) →
    List (SessionHandle × Except HandleError (Reply τ))
  | _, [] => []
  | t, (a, op) :: trace => (a, (op.apply t).1) :: replies (op.apply t).2 trace

/-- **Interleavings.**  From tables with the same share of a session, the session's own operations
give the same replies and the same share, alone or among others. -/
theorem share_run (trace : List (SessionHandle × Operation τ)) (t t' : HandleTable τ)
    (hshare : t'.share a = t.share a) (h' : ∀ p ∈ trace, p.2.Within t' p.1)
    (h : ∀ p ∈ own a trace, p.2.Within t p.1) :
    own a (t'.replies trace) = t.replies (own a trace) ∧
      (t'.run (trace.map (·.2))).share a = (t.run ((own a trace).map (·.2))).share a := by
  induction trace generalizing t t' with
  | nil => exact ⟨rfl, hshare⟩
  | cons p trace ih =>
    obtain ⟨b, op⟩ := p
    have hop := h' (b, op) List.mem_cons_self
    obtain ⟨r, c, hc⟩ := Operation.acts hop
    have hlater : ∀ p ∈ trace, p.2.Within (c.apply t') p.1 :=
      fun p hp => (h' p (List.mem_cons_of_mem _ hp)).change c
    rw [List.map_cons, run_cons, replies, hc t' rfl hop]
    by_cases hb : b = a
    · -- both runs make the change, and the shares stay equal
      subst hb
      rw [own_cons_self] at h
      have hown := h (b, op) List.mem_cons_self
      have hlater' : ∀ p ∈ own b trace, p.2.Within (c.apply t) p.1 :=
        fun p hp => (h p (List.mem_cons_of_mem _ hp)).change c
      obtain ⟨hreplies, hfinal⟩ :=
        ih (c.apply t) (c.apply t') (c.share_apply hshare) hlater hlater'
      rw [own_cons_self, own_cons_self, hreplies, hfinal, replies, List.map_cons, run_cons,
        hc t hshare.symm hown]
      exact ⟨rfl, rfl⟩
    · -- only the first run makes the change, and it leaves the share alone
      rw [own_cons_other hb] at h
      rw [own_cons_other hb, own_cons_other hb]
      exact ih t (c.apply t') ((c.share_apply_other hb t').trans hshare) hlater h

/-- **Sessions do not touch each other.**  After any run, operations on different sessions give the
same in either order; and in any interleaving, the replies to a session and what is stored for it
afterwards are those of its own operations alone. -/
theorem sessions_independent (ops : List (Operation τ))
    (hfew : ({} : HandleTable τ).drawn ops < UInt64.size) :
    let t := ({} : HandleTable τ).run ops
    (∀ a b (op op' : Operation τ), a ≠ b → op.Addresses t a → op'.Addresses t b →
      (op'.apply (op.apply t).2).1 = (op'.apply t).1 ∧
      (op.apply (op'.apply t).2).1 = (op.apply t).1 ∧
      (op'.apply (op.apply t).2).2 = (op.apply (op'.apply t).2).2) ∧
    ∀ trace : List (SessionHandle × Operation τ), (∀ p ∈ trace, p.2.Addresses t p.1) → ∀ a,
      own a (t.replies trace) = t.replies (own a trace) ∧
      (t.run (trace.map (·.2))).session a = (t.run ((own a trace).map (·.2))).session a ∧
      (t.run (trace.map (·.2))).createdBy a = (t.run ((own a trace).map (·.2))).createdBy a := by
  intro t
  obtain ⟨ht, -⟩ := tidy_of_run ops hfew
  constructor
  · intro a b op op' hab h h'
    exact Operation.apply_comm hab (h.within ht) (h'.within ht)
  · intro trace htrace a
    have hwithin : ∀ p ∈ trace, p.2.Within t p.1 := fun p hp => (htrace p hp).within ht
    obtain ⟨hreplies, hshare⟩ :=
      share_run (a := a) trace t t rfl hwithin fun p hp => hwithin p (List.mem_filter.1 hp).1
    exact ⟨hreplies, session_congr (find?_of_share hshare), congrArg Prod.snd hshare⟩

/-- One session is freed while a statement of the other is used; then a statement of the first. -/
theorem sessions_independent_freed :
    let ops : List (Operation MemoryTransport) :=
      [.alloc {}, .createStatement ⟨1⟩, .alloc {}, .createStatement ⟨3⟩]
    let t := ({} : HandleTable MemoryTransport).run ops
    let free : Operation MemoryTransport := .freeSession ⟨1⟩
    let use : Operation MemoryTransport := .exchange ⟨4⟩ [7]
    let trace : List (SessionHandle × Operation MemoryTransport) :=
      [(⟨1⟩, free), (⟨3⟩, use), (⟨1⟩, .exchange ⟨2⟩ [7])]
    ({} : HandleTable MemoryTransport).drawn ops < UInt64.size ∧
      free.Addresses t ⟨1⟩ ∧ use.Addresses t ⟨3⟩ ∧
      (use.apply (free.apply t).2).2 = (free.apply (use.apply t).2).2 ∧
      (t.run (trace.map (·.2))).session ⟨3⟩ = (use.apply t).2.session ⟨3⟩ := by
  intro ops t free use trace
  have hfew : ({} : HandleTable MemoryTransport).drawn ops < UInt64.size := by decide
  have hfree : free.Addresses t ⟨1⟩ := rfl
  have huse : use.Addresses t ⟨3⟩ := by
    intro st hst
    obtain rfl : st = { handle := ⟨4⟩, creator := ⟨3⟩ } := Except.ok.inj (hst.symm.trans rfl)
    rfl
  have htrace : ∀ p ∈ trace, p.2.Addresses t p.1 := by
    intro p hp
    simp only [trace, List.mem_cons, List.not_mem_nil, or_false] at hp
    rcases hp with rfl | rfl | rfl
    · exact hfree
    · exact huse
    · intro st hst
      obtain rfl : st = { handle := ⟨2⟩, creator := ⟨1⟩ } := Except.ok.inj (hst.symm.trans rfl)
      rfl
  obtain ⟨hpairs, htraces⟩ := sessions_independent ops hfew
  have hpair := hpairs ⟨1⟩ ⟨3⟩ free use (by decide) hfree huse
  exact ⟨hfew, hfree, huse, hpair.2.2, (htraces trace htrace ⟨3⟩).2.1⟩

end

end HandleTable

end SqlSession
