import SqlSession.Proofs.HandleTable.Entries
import SqlSession.Proofs.Session.Chunking
import SqlSession.Proofs.Session.Transfer
/-!
# Operations on a handle table

A program works on a table by operations: those of the table itself, the calls of a stored session,
and handles drawn for sessions and statements that the table does not hold.  A run is a list of
them, in any order and with any handles.

Every operation comes down to a few edits (`Edit`): a handle is drawn, an entry is added under the
handle just drawn, an entry is changed in place, entries are dropped.

* `SessionCall.handle_run`: no call of a session changes its handle.
* `HandleTable.step_apply`: what each operation does to a table.
* `edits_apply`, `edits_run`: the edits of an operation, and of a run.
-/

namespace SqlSession

variable {τ : Type}

/-! ## Calls -/

/-- What can be done to a session where it is stored.  Its transport can be changed directly. -/
inductive SessionCall (τ : Type) where
  | establish (c : Configuration)
  | establishWith (text : String)
  | release
  | close
  | getInfo (number : UInt16) (buffer : Bytes)
  | getAttribute (id : Int32) (buffer : Option Bytes)
  | setAttribute (id : Int32) (value : Bytes)
  | commit
  | rollback
  | send (payload : Bytes)
  | receive
  | exchange (request : Bytes)
  | statementExchange (statement : Statement) (request : Bytes)
  | onTransport (change : τ → τ)

/-- What an operation gives. -/
inductive Reply (τ : Type) where
  | session (h : SessionHandle)
  | statement (k : StatementHandle)
  | created (result : CallResult StatementHandle)
  | detached (result : CallResult Statement)
  | answered (a : Answer)
  /-- A session as it was found; all that can be read off it is in it. -/
  | found (s : Session τ)
  | exchanged (result : CallResult Bytes)
  | freedStatement
  | freedSession (statements : Nat) (transport : τ)

namespace SessionCall

variable [Transport τ]

/-- Runs a call. -/
def run (call : SessionCall τ) (s : Session τ) : Reply τ × Session τ :=
  match call with
  | .establish c => (.answered (.called (s.establish c).1), (s.establish c).2)
  | .establishWith text => (.answered (.called (s.establishWith text).1), (s.establishWith text).2)
  | .release => (.answered (.called s.release.1), s.release.2)
  | .close => (.answered (.called s.close.1), s.close.2)
  | .getInfo number buffer =>
    (.answered (.filled (s.getInfo number buffer).1.1 (s.getInfo number buffer).1.2),
      (s.getInfo number buffer).2)
  | .getAttribute id buffer =>
    (.answered (.filled (s.getAttribute id buffer).1.1 (s.getAttribute id buffer).1.2),
      (s.getAttribute id buffer).2)
  | .setAttribute id value =>
    (.answered (.called (s.setAttribute id value).1), (s.setAttribute id value).2)
  | .commit => (.answered (.called s.commit.1), s.commit.2)
  | .rollback => (.answered (.called s.rollback.1), s.rollback.2)
  | .send payload => (.answered (.sent (s.send payload).1), (s.send payload).2)
  | .receive => (.answered (.received s.receive.1), s.receive.2)
  | .exchange request => (.answered (.received (s.exchange request).1), (s.exchange request).2)
  | .statementExchange st request =>
    (.answered (.exchanged (st.exchange s request).1 (st.exchange s request).2.1),
      (st.exchange s request).2.2)
  | .onTransport change => (.found s, { s with transport := change s.transport })

end SessionCall

theorem SessionCall.handle_run [Transport τ] (call : SessionCall τ) (s : Session τ) :
    (call.run s).2.handle = s.handle := by
  cases call with
  | establish c => exact s.handle_establish c
  | establishWith text => exact s.handle_establishWith text
  | getInfo number buffer => exact s.handle_getInfo number buffer
  | setAttribute id value => exact s.handle_setAttribute id value
  | send payload => exact s.handle_transfer _
  | receive => exact s.handle_transfer _
  | exchange request => exact s.handle_exchange request
  | statementExchange st request => exact s.handle_statementExchange st request
  | _ => rfl

/-! ## Operations -/

/-- What can be done to a table. -/
inductive Operation (τ : Type) where
  | alloc (transport : τ)
  /-- A handle for a session that the table does not hold. -/
  | drawSession
  /-- A handle for a statement that the table does not hold. -/
  | drawStatement
  | createStatement (h : SessionHandle)
  /-- A statement of a stored session that the table does not hold. -/
  | newStatement (h : SessionHandle)
  | call (h : SessionHandle) (c : SessionCall τ)
  | exchange (k : StatementHandle) (request : Bytes)
  | freeStatement (k : StatementHandle)
  | freeSession (h : SessionHandle)

namespace Operation

open HandleTable

variable [Transport τ]

/-- Runs an operation. -/
def apply (op : Operation τ) (t : HandleTable τ) : Except HandleError (Reply τ) × HandleTable τ :=
  match op with
  | .alloc transport => (.ok (.session (t.alloc transport).1), (t.alloc transport).2)
  | .drawSession => (.ok (.session t.drawSession.1), t.drawSession.2)
  | .drawStatement => (.ok (.statement t.drawStatement.1), t.drawStatement.2)
  | .createStatement h => ((t.createStatement h).1.map .created, (t.createStatement h).2)
  | .newStatement h => ((t.newStatement h).1.map .detached, (t.newStatement h).2)
  | .call h c => t.onSession h c.run
  | .exchange k request => ((t.exchange k request).1.map .exchanged, (t.exchange k request).2)
  | .freeStatement k => ((t.freeStatement k).1.map fun _ => .freedStatement, (t.freeStatement k).2)
  | .freeSession h =>
    ((t.freeSession h).1.map fun p => .freedSession p.1 p.2, (t.freeSession h).2)

omit [Transport τ] in
/-- How many handles an operation draws. -/
def draws (op : Operation τ) (t : HandleTable τ) : Nat :=
  match op with
  | .alloc _ => 1
  | .drawSession => 1
  | .drawStatement => 1
  | .createStatement h => if (find? h t.sessions).isSome then 1 else 0
  | .newStatement h => if (find? h t.sessions).isSome then 1 else 0
  | _ => 0

end Operation

namespace HandleTable

/-! ## What the operations of a table do -/

section

variable {α : Type} {t : HandleTable τ} {h : SessionHandle} {k : StatementHandle} {s : Session τ}
  {st : Statement}

theorem session_eq_ok_iff : t.session h = .ok s ↔ find? h t.sessions = some s := by
  unfold session
  cases find? h t.sessions <;> simp

theorem session_of_none (hs : find? h t.sessions = none) :
    t.session h = .error (.invalidConnection h.id) := by
  simp only [session, hs]

theorem statement_eq_ok_iff : t.statement k = .ok st ↔ find? k t.statements = some st := by
  unfold statement
  cases find? k t.statements <;> simp

theorem statement_of_none (hst : find? k t.statements = none) :
    t.statement k = .error (.invalidStatement k.id) := by
  simp only [statement, hst]

theorem onSession_of_some (op : Session τ → α × Session τ) (hs : find? h t.sessions = some s) :
    t.onSession h op =
      (.ok (op s).1, { t with sessions := replace h (op s).2 t.sessions }) := by
  simp only [onSession, session, hs]

theorem onSession_of_none (op : Session τ → α × Session τ) (hs : find? h t.sessions = none) :
    t.onSession h op = (.error (.invalidConnection h.id), t) := by
  simp only [onSession, session, hs]

theorem newStatement_of_some (hs : find? h t.sessions = some s) :
    t.newStatement h =
      (.ok (.ofOutcome (.ok { handle := ⟨t.handles.next⟩, creator := s.handle })),
        { t with handles := t.handles.draw.2, sessions := replace h s.cleared t.sessions }) := by
  have hdrawn : find? h t.drawStatement.2.sessions = some s := hs
  simp only [newStatement, session, hs]
  exact onSession_of_some _ hdrawn

theorem newStatement_of_none (hs : find? h t.sessions = none) :
    t.newStatement h = (.error (.invalidConnection h.id), t) := by
  simp only [newStatement, session, hs]

theorem createStatement_of_some (hs : find? h t.sessions = some s) :
    t.createStatement h =
      (.ok (.ofOutcome (.ok ⟨t.handles.next⟩)),
        { handles := t.handles.draw.2
          sessions := replace h s.cleared t.sessions
          statements :=
            (⟨t.handles.next⟩, { handle := ⟨t.handles.next⟩, creator := s.handle }) ::
              t.statements }) := by
  simp only [createStatement, newStatement_of_some hs]
  rfl

theorem createStatement_of_none (hs : find? h t.sessions = none) :
    t.createStatement h = (.error (.invalidConnection h.id), t) := by
  simp only [createStatement, newStatement_of_none hs]

theorem freeStatement_of_some (hst : find? k t.statements = some st) :
    t.freeStatement k = (.ok (), { t with statements := remove k t.statements }) := by
  simp only [freeStatement, statement, hst]

theorem freeStatement_of_none (hst : find? k t.statements = none) :
    t.freeStatement k = (.error (.invalidStatement k.id), t) := by
  simp only [freeStatement, statement, hst]

variable [Transport τ]

theorem exchange_of_some (request : Bytes) (hst : find? k t.statements = some st)
    (hs : find? st.creator t.sessions = some s) :
    t.exchange k request =
      (.ok (st.exchange s request).1,
        { t with
          sessions := replace st.creator (st.exchange s request).2.2 t.sessions
          statements := replace k (st.exchange s request).2.1 t.statements }) := by
  simp only [exchange, statement, session, hst, hs]
  rfl

theorem exchange_of_none (request : Bytes) (hst : find? k t.statements = none) :
    t.exchange k request = (.error (.invalidStatement k.id), t) := by
  simp only [exchange, statement, hst]

theorem exchange_of_no_creator (request : Bytes) (hst : find? k t.statements = some st)
    (hs : find? st.creator t.sessions = none) :
    t.exchange k request = (.error (.invalidConnection st.creator.id), t) := by
  simp only [exchange, statement, session, hst, hs]

theorem freeSession_of_some (hs : find? h t.sessions = some s) :
    t.freeSession h =
      (.ok (t.statements.length - (t.statements.filter fun e => decide (e.2.creator ≠ h)).length,
          s.close.2.transport),
        { t with
          sessions := remove h t.sessions
          statements := t.statements.filter fun e => decide (e.2.creator ≠ h) }) := by
  simp only [freeSession, session, hs]

theorem freeSession_of_none (hs : find? h t.sessions = none) :
    t.freeSession h = (.error (.invalidConnection h.id), t) := by
  simp only [freeSession, session, hs]

end

/-! ## Steps -/

/-- The table that an operation leaves: as it was where the operation is refused, otherwise changed
at the entries that it was given. -/
inductive Step [Transport τ] (t : HandleTable τ) : Operation τ → HandleTable τ → Prop
  | refused {op : Operation τ} : op.draws t = 0 → Step t op t
  | alloc (transport : τ) :
      Step t (.alloc transport)
        { t with
          handles := t.handles.draw.2
          sessions :=
            (⟨t.handles.next⟩, { handle := ⟨t.handles.next⟩, transport }) :: t.sessions }
  | drawSession : Step t .drawSession { t with handles := t.handles.draw.2 }
  | drawStatement : Step t .drawStatement { t with handles := t.handles.draw.2 }
  | createStatement {h : SessionHandle} {s : Session τ} (hs : find? h t.sessions = some s) :
      Step t (.createStatement h)
        { handles := t.handles.draw.2
          sessions := replace h s.cleared t.sessions
          statements :=
            (⟨t.handles.next⟩, { handle := ⟨t.handles.next⟩, creator := s.handle }) ::
              t.statements }
  | newStatement {h : SessionHandle} {s : Session τ} (hs : find? h t.sessions = some s) :
      Step t (.newStatement h)
        { t with handles := t.handles.draw.2, sessions := replace h s.cleared t.sessions }
  | call {h : SessionHandle} {s : Session τ} (c : SessionCall τ)
      (hs : find? h t.sessions = some s) :
      Step t (.call h c) { t with sessions := replace h (c.run s).2 t.sessions }
  | exchange {k : StatementHandle} {st : Statement} {s : Session τ} (request : Bytes)
      (hst : find? k t.statements = some st) (hs : find? st.creator t.sessions = some s) :
      Step t (.exchange k request)
        { t with
          sessions := replace st.creator (st.exchange s request).2.2 t.sessions
          statements := replace k (st.exchange s request).2.1 t.statements }
  | freeStatement (k : StatementHandle) :
      Step t (.freeStatement k) { t with statements := remove k t.statements }
  | freeSession (h : SessionHandle) :
      Step t (.freeSession h)
        { t with
          sessions := remove h t.sessions
          statements := t.statements.filter fun e => decide (e.2.creator ≠ h) }

/-- **Steps.**  What each operation does to a table. -/
theorem step_apply [Transport τ] (op : Operation τ) (t : HandleTable τ) :
    Step t op (op.apply t).2 := by
  cases op with
  | alloc transport => exact .alloc transport
  | drawSession => exact .drawSession
  | drawStatement => exact .drawStatement
  | createStatement h =>
    show Step t (.createStatement h) (t.createStatement h).2
    cases hs : find? h t.sessions with
    | none =>
      rw [createStatement_of_none hs]
      exact .refused (by simp [Operation.draws, hs])
    | some s =>
      rw [createStatement_of_some hs]
      exact .createStatement hs
  | newStatement h =>
    show Step t (.newStatement h) (t.newStatement h).2
    cases hs : find? h t.sessions with
    | none =>
      rw [newStatement_of_none hs]
      exact .refused (by simp [Operation.draws, hs])
    | some s =>
      rw [newStatement_of_some hs]
      exact .newStatement hs
  | call h c =>
    show Step t (.call h c) (t.onSession h c.run).2
    cases hs : find? h t.sessions with
    | none =>
      rw [onSession_of_none _ hs]
      exact .refused rfl
    | some s =>
      rw [onSession_of_some _ hs]
      exact .call c hs
  | exchange k request =>
    show Step t (.exchange k request) (t.exchange k request).2
    cases hst : find? k t.statements with
    | none =>
      rw [exchange_of_none request hst]
      exact .refused rfl
    | some st =>
      cases hs : find? st.creator t.sessions with
      | none =>
        rw [exchange_of_no_creator request hst hs]
        exact .refused rfl
      | some s =>
        rw [exchange_of_some request hst hs]
        exact .exchange request hst hs
  | freeStatement k =>
    show Step t (.freeStatement k) (t.freeStatement k).2
    cases hst : find? k t.statements with
    | none =>
      rw [freeStatement_of_none hst]
      exact .refused rfl
    | some st =>
      rw [freeStatement_of_some hst]
      exact .freeStatement k
  | freeSession h =>
    show Step t (.freeSession h) (t.freeSession h).2
    cases hs : find? h t.sessions with
    | none =>
      rw [freeSession_of_none hs]
      exact .refused rfl
    | some s =>
      rw [freeSession_of_some hs]
      exact .freeSession h

/-! ## Edits -/

/-- One edit of a table, with the number of handles it draws. -/
inductive Edit : HandleTable τ → HandleTable τ → Nat → Prop
  | draw (t : HandleTable τ) : Edit t { t with handles := t.handles.draw.2 } 1
  | addSession (t : HandleTable τ) (transport : τ) :
      Edit t
        { t with
          handles := t.handles.draw.2
          sessions :=
            (⟨t.handles.next⟩, { handle := ⟨t.handles.next⟩, transport }) :: t.sessions } 1
  | addStatement {t : HandleTable τ} {h : SessionHandle} {s : Session τ} :
      find? h t.sessions = some s →
      Edit t
        { t with
          handles := t.handles.draw.2
          statements :=
            (⟨t.handles.next⟩, { handle := ⟨t.handles.next⟩, creator := s.handle }) ::
              t.statements } 1
  | setSession {t : HandleTable τ} {h : SessionHandle} {s s' : Session τ} :
      find? h t.sessions = some s → s'.handle = s.handle →
      Edit t { t with sessions := replace h s' t.sessions } 0
  | setStatement {t : HandleTable τ} {k : StatementHandle} {st st' : Statement} :
      find? k t.statements = some st → st'.handle = st.handle → st'.creator = st.creator →
      Edit t { t with statements := replace k st' t.statements } 0
  | dropStatement (t : HandleTable τ) (k : StatementHandle) :
      Edit t { t with statements := remove k t.statements } 0
  | dropSession (t : HandleTable τ) (h : SessionHandle) :
      Edit t
        { t with
          sessions := remove h t.sessions
          statements := t.statements.filter fun e => decide (e.2.creator ≠ h) } 0

/-- Edits in a row, with the number of handles they draw together. -/
inductive Edits : HandleTable τ → HandleTable τ → Nat → Prop
  | refl (t : HandleTable τ) : Edits t t 0
  | tail {t t' t'' : HandleTable τ} {m n : Nat} :
      Edits t t' m → Edit t' t'' n → Edits t t'' (m + n)

theorem Edits.single {t t' : HandleTable τ} {n : Nat} (h : Edit t t' n) : Edits t t' n := by
  have hrow := (Edits.refl t).tail h
  rwa [Nat.zero_add] at hrow

theorem Edits.trans {t t' t'' : HandleTable τ} {m n : Nat} (h : Edits t t' m)
    (h' : Edits t' t'' n) : Edits t t'' (m + n) := by
  induction h' with
  | refl => exact h
  | tail _ hedit ih =>
    rw [← Nat.add_assoc]
    exact ih.tail hedit

variable [Transport τ]

/-- The table after a run. -/
def run (t : HandleTable τ) (ops : List (Operation τ)) : HandleTable τ :=
  ops.foldl (fun t op => (op.apply t).2) t

theorem run_cons (t : HandleTable τ) (op : Operation τ) (ops : List (Operation τ)) :
    t.run (op :: ops) = (op.apply t).2.run ops := rfl

/-- How many handles a run draws. -/
def drawn : HandleTable τ → List (Operation τ) → Nat
  | _, [] => 0
  | t, op :: ops => op.draws t + drawn (op.apply t).2 ops

/-- **Operations.**  The edits of each; one that is refused has none. -/
theorem edits_apply (op : Operation τ) (t : HandleTable τ) :
    Edits t (op.apply t).2 (op.draws t) := by
  have hstep := step_apply op t
  generalize (op.apply t).2 = t' at hstep ⊢
  cases hstep with
  | refused hdraws =>
    rw [hdraws]
    exact .refl t
  | alloc transport => exact .single (.addSession t transport)
  | drawSession => exact .single (.draw t)
  | drawStatement => exact .single (.draw t)
  | @createStatement h s hs =>
    have hdraws : (Operation.createStatement h).draws t = 1 := by simp [Operation.draws, hs]
    have hset : Edit t { t with sessions := replace h s.cleared t.sessions } 0 :=
      .setSession hs rfl
    have hfound : find? h (replace h s.cleared t.sessions) = some s.cleared :=
      find?_replace_self s.cleared hs
    rw [hdraws]
    exact (Edits.single hset).tail (.addStatement hfound)
  | @newStatement h s hs =>
    have hdraws : (Operation.newStatement h).draws t = 1 := by simp [Operation.draws, hs]
    have hset : Edit t { t with sessions := replace h s.cleared t.sessions } 0 :=
      .setSession hs rfl
    rw [hdraws]
    exact (Edits.single hset).tail (.draw _)
  | @call h s c hs => exact .single (.setSession hs (c.handle_run s))
  | @exchange k st s request hst hs =>
    have hset := Edit.setSession hs (s.handle_statementExchange st request)
    refine (Edits.single hset).tail (?_ : Edit _ { t with
      sessions := replace st.creator (st.exchange s request).2.2 t.sessions
      statements := replace k (st.exchange s request).2.1 t.statements } 0)
    exact .setStatement hst rfl rfl
  | freeStatement k => exact .single (.dropStatement t k)
  | freeSession h => exact .single (.dropSession t h)

/-- **Runs.** -/
theorem edits_run (t : HandleTable τ) (ops : List (Operation τ)) :
    Edits t (t.run ops) (t.drawn ops) := by
  induction ops generalizing t with
  | nil => exact .refl t
  | cons op ops ih => exact (edits_apply op t).trans (ih (op.apply t).2)

theorem drawn_append (t : HandleTable τ) (ops more : List (Operation τ)) :
    t.drawn (ops ++ more) = t.drawn ops + (t.run ops).drawn more := by
  induction ops generalizing t with
  | nil => exact (Nat.zero_add _).symm
  | cons op ops ih =>
    show op.draws t + (op.apply t).2.drawn (ops ++ more) = op.draws t + (op.apply t).2.drawn ops + _
    rw [ih, Nat.add_assoc]
    rfl

end HandleTable

end SqlSession
