import SqlSession.Proofs.Diagnostic
import SqlSession.Proofs.HandleTable.Freed
/-!
# What calls and exchanges report

Every call of a session reports in one of three ways, whatever earlier calls left in the log:

    it fails           →  error, no value, the one record of the error that occurred
    it cuts a text     →  success with info, one warning
    neither            →  success, no record

The records are the log of the session from then on, and neither transfers nor changes of the
transport touch it.  An exchange of a statement reports in the same way, and never warns; its
records are the log of the statement until its next exchange.

* `Call.reports`, `Statement.reports`: the result of a call or an exchange, and the log it leaves.
* `Session.diagnostics_after`: transfers leave the log of the session alone.
* `HandleTable.statement_of_run`: a run without an exchange of a statement leaves it alone.
* `calls_report`: all of it.
-/

namespace SqlSession

/-! ## Calls -/

/-- The calls of a session that report a result, by the type of their value. -/
inductive Call : Type → Type where
  | establish (c : Configuration) : Call Unit
  | establishWith (text : String) : Call Unit
  | release : Call Unit
  | close : Call Unit
  | createStatement (handle : StatementHandle) : Call Statement
  | getInfo (number : UInt16) (buffer : Bytes) : Call Nat
  | getAttribute (id : Int32) (buffer : Option Bytes) : Call Nat
  | setAttribute (id : Int32) (value : Bytes) : Call Unit
  | commit : Call Unit
  | rollback : Call Unit

namespace Call

variable {τ : Type} [Transport τ] {α : Type}

/-- Runs a call: its result, and the session it leaves. -/
def run : Call α → Session τ → CallResult α × Session τ
  | .establish c, s => s.establish c
  | .establishWith text, s => s.establishWith text
  | .release, s => s.release
  | .close, s => s.close
  | .createStatement handle, s => s.createStatement handle
  | .getInfo number buffer, s => ((s.getInfo number buffer).1.1, (s.getInfo number buffer).2)
  | .getAttribute id buffer, s => ((s.getAttribute id buffer).1.1, (s.getAttribute id buffer).2)
  | .setAttribute id value, s => s.setAttribute id value
  | .commit, s => s.commit
  | .rollback, s => s.rollback

/-- What a call comes to: its value, or the error that occurs. -/
def outcome : Call α → Session τ → Except DriverError α
  | .establish c, s => (s.start c).1
  | .establishWith text, s =>
    match Configuration.ofConnectString text with
    | .error e => .error (.general e.message)
    | .ok c => (s.start c).1
  | .release, s =>
    if s.isConnected then .ok () else .error (.notConnected "Connection is not open.")
  | .close, _ => .ok ()
  | .createStatement handle, s => .ok { handle, creator := s.handle }
  | .getInfo number buffer, s =>
    (Info.write s.configuration (s.negotiated.getD s.codec.version) number buffer).1.map (·.length)
  | .getAttribute id buffer, s => (s.readAttribute id buffer).1
  | .setAttribute id _, _ =>
    .error (if id = connectionDead then .optionTypeOutOfRange "Attribute is read only."
      else .notImplemented "Specified attribute is not supported.")
  | .commit, _ => .ok ()
  | .rollback, _ => .error (.notImplemented "Rollback operation is not supported.")

/-- A call asks for a text, with a buffer that is not empty but too short for it and its NUL. -/
def Cuts : Call α → Session τ → Prop
  | .getInfo number buffer, s =>
    ∃ text, Info.value? s.configuration (s.negotiated.getD s.codec.version) number =
        some (.text text) ∧
      0 < buffer.length ∧ buffer.length < (Bytes.utf8 text).length + 1
  | _, _ => False

end Call

/-! ## Results -/

/-- A result reports an outcome: a failure with the record of its error, a text that was cut with a
warning, all else with no record. -/
structure CallResult.Faithful {α : Type} (r : CallResult α) (outcome : Except DriverError α)
    (cut : Prop) : Prop where
  error_iff : r.status = .error ↔ r.value = none
  done_iff : ∀ value, r.value = some value ↔ outcome = .ok value
  failed : ∀ e, outcome = .error e → r.records = [{ state := e.state, message := e.message }]
  info_iff : r.status = .successWithInfo ↔ cut
  warned : cut → ∃ record, r.records = [record] ∧ record.state = .dataTruncated
  clean : r.status = .success → r.records = []

theorem CallResult.faithful_ofOutcome {α : Type} (outcome : Except DriverError α) {cut : Prop}
    (h : ¬ cut) : (CallResult.ofOutcome outcome).Faithful outcome cut := by
  cases outcome with
  | ok value => constructor <;> simp [ofOutcome, h]
  | error e => constructor <;> simp [ofOutcome, DiagnosticRecord.ofError, h]

/-! ## What calls report -/

/-- Writing succeeds with a text that is cut exactly where the buffer is not empty and too short. -/
theorem Info.truncated_iff (c : Configuration) (v : Version) (number : UInt16) (buffer : Bytes) :
    (∃ w, (Info.write c v number buffer).1 = .ok w ∧ w.truncated = true) ↔
      ∃ text, Info.value? c v number = some (.text text) ∧ 0 < buffer.length ∧
        buffer.length < (Bytes.utf8 text).length + 1 := by
  have hinteger (bytes : Bytes) (w : InfoWritten)
      (h : (Info.writeInteger bytes buffer).1 = .ok w) : w.truncated = false := by
    unfold Info.writeInteger at h
    split at h
    · simp at h
    · rw [← Except.ok.inj h]
  rcases hvalue : Info.value? c v number with _ | ⟨text⟩ | n | n
  · simp [Info.write, hvalue]
  · simp only [Info.write, hvalue, Except.ok.injEq, exists_eq_left', Option.some.injEq,
      InfoValue.text.injEq]
    unfold Info.writeText
    rcases hroom : buffer.length with _ | room
    · simp
    · dsimp only
      rw [decide_eq_true_iff]
      omega
  · simpa [Info.write, hvalue] using hinteger (Bytes.littleEndian 2 n.toNat)
  · simpa [Info.write, hvalue] using hinteger (Bytes.littleEndian 4 n.toNat)

namespace Session

variable {τ : Type} [Transport τ] {α : Type}

/-- What an attempt comes to does not depend on the log. -/
theorem start_cleared (s : Session τ) (c : Configuration) :
    (s.cleared.start c).1 = (s.start c).1 := by
  have hcheck : s.cleared.check c = s.check c := rfl
  unfold start
  rw [hcheck]
  rcases s.check c with e | ⟨endpoint, request⟩
  · rfl
  · unfold connect
    dsimp only [cleared]
    rcases Transport.connect (Transport.setConnectTimeout s.transport c.connectTimeout)
      endpoint.host endpoint.port with ⟨cause | opened, t⟩
    · rfl
    · dsimp only
      rcases Negotiation.negotiate t s.codec request with ⟨e | version, t'⟩
      · rfl
      · rfl

omit [Transport τ] in
/-- A call whose operation logs nothing reports what the operation comes to. -/
theorem call_reports (s : Session τ) (op : Session τ → Except DriverError α × Session τ)
    (hlog : (op s.cleared).2.diagnostics = {}) {cut : Prop} (hcut : ¬ cut) :
    (s.call op).1.Faithful (op s.cleared).1 cut ∧
      (s.call op).2.diagnostics.Shows (s.call op).1.records := by
  rw [call_eq s op hlog]
  exact ⟨CallResult.faithful_ofOutcome _ hcut, Diagnostics.shows_records _⟩

omit [Transport τ] in
/-- A call whose operation logs one warning succeeds with info. -/
theorem call_warns (s : Session τ) (op : Session τ → Except DriverError α × Session τ) {value : α}
    {s' : Session τ} {cut : Prop} (hop : op s.cleared = (.ok value, s')) (text : String)
    (hlog : s'.diagnostics = ⟨[{ state := .dataTruncated, message := text }]⟩) (hcut : cut) :
    (s.call op).1.Faithful (.ok value) cut ∧
      (s.call op).2.diagnostics.Shows (s.call op).1.records := by
  have hclear : { s with diagnostics := s.diagnostics.clear } = s.cleared := rfl
  simp only [call, hclear, hop, hlog, Diagnostics.complete]
  refine ⟨?_, Diagnostics.shows_records _⟩
  constructor <;> simp [hcut, eq_comm]

theorem getInfo_reports (s : Session τ) (number : UInt16) (buffer : Bytes) :
    ((Call.getInfo number buffer).run s).1.Faithful ((Call.getInfo number buffer).outcome s)
        ((Call.getInfo number buffer).Cuts s) ∧
      ((Call.getInfo number buffer).run s).2.diagnostics.Shows
        ((Call.getInfo number buffer).run s).1.records := by
  have hcuts := Info.truncated_iff s.configuration (s.negotiated.getD s.codec.version) number buffer
  show (s.getInfo number buffer).1.1.Faithful _ _ ∧
    (s.getInfo number buffer).2.diagnostics.Shows (s.getInfo number buffer).1.1.records
  unfold Call.outcome Call.Cuts getInfo
  dsimp only
  rcases hwrite : (Info.write s.configuration (s.negotiated.getD s.codec.version) number buffer).1
    with e | w
  · rw [hwrite] at hcuts
    refine s.call_reports (fun s => (.error e, s)) rfl fun hcut => ?_
    simpa using hcuts.2 hcut
  · rw [hwrite] at hcuts
    simp only [Except.ok.injEq, exists_eq_left'] at hcuts
    dsimp only [Except.map]
    rcases htruncated : w.truncated with _ | _
    · refine s.call_reports (fun s => (.ok w.length, s)) rfl fun hcut => ?_
      exact absurd (hcuts.2 hcut) (by simp [htruncated])
    · exact s.call_warns (fun s => (.ok w.length,
        { s with diagnostics := s.diagnostics.warn .dataTruncated truncationText })) rfl
        truncationText rfl (hcuts.1 htruncated)

end Session

namespace Call

variable {τ : Type} [Transport τ] {α : Type}

/-- **Calls.**  The result of a call reports what it comes to, and the log shows its records. -/
theorem reports (call : Call α) (s : Session τ) :
    (call.run s).1.Faithful (call.outcome s) (call.Cuts s) ∧
      (call.run s).2.diagnostics.Shows (call.run s).1.records := by
  cases call with
  | establish c =>
    have h := s.call_reports (fun s => s.start c) (s.cleared.diagnostics_start c) not_false
    rw [s.start_cleared c] at h
    exact h
  | establishWith text =>
    unfold run outcome Session.establishWith
    dsimp only
    cases Configuration.ofConnectString text with
    | error e => exact s.call_reports _ rfl not_false
    | ok c =>
      have h := s.call_reports (fun s => s.start c) (s.cleared.diagnostics_start c) not_false
      rw [s.start_cleared c] at h
      exact h
  | release => exact s.call_reports _ rfl not_false
  | close => exact s.call_reports _ rfl not_false
  | createStatement handle => exact s.call_reports _ rfl not_false
  | getInfo number buffer => exact s.getInfo_reports number buffer
  | getAttribute id buffer =>
    exact s.call_reports (fun s' => ((s.readAttribute id buffer).1, s')) rfl not_false
  | setAttribute id value =>
    unfold run outcome Session.setAttribute
    by_cases hid : id = connectionDead
    · simp only [hid, if_true]
      exact s.call_reports _ rfl not_false
    · simp only [hid, if_false]
      exact s.call_reports _ rfl not_false
  | commit => exact s.call_reports _ rfl not_false
  | rollback => exact s.call_reports _ rfl not_false

end Call

/-! ## What stays -/

/-- What is done to a session, or to its transport, without a result of the session's own. -/
def SessionCall.IsTransfer {τ : Type} : SessionCall τ → Prop
  | .send _ => True
  | .receive => True
  | .exchange _ => True
  | .statementExchange _ _ => True
  | .onTransport _ => True
  | _ => False

namespace Session

variable {τ : Type} [Transport τ] {α : Type}

/-- The session after calls in a row. -/
def after (s : Session τ) (calls : List (SessionCall τ)) : Session τ :=
  calls.foldl (fun s c => (c.run s).2) s

theorem diagnostics_transfer (s : Session τ) (op : τ → Except DriverError α × τ) :
    (s.transfer op).2.diagnostics = s.diagnostics := by
  unfold transfer
  by_cases hs : s.isConnected = true
  · rw [if_pos hs]
    unfold trackLink
    rcases op s.transport with ⟨e | value, t⟩
    · dsimp only
      split
      · rfl
      · rfl
    · rfl
  · rw [if_neg hs]

theorem diagnostics_exchange (s : Session τ) (request : Bytes) :
    (s.exchange request).2.diagnostics = s.diagnostics := by
  have hsend : (s.send request).2.diagnostics = s.diagnostics := s.diagnostics_transfer _
  unfold exchange
  rcases hsent : s.send request with ⟨e | done, s'⟩
  · rw [hsent] at hsend
    exact hsend
  · rw [hsent] at hsend
    exact (s'.diagnostics_transfer _).trans hsend

/-- **Steps.**  A transfer leaves the log alone, whoever asks for it. -/
theorem diagnostics_transferred (c : SessionCall τ) (hc : c.IsTransfer) (s : Session τ) :
    (c.run s).2.diagnostics = s.diagnostics := by
  cases c with
  | send payload => exact s.diagnostics_transfer _
  | receive => exact s.diagnostics_transfer _
  | exchange request => exact s.diagnostics_exchange request
  | statementExchange st request =>
    show (st.exchange s request).2.2.diagnostics = s.diagnostics
    by_cases h : s.handle = st.creator
    · rw [st.exchange_of_creator s request h]
      exact s.diagnostics_exchange request
    · rw [st.exchange_of_foreign s request h]
  | onTransport change => rfl
  | _ => exact hc.elim

theorem diagnostics_after (calls : List (SessionCall τ)) (hcalls : ∀ c ∈ calls, c.IsTransfer)
    (s : Session τ) : (s.after calls).diagnostics = s.diagnostics := by
  induction calls generalizing s with
  | nil => rfl
  | cons c cs ih =>
    show ((c.run s).2.after cs).diagnostics = s.diagnostics
    rw [ih fun c' hc' => hcalls c' (List.mem_cons_of_mem c hc')]
    exact diagnostics_transferred c (hcalls c List.mem_cons_self) s

end Session

/-! ## Statements -/

/-- What an exchange of a statement comes to over a session. -/
def Statement.outcome {τ : Type} [Transport τ] (st : Statement) (s : Session τ) (request : Bytes) :
    Except DriverError Bytes :=
  if s.handle = st.creator then (s.exchange request).1 else .error (st.foreign s.handle)

/-- An exchange reports what it comes to, and the log of the statement shows its records. -/
theorem Statement.reports {τ : Type} [Transport τ] (st : Statement) (s : Session τ)
    (request : Bytes) :
    (st.exchange s request).1.Faithful (st.outcome s request) False ∧
      (st.exchange s request).2.1.diagnostics.Shows (st.exchange s request).1.records := by
  unfold outcome
  by_cases h : s.handle = st.creator
  · rw [st.exchange_of_creator s request h, if_pos h]
    exact ⟨CallResult.faithful_ofOutcome _ not_false, Diagnostics.shows_records _⟩
  · rw [st.exchange_of_foreign s request h, if_neg h]
    have hfaithful := CallResult.faithful_ofOutcome (α := Bytes) (.error (st.foreign s.handle))
      not_false
    exact ⟨hfaithful, Diagnostics.shows_records _⟩

/-- An operation is an exchange of a statement. -/
def Operation.Exchanges {τ : Type} (op : Operation τ) (k : StatementHandle) : Prop :=
  ∃ request, op = .exchange k request

namespace HandleTable

variable {τ : Type} [Transport τ] {k : StatementHandle} {st : Statement}

/-- **Steps.**  A statement that is stored after an operation that is no exchange of it, and whose
number was not drawn by it, was stored as it is. -/
theorem statement_of_apply {t : HandleTable τ} (op : Operation τ) (ht : t.Tidy)
    (hop : ¬ op.Exchanges k) (hold : op.draws t = 1 → k.id ≠ t.handles.next)
    (h : find? k (op.apply t).2.statements = some st) : find? k t.statements = some st := by
  have hstep := step_apply op t
  generalize (op.apply t).2 = t' at hstep h
  cases hstep with
  | @createStatement owner s hs =>
    have hdraws : (Operation.createStatement owner).draws t = 1 := by simp [Operation.draws, hs]
    have hne : (⟨t.handles.next⟩ : StatementHandle) ≠ k := fun heq => hold hdraws (heq ▸ rfl)
    rw [find?_cons, if_neg hne] at h
    exact h
  | @exchange k' st' s request hst hs =>
    have hne : k ≠ k' := fun heq => hop ⟨request, heq ▸ rfl⟩
    rw [find?_replace, if_neg hne] at h
    exact h
  | freeStatement k' =>
    rw [find?_remove] at h
    split at h
    · simp at h
    · exact h
  | freeSession owner =>
    rw [find?_filter ht.unique_statements, Option.filter_eq_some_iff] at h
    exact h.1
  -- no other operation touches the statements
  | _ => exact h

/-- **Runs.**  As long as the numbers last, a statement that is stored after a run without an
exchange of it is as it was. -/
theorem statement_of_run {t : HandleTable τ} {n : Nat} (ops : List (Operation τ)) (ht : t.Tidy)
    (hn : t.Numbered n) (hfew : n + t.drawn ops < UInt64.size) (hk : k.id.toNat ≤ n)
    (hops : ∀ op ∈ ops, ¬ op.Exchanges k)
    (h : find? k (t.run ops).statements = some st) : find? k t.statements = some st := by
  induction ops generalizing t n with
  | nil => exact h
  | cons op ops ih =>
    have hdrawn : t.drawn (op :: ops) = op.draws t + (op.apply t).2.drawn ops := rfl
    rw [hdrawn] at hfew
    obtain ⟨ht', hn'⟩ := tidy_edits (edits_apply op t) (by omega) hn ht
    have hnext := ih ht' hn' (by omega) (by omega)
      (fun op' hop' => hops op' (List.mem_cons_of_mem op hop')) h
    refine statement_of_apply op ht (hops op List.mem_cons_self) (fun hdraws heq => ?_) hnext
    -- a number that is drawn now is larger than all that were drawn before
    have hlarger := hn.toNat_next (by omega)
    rw [← heq] at hlarger
    omega

/-- What an exchange reports is in the log of its statement after any run without another one. -/
theorem exchange_shows (ops later : List (Operation τ)) {request : Bytes} {r : CallResult Bytes}
    (hfew : ({} : HandleTable τ).drawn (ops ++ .exchange k request :: later) < UInt64.size)
    (hlater : ∀ op ∈ later, ¬ op.Exchanges k)
    (hr : ((({} : HandleTable τ).run ops).exchange k request).1 = .ok r)
    (hst : (({} : HandleTable τ).run (ops ++ .exchange k request :: later)).statement k = .ok st) :
    st.diagnostics.Shows r.records := by
  have hall : ({} : HandleTable τ).drawn (ops ++ .exchange k request :: later) =
      ({} : HandleTable τ).drawn ops +
        ((Operation.exchange k request).apply (({} : HandleTable τ).run ops)).2.drawn later := by
    rw [drawn_append, drawn]
    exact congrArg (_ + ·) (Nat.zero_add _)
  rw [hall] at hfew
  rw [statement_eq_ok_iff, run_append_cons] at hst
  obtain ⟨ht, hn⟩ := tidy_of_run ops (by omega : ({} : HandleTable τ).drawn ops < UInt64.size)
  generalize ({} : HandleTable τ).run ops = t at hr hst ht hn hfew
  obtain ⟨ht', hn'⟩ := tidy_edits (edits_apply (.exchange k request) t)
    (by simp only [Operation.draws]; omega) hn ht
  cases hold : find? k t.statements with
  | none =>
    rw [exchange_of_none request hold] at hr
    simp at hr
  | some st₀ =>
    obtain ⟨s, hs⟩ := ht.creators _ (mem_of_find? hold)
    have hrun := exchange_of_some request hold (session_eq_ok_iff.1 hs)
    have happly : ((Operation.exchange k request).apply t).2 = (t.exchange k request).2 := rfl
    rw [hrun, Except.ok.injEq] at hr
    have hkept := statement_of_run later ht' hn' (by simp only [Operation.draws]; omega)
      (hn.drawn _ (mem_ids_of_statement hold)).2 hlater hst
    rw [happly, hrun] at hkept
    have hnew := find?_replace_self (st₀.exchange s request).2.1 hold
    obtain rfl := Option.some.inj (hnew.symm.trans hkept)
    rw [← hr]
    exact (st₀.reports s request).2

end HandleTable

/-- **Reports.**  Whatever is in the log before, a call reports what it comes to, and its records are
the log until the next call, whatever is transferred or done to the transport.  An exchange of a
statement does the same to the log of its statement, until the next exchange of it. -/
theorem calls_report {τ : Type} [Transport τ] :
    (∀ (α : Type) (call : Call α) (s : Session τ),
      (call.run s).1.Faithful (call.outcome s) (call.Cuts s) ∧
        ∀ later : List (SessionCall τ), (∀ c ∈ later, c.IsTransfer) →
          ((call.run s).2.after later).diagnostics.Shows (call.run s).1.records) ∧
    (∀ (st : Statement) (s : Session τ) (request : Bytes),
      (st.exchange s request).1.Faithful (st.outcome s request) False ∧
        (st.exchange s request).2.1.diagnostics.Shows (st.exchange s request).1.records) ∧
    ∀ (ops later : List (Operation τ)) (k : StatementHandle) (request : Bytes)
      (r : CallResult Bytes) (st : Statement),
      ({} : HandleTable τ).drawn (ops ++ .exchange k request :: later) < UInt64.size →
      (∀ op ∈ later, ¬ op.Exchanges k) →
      ((({} : HandleTable τ).run ops).exchange k request).1 = .ok r →
      (({} : HandleTable τ).run (ops ++ .exchange k request :: later)).statement k = .ok st →
      st.diagnostics.Shows r.records := by
  refine ⟨fun α call s => ?_, fun st s request => st.reports s request, ?_⟩
  · obtain ⟨hfaithful, hshows⟩ := call.reports s
    refine ⟨hfaithful, fun later hlater => ?_⟩
    rw [Session.diagnostics_after later hlater]
    exact hshows
  · intro ops later k request r st hfew hlater hr hst
    exact HandleTable.exchange_shows ops later hfew hlater hr hst

/-- A schema is asked for with a buffer that is too short, over a log that is not empty; a statement
of a session that is not connected is asked to exchange, then another one is. -/
theorem calls_report_truncated :
    let s : Session MemoryTransport :=
      { handle := ⟨1⟩, transport := {}, diagnostics := ⟨[.unknown]⟩ }
    let call := Call.getInfo 16 [0, 0, 0]
    let calls : List (SessionCall MemoryTransport) := [.receive, .onTransport MemoryTransport.close]
    let ops : List (Operation MemoryTransport) :=
      [.alloc {}, .createStatement ⟨1⟩, .createStatement ⟨1⟩]
    let later : List (Operation MemoryTransport) := [.exchange ⟨3⟩ [8], .call ⟨1⟩ .commit]
    let t := ({} : HandleTable MemoryTransport).run (ops ++ .exchange ⟨2⟩ [7] :: later)
    (∀ c ∈ calls, c.IsTransfer) ∧ call.Cuts s ∧ (call.run s).1.status = .successWithInfo ∧
      ((call.run s).2.after calls).diagnostics.Shows (call.run s).1.records ∧
      ({} : HandleTable MemoryTransport).drawn (ops ++ .exchange ⟨2⟩ [7] :: later) < UInt64.size ∧
      (∀ op ∈ later, ¬ op.Exchanges ⟨2⟩) ∧
      ∃ st, t.statement ⟨2⟩ = .ok st ∧ st.diagnostics.Shows
        [{ state := .notConnected, message := "Connection is not established" }] := by
  intro s call calls ops later t
  obtain ⟨hcalls, -, hexchanges⟩ := calls_report (τ := MemoryTransport)
  obtain ⟨hfaithful, hshows⟩ := hcalls Nat call s
  have htransfers : ∀ c ∈ calls, c.IsTransfer := by
    intro c hc
    rcases List.mem_cons.1 hc with rfl | hc
    · exact trivial
    · rw [List.mem_singleton.1 hc]
      exact trivial
  have hcuts : call.Cuts s := ⟨"PUBLIC", by decide +kernel, by decide, by decide +kernel⟩
  have hlater : ∀ op ∈ later, ¬ op.Exchanges ⟨2⟩ := by
    rintro op hop ⟨request, rfl⟩
    rcases List.mem_cons.1 hop with heq | hop
    · simp at heq
    · simp at hop
  exact ⟨htransfers, hcuts, hfaithful.info_iff.2 hcuts, hshows calls htransfers, by decide, hlater,
    _, rfl, hexchanges ops later ⟨2⟩ [7] _ _ (by decide) hlater rfl rfl⟩

end SqlSession
