import Mathlib.Data.List.Forall2
import SqlSession.Proofs.HandleTable.Report
import SqlSession.Proofs.Session.Refusal
import SqlSession.Proofs.Transport.Account
/-!
# What the transport of a session has sent

A statement is given a session for every exchange, and only its creator lets it through:

    another session    an error with one record of the general state; the session is as it was
    its creator        what an exchange of the session does; its error goes to the statement

So whatever is done to a table, what a session's transport has sent are the frames of the requests
of that session, in order, each of them or a front part of it.

* `SendLog`: a transport that remembers what it took.  `Sends`: what it took are front parts of the
  frames of some payloads.
* `sends_call`: the payloads of one call.  `sends_apply`: of one operation of a table.
* `statement_exchange_local`: the table, and runs.
-/

namespace SqlSession

/-! ## Transports that remember -/

section

variable {τ : Type} [Transport τ]

/-- What a transport has taken: a send adds the bytes it took, and nothing else touches it. -/
structure SendLog (τ : Type) [Transport τ] where
  /-- The bytes taken so far. -/
  sent : τ → Bytes
  send_ok : ∀ {t t' : τ} {bytes : Bytes} {n : Nat}, Transport.send t bytes = (.ok n, t') →
    sent t' = sent t ++ bytes.take n
  send_error : ∀ {t t' : τ} {bytes : Bytes} {e : LinkError},
    Transport.send t bytes = (.error e, t') → sent t' = sent t
  receive : ∀ (t : τ) (n : Nat), sent (Transport.receive t n).2 = sent t
  close : ∀ t : τ, sent (Transport.close t) = sent t
  connect : ∀ (t : τ) (host : String) (port : UInt16),
    sent (Transport.connect t host port).2 = sent t
  setConnectTimeout : ∀ (t : τ) (timeout : Option UInt64),
    sent (Transport.setConnectTimeout t timeout) = sent t

/-- Bytes that are a front part of the frame of a payload; none, if it has no frame. -/
def Frame.Cut (bytes payload : Bytes) : Prop :=
  bytes = [] ∨ ∃ frame, Frame.encode payload = .ok frame ∧ bytes <+: frame

/-- What a transport has taken since are front parts of the frames of payloads, in order. -/
def SendLog.Sends (log : SendLog τ) (t : τ) (payloads : List Bytes) (t' : τ) : Prop :=
  ∃ parts, List.Forall₂ Frame.Cut parts payloads ∧ log.sent t' = log.sent t ++ parts.flatten

namespace SendLog

variable {log : SendLog τ} {t t' t'' : τ} {payloads more : List Bytes}

/-- Whatever does not touch the log sends nothing, of any payloads. -/
theorem sends_nothing (payloads : List Bytes) (h : log.sent t' = log.sent t) :
    log.Sends t payloads t' := by
  induction payloads with
  | nil => exact ⟨[], .nil, by rw [h, List.flatten_nil, List.append_nil]⟩
  | cons payload payloads ih =>
    obtain ⟨parts, hcut, hsent⟩ := ih
    exact ⟨[] :: parts, .cons (.inl rfl) hcut, hsent⟩

theorem Sends.trans (h : log.Sends t payloads t') (h' : log.Sends t' more t'') :
    log.Sends t (payloads ++ more) t'' := by
  obtain ⟨parts, hcut, hsent⟩ := h
  obtain ⟨parts', hcut', hsent'⟩ := h'
  refine ⟨parts ++ parts', List.rel_append hcut hcut', ?_⟩
  rw [hsent', hsent, List.flatten_append, List.append_assoc]

/-- What comes after may leave the log alone. -/
theorem Sends.idle (h : log.Sends t payloads t') (hidle : log.sent t'' = log.sent t') :
    log.Sends t payloads t'' := by
  have hnone := h.trans (sends_nothing [] hidle)
  rwa [List.append_nil] at hnone

theorem sent_reception (log : SendLog τ) (h : Reception t t') : log.sent t' = log.sent t := by
  induction h with
  | refl => rfl
  | receive n _ ih => rw [log.receive, ih]
  | close _ ih => rw [log.close, ih]

/-! ## Frames -/

/-- Sending takes bytes from the front until it ends. -/
theorem sent_sendAll (log : SendLog τ) (t : τ) (data : Bytes) :
    ∃ part, part <+: data ∧ log.sent (Framing.sendAll t data).2 = log.sent t ++ part := by
  fun_induction Framing.sendAll t data with
  | case1 t => exact ⟨[], List.nil_prefix, (List.append_nil _).symm⟩
  | case2 t b bs n t' hs ih =>
    obtain ⟨part, ⟨rest, hrest⟩, hsent⟩ := ih
    refine ⟨b :: bs.take n ++ part, ⟨rest, ?_⟩, ?_⟩
    · rw [List.append_assoc, hrest, List.cons_append, List.take_append_drop]
    · rw [hsent, log.send_ok hs, List.append_assoc]
      rfl
  | case3 t b bs result t' hno hs =>
    refine ⟨[], List.nil_prefix, ?_⟩
    show log.sent (Transport.close t') = _
    rw [log.close, List.append_nil]
    cases result with
    | error e => exact log.send_error hs
    | ok n =>
      cases n with
      | zero => rw [log.send_ok hs, List.take_zero, List.append_nil]
      | succ n => exact absurd rfl (hno n)

theorem sends_send (log : SendLog τ) (t : τ) (payload : Bytes) :
    log.Sends t [payload] (Framing.send t payload).2 := by
  unfold Framing.send
  cases hframe : Frame.encode payload with
  | error e => exact sends_nothing _ rfl
  | ok frame =>
    obtain ⟨part, hpart, hsent⟩ := log.sent_sendAll t frame
    have hsends : log.Sends t [payload] (Framing.sendAll t frame).2 :=
      ⟨[part], .cons (.inr ⟨frame, hframe, hpart⟩) .nil, by
        rw [hsent, List.flatten_singleton]⟩
    dsimp only
    split
    · exact hsends
    · exact hsends

theorem sent_receive (log : SendLog τ) (t : τ) :
    log.sent (Framing.receive t).2 = log.sent t :=
  log.sent_reception (Framing.reception_receive (.refl t))

theorem sends_negotiate (log : SendLog τ) (t : τ) (codec : Codec) (request : Handshake.Request) :
    log.Sends t [request.encode] (Negotiation.negotiate t codec request).2 := by
  have hsend := log.sends_send t request.encode
  unfold Negotiation.negotiate
  rw [show codec.encodeRequest request = request.encode from rfl]
  rcases hsent : Framing.send t request.encode with ⟨e | done, t'⟩
  · rwa [hsent] at hsend
  · rw [hsent] at hsend
    have hreceive := log.sent_receive t'
    dsimp only
    rcases hreceived : Framing.receive t' with ⟨e | payload, t''⟩
    · rw [hreceived] at hreceive
      exact hsend.idle hreceive
    · rw [hreceived] at hreceive
      exact hsend.idle hreceive

end SendLog

end

/-! ## Calls of a session -/

section

variable {τ : Type} [Transport τ]

/-- The handshake request of an attempt that passes its checks. -/
def Session.handshake (s : Session τ) (c : Configuration) : List Bytes :=
  match s.check c with
  | .ok (_, request) => [request.encode]
  | .error _ => []

/-- The payloads that a call has for the transport of its session. -/
def SessionCall.payloads (call : SessionCall τ) (s : Session τ) : List Bytes :=
  match call with
  | .establish c => s.handshake c
  | .establishWith text =>
    match Configuration.ofConnectString text with
    | .ok c => s.handshake c
    | .error _ => []
  | .send payload => [payload]
  | .exchange request => [request]
  | .statementExchange st request => if s.handle = st.creator then [request] else []
  | _ => []

/-- A call that does not touch what was sent from outside. -/
def SessionCall.Quiet (log : SendLog τ) : SessionCall τ → Prop
  | .onTransport change => ∀ t, log.sent (change t) = log.sent t
  | _ => True

namespace Session

variable {log : SendLog τ}

theorem sends_start (log : SendLog τ) (s : Session τ) (c : Configuration) :
    log.Sends s.transport (s.handshake c) (s.start c).2.transport := by
  unfold handshake
  obtain ⟨e, hcheck, hstart⟩ | ⟨endpoint, request, hcheck, hrun⟩ := start_cases s c
  · rw [hcheck, hstart]
    exact SendLog.sends_nothing _ rfl
  · rw [hcheck]
    dsimp only
    have hconnected := log.connect (Transport.setConnectTimeout s.transport c.connectTimeout)
      endpoint.host endpoint.port
    rw [log.setConnectTimeout] at hconnected
    obtain ⟨cause, t, hconnect, hstart⟩ | ⟨t, hconnect, hrun⟩ := hrun
    · rw [hconnect] at hconnected
      rw [hstart]
      exact SendLog.sends_nothing _ hconnected
    · rw [hconnect] at hconnected
      have hsends := (SendLog.sends_nothing [] hconnected).trans
        (log.sends_negotiate t s.codec request)
      obtain ⟨e, t', hnegotiate, hstart⟩ | ⟨t', hnegotiate, hstart⟩ := hrun
      · rw [hnegotiate] at hsends
        rw [hstart]
        exact hsends.idle (log.close t')
      · rw [hnegotiate] at hsends
        rw [hstart]
        exact hsends

theorem sends_establish (log : SendLog τ) (s : Session τ) (c : Configuration) :
    log.Sends s.transport (s.handshake c) (s.establish c).2.transport := by
  rw [establish_eq]
  exact sends_start log s.cleared c

theorem sent_trackLink {α : Type} (s : Session τ) (outcome : Except DriverError α) :
    log.sent (s.trackLink outcome).2.transport = log.sent s.transport := by
  unfold trackLink
  cases outcome with
  | ok value => rfl
  | error e =>
    dsimp only
    split
    · exact log.close s.transport
    · rfl

theorem sends_transfer {α : Type} {payloads : List Bytes} (s : Session τ)
    (op : τ → Except DriverError α × τ)
    (hop : log.Sends s.transport payloads (op s.transport).2) :
    log.Sends s.transport payloads (s.transfer op).2.transport := by
  unfold transfer
  by_cases hs : s.isConnected = true
  · rw [if_pos hs]
    exact hop.idle (sent_trackLink _ _)
  · rw [if_neg hs]
    exact SendLog.sends_nothing _ rfl

theorem sends_send (log : SendLog τ) (s : Session τ) (payload : Bytes) :
    log.Sends s.transport [payload] (s.send payload).2.transport :=
  s.sends_transfer _ (log.sends_send s.transport payload)

theorem sends_receive (log : SendLog τ) (s : Session τ) :
    log.Sends s.transport [] s.receive.2.transport :=
  s.sends_transfer _ (SendLog.sends_nothing _ (log.sent_receive s.transport))

theorem sends_exchange (log : SendLog τ) (s : Session τ) (request : Bytes) :
    log.Sends s.transport [request] (s.exchange request).2.transport := by
  have hsend := sends_send log s request
  unfold exchange
  rcases hsent : s.send request with ⟨e | done, s'⟩
  · rwa [hsent] at hsend
  · rw [hsent] at hsend
    exact hsend.trans (sends_receive log s')

omit [Transport τ] in
theorem transport_call {α : Type} (s : Session τ) (op : Session τ → Except DriverError α × Session τ)
    (h : ∀ s, (op s).2.transport = s.transport) : (s.call op).2.transport = s.transport := h s.cleared

/-- **Calls.**  A call sends the frames of its own payloads, or front parts of them. -/
theorem sends_call (log : SendLog τ) (call : SessionCall τ) (hquiet : call.Quiet log)
    (s : Session τ) :
    log.Sends s.transport (call.payloads s) (call.run s).2.transport := by
  cases call with
  | establish c => exact sends_establish log s c
  | establishWith text =>
    show log.Sends s.transport
      (match Configuration.ofConnectString text with
        | .ok c => s.handshake c
        | .error _ => []) (s.establishWith text).2.transport
    rw [establishWith_eq]
    cases Configuration.ofConnectString text with
    | error e => exact SendLog.sends_nothing _ rfl
    | ok c => exact sends_establish log s c
  | send payload => exact sends_send log s payload
  | receive => exact sends_receive log s
  | exchange request => exact sends_exchange log s request
  | statementExchange st request =>
    show log.Sends s.transport (if s.handle = st.creator then [request] else [])
      (st.exchange s request).2.2.transport
    by_cases h : s.handle = st.creator
    · rw [if_pos h, st.exchange_of_creator s request h]
      exact sends_exchange log s request
    · rw [if_neg h, st.exchange_of_foreign s request h]
      exact SendLog.sends_nothing _ rfl
  | onTransport change => exact SendLog.sends_nothing _ (hquiet s.transport)
  | release => exact SendLog.sends_nothing _ (log.close s.transport)
  | close => exact SendLog.sends_nothing _ (log.close s.transport)
  | getInfo number buffer =>
    refine SendLog.sends_nothing _ (congrArg log.sent ?_)
    show (s.getInfo number buffer).2.transport = s.transport
    unfold getInfo
    dsimp only
    refine transport_call s _ fun s => ?_
    split
    · rfl
    · dsimp only
      split <;> rfl
  | setAttribute id value =>
    refine SendLog.sends_nothing _ (congrArg log.sent ?_)
    show (s.setAttribute id value).2.transport = s.transport
    refine transport_call s _ fun s => ?_
    split <;> rfl
  | _ => exact SendLog.sends_nothing _ rfl

end Session

/-! ## Runs of a table -/

/-- An operation that does not touch what was sent from outside. -/
def Operation.Quiet (log : SendLog τ) : Operation τ → Prop
  | .call _ c => c.Quiet log
  | _ => True

namespace HandleTable

/-- The payloads that an operation has for the transport of a session. -/
def payloads (h : SessionHandle) (t : HandleTable τ) (op : Operation τ) : List Bytes :=
  match op with
  | .call h' c =>
    match find? h t.sessions with
    | some s => if h' = h then c.payloads s else []
    | none => []
  | .exchange k request =>
    match find? k t.statements with
    | some st => if st.creator = h then [request] else []
    | none => []
  | _ => []

/-- The payloads that operations have for the transport of a session, in order. -/
def allPayloads (h : SessionHandle) : HandleTable τ → List (Operation τ) → List Bytes
  | _, [] => []
  | t, op :: ops => t.payloads h op ++ allPayloads h (op.apply t).2 ops

/-- Every session is stored under its own handle. -/
def Named (t : HandleTable τ) : Prop := ∀ e ∈ t.sessions, e.2.handle = e.1

theorem named_apply {t : HandleTable τ} (ht : t.Named) (op : Operation τ) :
    (op.apply t).2.Named := by
  have hedits : ∀ {t t' : HandleTable τ} {d : Nat}, Edits t t' d → t.Named → t'.Named := by
    intro t t' d h ht
    induction h with
    | refl => exact ht
    | tail _ hedit ih => exact sessions_edit hedit ih
  exact hedits (edits_apply op t) ht

/-- Where one session is changed, the others send nothing. -/
theorem sends_replace {log : SendLog τ} {t : HandleTable τ} {h h' : SessionHandle}
    {s s' s'' : Session τ} {payloads : List Bytes} (hs : find? h t.sessions = some s)
    (hsends : log.Sends s.transport payloads s''.transport)
    (hs' : find? h' (replace h s'' t.sessions) = some s') :
    ∃ s₀, find? h' t.sessions = some s₀ ∧
      log.Sends s₀.transport (if h = h' then payloads else []) s'.transport := by
  rw [find?_replace] at hs'
  by_cases hsame : h = h'
  · rw [if_pos hsame.symm, hs] at hs'
    obtain rfl := Option.some.inj hs'
    rw [if_pos hsame]
    exact ⟨s, hsame ▸ hs, hsends⟩
  · rw [if_neg (Ne.symm hsame)] at hs'
    rw [if_neg hsame]
    exact ⟨s', hs', SendLog.sends_nothing _ rfl⟩

/-- **Operations.**  A session that is stored afterwards was stored before, and its transport has
sent the frames of its own payloads, or front parts of them; or it is new. -/
theorem sends_apply (log : SendLog τ) {t : HandleTable τ} (ht : t.Named) (op : Operation τ)
    (hquiet : op.Quiet log) {h : SessionHandle} {s' : Session τ}
    (hs' : find? h (op.apply t).2.sessions = some s') :
    (∃ s, find? h t.sessions = some s ∧
        log.Sends s.transport (t.payloads h op) s'.transport) ∨
      ∃ transport, op = .alloc transport ∧ (t.alloc transport).1 = h ∧
        s'.transport = transport := by
  have hkept : ∀ payloads, find? h t.sessions = some s' →
      ∃ s, find? h t.sessions = some s ∧ log.Sends s.transport payloads s'.transport :=
    fun payloads hs => ⟨s', hs, SendLog.sends_nothing payloads rfl⟩
  -- creating a statement clears the log of its session
  have hcleared : ∀ {h₀ : SessionHandle} {s₀ : Session τ}, find? h₀ t.sessions = some s₀ →
      find? h (replace h₀ s₀.cleared t.sessions) = some s' →
      ∃ s, find? h t.sessions = some s ∧ log.Sends s.transport [] s'.transport := by
    intro h₀ s₀ hs₀ hs'
    have hsends : log.Sends s₀.transport [] s₀.cleared.transport := SendLog.sends_nothing [] rfl
    have hcase := sends_replace hs₀ hsends hs'
    rwa [ite_self] at hcase
  have hstep := step_apply op t
  generalize (op.apply t).2 = t' at hstep hs'
  cases hstep with
  | alloc transport =>
    rw [find?_cons] at hs'
    by_cases hnew : (⟨t.handles.next⟩ : SessionHandle) = h
    · rw [if_pos hnew] at hs'
      exact .inr ⟨transport, rfl, hnew, by rw [← Option.some.inj hs']⟩
    · rw [if_neg hnew] at hs'
      exact .inl (hkept _ hs')
  | createStatement hs₀ => exact .inl (hcleared hs₀ hs')
  | newStatement hs₀ => exact .inl (hcleared hs₀ hs')
  | @call h₀ s₀ c hs₀ =>
    left
    obtain ⟨s, hs, hsends⟩ := sends_replace hs₀ (Session.sends_call log c hquiet s₀) hs'
    refine ⟨s, hs, ?_⟩
    unfold payloads
    rw [hs]
    dsimp only
    by_cases hsame : h₀ = h
    · obtain rfl : s₀ = s := Option.some.inj ((hsame ▸ hs₀).symm.trans hs)
      exact hsends
    · rw [if_neg hsame] at hsends ⊢
      exact hsends
  | @exchange k st s₀ request hst hs₀ =>
    left
    simp only [payloads, hst]
    have howner : s₀.handle = st.creator := ht _ (mem_of_find? hs₀)
    rw [st.exchange_of_creator s₀ request howner] at hs'
    exact sends_replace hs₀ (Session.sends_exchange log s₀ request) hs'
  | freeSession h₀ =>
    rw [find?_remove] at hs'
    by_cases hsame : h = h₀
    · rw [if_pos hsame] at hs'
      exact absurd hs' (by simp)
    · rw [if_neg hsame] at hs'
      exact .inl (hkept _ hs')
  -- refused operations, handles drawn and statements freed leave the sessions as they were
  | _ => exact .inl (hkept _ hs')

/-- **Runs.**  A session that is stored after a run was stored before it, or allocated in it; what
its transport has sent since are front parts of the frames of its own payloads. -/
theorem sends_run (log : SendLog τ) (ops : List (Operation τ)) {t : HandleTable τ} (ht : t.Named)
    (hquiet : ∀ op ∈ ops, op.Quiet log) {h : SessionHandle} {s : Session τ}
    (hs : find? h (t.run ops).sessions = some s) :
    (∃ s₀, find? h t.sessions = some s₀ ∧
        log.Sends s₀.transport (t.allPayloads h ops) s.transport) ∨
      ∃ before transport rest, ops = before ++ .alloc transport :: rest ∧
        ((t.run before).alloc transport).1 = h ∧
        log.Sends transport (((t.run before).alloc transport).2.allPayloads h rest)
          s.transport := by
  induction ops generalizing t with
  | nil => exact .inl ⟨s, hs, SendLog.sends_nothing _ rfl⟩
  | cons op ops ih =>
    obtain ⟨hop, hops⟩ := List.forall_mem_cons.1 hquiet
    obtain ⟨s₁, hs₁, hsends⟩ | ⟨before, transport, rest, rfl, hnew, hsends⟩ :=
      ih (named_apply ht op) hops hs
    · obtain ⟨s₀, hs₀, hfirst⟩ | ⟨transport, rfl, hnew, rfl⟩ := sends_apply log ht op hop hs₁
      · exact .inl ⟨s₀, hs₀, hfirst.trans hsends⟩
      · exact .inr ⟨[], s₁.transport, ops, rfl, hnew, hsends⟩
    · exact .inr ⟨op :: before, transport, rest, rfl, hnew, hsends⟩

end HandleTable

/-- **Statements.**  Over a session that did not create it, an exchange fails with one record of the
general state and leaves the session as it was; over its creator, it is an exchange of the session,
with the error in the log of the statement only.  So after any run, what the transport of a session
has sent since the session was allocated are the frames of its own requests, in order, or front
parts of them: of its handshakes, its sends, its exchanges, and those of the statements it created. -/
theorem statement_exchange_local :
    (∀ (st : Statement) (s : Session τ) (request : Bytes),
      let result := (st.exchange s request).1
      let st' := (st.exchange s request).2.1
      let s' := (st.exchange s request).2.2
      (s.handle ≠ st.creator →
        s' = s ∧ result.status = .error ∧ result.value = none ∧
          ∃ record, record.state.code = "HY000" ∧ result.records = [record] ∧
            st' = { st with diagnostics := ⟨[record]⟩ }) ∧
      (s.handle = st.creator →
        s' = (s.exchange request).2 ∧ s'.diagnostics = s.diagnostics ∧
          st' = { st with diagnostics := ⟨result.records⟩ } ∧
          match (s.exchange request).1 with
          | .ok answer =>
            result.status = .success ∧ result.value = some answer ∧ result.records = []
          | .error e =>
            result.status = .error ∧ result.value = none ∧ result.records = [.ofError e])) ∧
    ∀ (log : SendLog τ) (ops : List (Operation τ)), (∀ op ∈ ops, op.Quiet log) →
      ∀ h s, (({} : HandleTable τ).run ops).session h = .ok s →
        ∃ before transport rest, ops = before ++ .alloc transport :: rest ∧
          let t := (({} : HandleTable τ).run before).alloc transport
          t.1 = h ∧
            ∃ parts, List.Forall₂ Frame.Cut parts (t.2.allPayloads h rest) ∧
              log.sent s.transport = log.sent transport ++ parts.flatten := by
  refine ⟨fun st s request => ⟨fun hforeign => ?_, fun howner => ?_⟩,
    fun log ops hquiet h s hs => ?_⟩
  · rw [st.exchange_of_foreign s request hforeign]
    exact ⟨rfl, rfl, rfl, .ofError (st.foreign s.handle), rfl, rfl, rfl⟩
  · rw [st.exchange_of_creator s request howner]
    refine ⟨rfl, s.diagnostics_exchange request, rfl, ?_⟩
    cases (s.exchange request).1 with
    | ok answer => exact ⟨rfl, rfl, rfl⟩
    | error e => exact ⟨rfl, rfl, rfl⟩
  · have hempty : ({} : HandleTable τ).Named := fun e he => nomatch he
    obtain ⟨s₀, hs₀, -⟩ | hnew :=
      HandleTable.sends_run log ops hempty hquiet (HandleTable.session_eq_ok_iff.1 hs)
    · exact absurd hs₀ (by simp [HandleTable.find?])
    · exact hnew

end

/-- A memory transport remembers what it took. -/
def MemoryTransport.sendLog : SendLog MemoryTransport where
  sent t := t.sent.toList
  send_ok {t t' bytes n} h := by
    cases hopen : t.isOpen with
    | true =>
      obtain ⟨k, t'', hsend, -, hsent, -⟩ := MemoryTransport.send_moves hopen bytes
      obtain ⟨hk, rfl⟩ := Prod.mk.inj (h.symm.trans hsend)
      rw [Except.ok.inj hk]
      exact hsent
    | false => exact nomatch h.symm.trans (MemoryTransport.send_fails hopen bytes)
  send_error {t t' bytes e} h := by
    cases hopen : t.isOpen with
    | true =>
      obtain ⟨k, t'', hsend, -⟩ := MemoryTransport.send_moves hopen bytes
      exact nomatch h.symm.trans hsend
    | false =>
      obtain ⟨-, rfl⟩ := Prod.mk.inj (h.symm.trans (MemoryTransport.send_fails hopen bytes))
      rfl
  receive t n := by
    obtain ⟨inbound, hreceive⟩ := t.receive_frame n
    show (t.receive n).2.sent.toList = _
    rw [hreceive]
  close t := rfl
  connect t host port := by
    show t.connect.2.sent.toList = _
    unfold MemoryTransport.connect
    dsimp only
    split <;> rfl
  setConnectTimeout t timeout := rfl

/-- A session that is established and then used by its statement has sent front parts of two frames;
over another session, the statement sends nothing. -/
theorem statement_exchange_local_two_sessions :
    let st : Statement := { handle := ⟨2⟩, creator := ⟨1⟩ }
    let other : Session MemoryTransport := { handle := ⟨3⟩, transport := { isOpen := true } }
    let ops : List (Operation MemoryTransport) :=
      [.alloc (({} : MemoryTransport).pushInbound [1, 0, 0, 0, 1]), .createStatement ⟨1⟩,
        .call ⟨1⟩ (.establish {}), .exchange ⟨2⟩ [7]]
    other.handle ≠ st.creator ∧ (st.exchange other [7]).2.2 = other ∧
      (∀ op ∈ ops, op.Quiet MemoryTransport.sendLog) ∧
      ∃ s, (({} : HandleTable MemoryTransport).run ops).session ⟨1⟩ = .ok s ∧
        ∃ parts, List.Forall₂ Frame.Cut parts
            [({ version := .current } : Handshake.Request).encode, [7]] ∧
          s.transport.sent.toList = parts.flatten := by
  intro st other ops
  have hquiet : ∀ op ∈ ops, op.Quiet MemoryTransport.sendLog := by
    intro op hop
    simp only [ops, List.mem_cons, List.not_mem_nil, or_false] at hop
    rcases hop with rfl | rfl | rfl | rfl <;> trivial
  obtain ⟨hexchange, hrun⟩ := statement_exchange_local (τ := MemoryTransport)
  have hforeign : other.handle ≠ st.creator := by decide
  have hstored : (({} : HandleTable MemoryTransport).run ops).session ⟨1⟩ = .ok _ := rfl
  refine ⟨hforeign, ((hexchange st other [7]).1 hforeign).1, hquiet, _, hstored, ?_⟩
  obtain ⟨before, transport, rest, hsplit, -, parts, hcut, hsent⟩ :=
    hrun MemoryTransport.sendLog ops hquiet ⟨1⟩ _ hstored
  -- the session is the one that is allocated first
  rcases before with - | ⟨op₁, - | ⟨op₂, - | ⟨op₃, - | ⟨op₄, before⟩⟩⟩⟩
  · obtain ⟨hfirst, rfl⟩ := List.cons.inj hsplit
    obtain rfl := Operation.alloc.inj hfirst
    exact ⟨parts, hcut, hsent⟩
  all_goals simp [ops] at hsplit

end SqlSession
