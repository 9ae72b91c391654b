import SqlSession.Proofs.Session.Run
import SqlSession.Proofs.Transport.Channel
/-!
# Chunk limits do not show

Two transports are in step if everything that a session does with them, frames included, gives the
same results and leaves them in step again (`Lockstep`).  A session then cannot tell them apart:
over either, every call and every transfer gives the same answer.

Memory transports that have the same channel are in step, whatever their chunk limits are.

* `same_call`, `same_transfer`, `same_start`: what a session does, over transports in step.
* `same_apply`: one action on sessions over two memory transports.
* `chunking_invisible`: a run.
-/

namespace SqlSession

/-- Two steps give the same result and leave related states. -/
def Same {ρ σ₁ σ₂ : Type} (R : σ₁ → σ₂ → Prop) (r₁ : ρ × σ₁) (r₂ : ρ × σ₂) : Prop :=
  r₁.1 = r₂.1 ∧ R r₁.2 r₂.2

theorem Same.split {ρ σ₁ σ₂ : Type} {R : σ₁ → σ₂ → Prop} {r₁ : ρ × σ₁} {r₂ : ρ × σ₂}
    (h : Same R r₁ r₂) : ∃ a x y, r₁ = (a, x) ∧ r₂ = (a, y) ∧ R x y :=
  ⟨r₁.1, r₁.2, r₂.2, rfl, by rw [h.1], h.2⟩

theorem Same.map {ρ ρ' σ₁ σ₂ : Type} {R : σ₁ → σ₂ → Prop} {r₁ : ρ × σ₁} {r₂ : ρ × σ₂}
    (f : ρ → ρ') (h : Same R r₁ r₂) : Same R (f r₁.1, r₁.2) (f r₂.1, r₂.2) :=
  ⟨congrArg f h.1, h.2⟩

section

variable {τ₁ τ₂ : Type} [Transport τ₁] [Transport τ₂]

/-- What a session does with two transports that are related gives the same results, and they stay
related. -/
structure Lockstep (R : τ₁ → τ₂ → Prop) : Prop where
  isOpen : ∀ {t₁ t₂}, R t₁ t₂ → Transport.isOpen t₁ = Transport.isOpen t₂
  close : ∀ {t₁ t₂}, R t₁ t₂ → R (Transport.close t₁) (Transport.close t₂)
  setConnectTimeout : ∀ {t₁ t₂} timeout, R t₁ t₂ →
    R (Transport.setConnectTimeout t₁ timeout) (Transport.setConnectTimeout t₂ timeout)
  connect : ∀ {t₁ t₂} host port, R t₁ t₂ →
    Same R (Transport.connect t₁ host port) (Transport.connect t₂ host port)
  send : ∀ {t₁ t₂} payload, R t₁ t₂ → Same R (Framing.send t₁ payload) (Framing.send t₂ payload)
  receive : ∀ {t₁ t₂}, R t₁ t₂ → Same R (Framing.receive t₁) (Framing.receive t₂)

variable {R : τ₁ → τ₂ → Prop}

theorem Negotiation.same_negotiate (hR : Lockstep R) (codec : Codec) (request : Handshake.Request)
    {t₁ : τ₁} {t₂ : τ₂} (ht : R t₁ t₂) :
    Same R (negotiate t₁ codec request) (negotiate t₂ codec request) := by
  obtain ⟨sent, t₁', t₂', h₁, h₂, ht'⟩ := (hR.send (codec.encodeRequest request) ht).split
  simp only [negotiate, h₁, h₂]
  cases sent with
  | error e => exact ⟨rfl, ht'⟩
  | ok done =>
    obtain ⟨received, t₁'', t₂'', h₁, h₂, ht''⟩ := (hR.receive ht').split
    simp only [h₁, h₂]
    cases received <;> exact ⟨rfl, ht''⟩

namespace Session

/-! ## Sessions over transports in step -/

/-- The same session over another transport. -/
def withTransport (s : Session τ₁) (t : τ₂) : Session τ₂ where
  handle := s.handle
  transport := t
  phase := s.phase
  codec := s.codec
  configuration := s.configuration
  negotiated := s.negotiated
  diagnostics := s.diagnostics

/-- Two sessions are the same but for their transports, which are related. -/
def Alike (R : τ₁ → τ₂ → Prop) (s₁ : Session τ₁) (s₂ : Session τ₂) : Prop :=
  ∃ t, R s₁.transport t ∧ s₂ = s₁.withTransport t

variable (hR : Lockstep R) {s₁ : Session τ₁} {s₂ : Session τ₂} {α : Type}

include hR

theorem isConnected_withTransport {s : Session τ₁} {t : τ₂} (ht : R s.transport t) :
    (s.withTransport t).isConnected = s.isConnected := by
  have hopen := hR.isOpen ht
  unfold isConnected
  simp only [hopen]
  rfl

theorem alike_disconnect (h : Alike R s₁ s₂) : Alike R s₁.disconnect s₂.disconnect := by
  obtain ⟨t, ht, rfl⟩ := h
  exact ⟨_, hR.close ht, rfl⟩

omit hR [Transport τ₁] [Transport τ₂] in
/-- A call gives the same result if its operation does. -/
theorem same_call {op₁ : Session τ₁ → Except DriverError α × Session τ₁}
    {op₂ : Session τ₂ → Except DriverError α × Session τ₂} (h : Alike R s₁ s₂)
    (hop : ∀ s₁ s₂, Alike R s₁ s₂ → Same (Alike R) (op₁ s₁) (op₂ s₂)) :
    Same (Alike R) (s₁.call op₁) (s₂.call op₂) := by
  obtain ⟨t, ht, rfl⟩ := h
  obtain ⟨outcome, s₁', s₂', h₁, h₂, t', ht', rfl⟩ :=
    (hop s₁.cleared (s₁.withTransport t).cleared ⟨t, ht, rfl⟩).split
  have hclear : { s₁ with diagnostics := s₁.diagnostics.clear } = s₁.cleared := rfl
  have hclear' : { s₁.withTransport t with diagnostics := (s₁.withTransport t).diagnostics.clear } =
    (s₁.withTransport t).cleared := rfl
  simp only [call, hclear, hclear', h₁, h₂]
  exact ⟨rfl, t', ht', rfl⟩

theorem same_transfer {op₁ : τ₁ → Except DriverError α × τ₁}
    {op₂ : τ₂ → Except DriverError α × τ₂} (h : Alike R s₁ s₂)
    (hop : ∀ t₁ t₂, R t₁ t₂ → Same R (op₁ t₁) (op₂ t₂)) :
    Same (Alike R) (s₁.transfer op₁) (s₂.transfer op₂) := by
  obtain ⟨t, ht, rfl⟩ := h
  obtain ⟨outcome, t₁', t₂', h₁, h₂, ht'⟩ := (hop _ _ ht).split
  have hmoved : Alike R { s₁ with transport := t₁' } { s₁.withTransport t with transport := t₂' } :=
    ⟨t₂', ht', rfl⟩
  have h₂ : op₂ (s₁.withTransport t).transport = (outcome, t₂') := h₂
  simp only [transfer, isConnected_withTransport hR ht, h₁, h₂]
  split
  · unfold trackLink
    cases outcome with
    | ok value => exact ⟨rfl, hmoved⟩
    | error e =>
      dsimp only
      rw [hR.isOpen ht']
      split
      · exact ⟨rfl, alike_disconnect hR hmoved⟩
      · exact ⟨rfl, hmoved⟩
  · exact ⟨rfl, t, ht, rfl⟩

theorem same_send (payload : Bytes) (h : Alike R s₁ s₂) :
    Same (Alike R) (s₁.send payload) (s₂.send payload) :=
  same_transfer hR h fun _ _ => hR.send payload

theorem same_receive (h : Alike R s₁ s₂) : Same (Alike R) s₁.receive s₂.receive :=
  same_transfer hR h fun _ _ => hR.receive

theorem same_exchange (request : Bytes) (h : Alike R s₁ s₂) :
    Same (Alike R) (s₁.exchange request) (s₂.exchange request) := by
  obtain ⟨sent, s₁', s₂', h₁, h₂, h'⟩ := (same_send hR request h).split
  simp only [exchange, h₁, h₂]
  cases sent with
  | error e => exact ⟨rfl, h'⟩
  | ok done => exact same_receive hR h'

theorem same_statementExchange (st : Statement) (request : Bytes) (h : Alike R s₁ s₂) :
    (st.exchange s₁ request).1 = (st.exchange s₂ request).1 ∧
      (st.exchange s₁ request).2.1 = (st.exchange s₂ request).2.1 ∧
      Alike R (st.exchange s₁ request).2.2 (st.exchange s₂ request).2.2 := by
  obtain ⟨answer, s₁', s₂', h₁, h₂, h'⟩ := (same_exchange hR request h).split
  have hhandle : s₂.handle = s₁.handle := by
    obtain ⟨t, -, rfl⟩ := h
    rfl
  by_cases hown : s₁.handle = st.creator
  · simp only [Statement.exchange, hhandle, hown, if_true, h₁, h₂]
    exact ⟨trivial, trivial, h'⟩
  · simp only [Statement.exchange, hhandle, hown, if_false]
    exact ⟨trivial, trivial, h⟩

theorem same_connect (endpoint : Endpoint) (request : Handshake.Request) (h : Alike R s₁ s₂) :
    Same (Alike R) (s₁.connect endpoint request) (s₂.connect endpoint request) := by
  obtain ⟨t, ht, rfl⟩ := h
  obtain ⟨opened, t₁, t₂, h₁, h₂, ht'⟩ := (hR.connect endpoint.host endpoint.port ht).split
  have h₂ : Transport.connect (s₁.withTransport t).transport endpoint.host endpoint.port =
    (opened, t₂) := h₂
  simp only [connect, h₁, h₂]
  cases opened with
  | error cause => exact ⟨rfl, t₂, ht', rfl⟩
  | ok done =>
    obtain ⟨version, t₁', t₂', h₁, h₂, ht''⟩ :=
      (Negotiation.same_negotiate hR s₁.codec request ht').split
    have h₂ : Negotiation.negotiate t₂ (s₁.withTransport t).codec request = (version, t₂') := h₂
    simp only [h₁, h₂]
    cases version with
    | error e => exact ⟨rfl, _, hR.close ht'', rfl⟩
    | ok version => exact ⟨rfl, t₂', ht'', rfl⟩

theorem same_start (c : Configuration) (h : Alike R s₁ s₂) :
    Same (Alike R) (s₁.start c) (s₂.start c) := by
  obtain ⟨t, ht, rfl⟩ := h
  have hcheck : (s₁.withTransport t).check c = s₁.check c := by
    simp only [check, isConnected_withTransport hR ht]
  unfold start
  rw [hcheck]
  cases s₁.check c with
  | error e => exact ⟨rfl, t, ht, rfl⟩
  | ok p => exact same_connect hR p.1 p.2 ⟨_, hR.setConnectTimeout c.connectTimeout ht, rfl⟩

theorem same_establish (c : Configuration) (h : Alike R s₁ s₂) :
    Same (Alike R) (s₁.establish c) (s₂.establish c) :=
  same_call h fun _ _ => same_start hR c

theorem same_establishWith (text : String) (h : Alike R s₁ s₂) :
    Same (Alike R) (s₁.establishWith text) (s₂.establishWith text) := by
  refine same_call h fun s₁ s₂ h => ?_
  split
  · exact ⟨rfl, h⟩
  · exact same_start hR _ h

theorem same_release (h : Alike R s₁ s₂) : Same (Alike R) s₁.release s₂.release := by
  refine same_call h fun s₁ s₂ h => ⟨?_, alike_disconnect hR h⟩
  obtain ⟨t, ht, rfl⟩ := h
  dsimp only
  rw [isConnected_withTransport hR ht]

theorem same_close (h : Alike R s₁ s₂) : Same (Alike R) s₁.close s₂.close :=
  same_call h fun _ _ h => ⟨rfl, alike_disconnect hR h⟩

theorem same_getAttribute (id : Int32) (buffer : Option Bytes) (h : Alike R s₁ s₂) :
    Same (Alike R) (s₁.getAttribute id buffer) (s₂.getAttribute id buffer) := by
  have hread : s₁.readAttribute id buffer = s₂.readAttribute id buffer := by
    obtain ⟨t, ht, rfl⟩ := h
    have hdead : (s₁.withTransport t).deadBytes = s₁.deadBytes := by
      unfold deadBytes
      rw [isConnected_withTransport hR ht]
    unfold readAttribute
    rw [hdead]
  unfold getAttribute
  rw [hread]
  exact (same_call h fun _ _ h => ⟨rfl, h⟩).map (·, (s₂.readAttribute id buffer).2)

section

omit hR [Transport τ₁] [Transport τ₂]

theorem same_getInfo (number : UInt16) (buffer : Bytes) (h : Alike R s₁ s₂) :
    Same (Alike R) (s₁.getInfo number buffer) (s₂.getInfo number buffer) := by
  have hwrite : Info.write s₂.configuration (s₂.negotiated.getD s₂.codec.version) number buffer =
      Info.write s₁.configuration (s₁.negotiated.getD s₁.codec.version) number buffer := by
    obtain ⟨t, -, rfl⟩ := h
    rfl
  unfold getInfo
  dsimp only
  rw [hwrite]
  refine Same.map (·, _) (same_call h fun s₁ s₂ h => ?_)
  split
  · exact ⟨rfl, h⟩
  · obtain ⟨t, ht, rfl⟩ := h
    refine ⟨rfl, ?_⟩
    dsimp only
    split
    · exact ⟨t, ht, rfl⟩
    · exact ⟨t, ht, rfl⟩

theorem same_createStatement (handle : StatementHandle) (h : Alike R s₁ s₂) :
    Same (Alike R) (s₁.createStatement handle) (s₂.createStatement handle) := by
  refine same_call h fun s₁ s₂ h => ?_
  obtain ⟨t, ht, rfl⟩ := h
  exact ⟨rfl, t, ht, rfl⟩

theorem same_setAttribute (id : Int32) (value : Bytes) (h : Alike R s₁ s₂) :
    Same (Alike R) (s₁.setAttribute id value) (s₂.setAttribute id value) := by
  refine same_call h fun s₁ s₂ h => ?_
  split
  · exact ⟨rfl, h⟩
  · exact ⟨rfl, h⟩

theorem same_commit (h : Alike R s₁ s₂) : Same (Alike R) s₁.commit s₂.commit :=
  same_call h fun _ _ h => ⟨rfl, h⟩

theorem same_rollback (h : Alike R s₁ s₂) : Same (Alike R) s₁.rollback s₂.rollback :=
  same_call h fun _ _ h => ⟨rfl, h⟩

end

end Session

end

/-! ## Memory transports -/

/-- What an action gives. -/
inductive Answer where
  | called (result : CallResult Unit)
  | created (result : CallResult Statement)
  | filled (result : CallResult Nat) (buffer : Bytes)
  | sent (outcome : Except DriverError Unit)
  | received (outcome : Except DriverError Bytes)
  | exchanged (result : CallResult Bytes) (statement : Statement)
  | silent
  deriving Repr

/-- What an action gives on a session. -/
def Action.answer (a : Action) (s : Session MemoryTransport) : Answer :=
  match a with
  | .establish c => .called (s.establish c).1
  | .establishWith text => .called (s.establishWith text).1
  | .release => .called s.release.1
  | .close => .called s.close.1
  | .createStatement handle => .created (s.createStatement handle).1
  | .getInfo number buffer => .filled (s.getInfo number buffer).1.1 (s.getInfo number buffer).1.2
  | .getAttribute id buffer =>
    .filled (s.getAttribute id buffer).1.1 (s.getAttribute id buffer).1.2
  | .setAttribute id value => .called (s.setAttribute id value).1
  | .commit => .called s.commit.1
  | .rollback => .called s.rollback.1
  | .send payload => .sent (s.send payload).1
  | .receive => .received s.receive.1
  | .exchange request => .received (s.exchange request).1
  | .statementExchange statement request =>
    .exchanged (statement.exchange s request).1 (statement.exchange s request).2.1
  | .pushInbound _ => .silent
  | .clearSent => .silent
  | .closeTransport => .silent

/-- What the actions of a run give, in order. -/
def Session.answers : Session MemoryTransport → List Action → List Answer
  | _, [] => []
  | s, a :: as => a.answer s :: answers (a.apply s) as

/-- Transports with the same channel: their chunk limits and their transfer counters may differ. -/
def SameChannel (t₁ t₂ : MemoryTransport) : Prop := t₁.channel = t₂.channel

/-- What the channel alone decides is the same for transports with the same channel. -/
theorem same_of_channel {ρ : Type} {op : MemoryTransport → ρ × MemoryTransport}
    (step : Channel → ρ × Channel)
    (hop : ∀ t, (op t).1 = (step t.channel).1 ∧ (op t).2.channel = (step t.channel).2)
    {t₁ t₂ : MemoryTransport} (h : SameChannel t₁ t₂) : Same SameChannel (op t₁) (op t₂) := by
  obtain ⟨hresult₁, hafter₁⟩ := hop t₁
  obtain ⟨hresult₂, hafter₂⟩ := hop t₂
  have hchannel : t₁.channel = t₂.channel := h
  rw [hchannel] at hresult₁ hafter₁
  exact ⟨hresult₁.trans hresult₂.symm, hafter₁.trans hafter₂.symm⟩

/-- A channel opens unless it refuses to. -/
def Channel.connect (c : Channel) : Except LinkError Unit × Channel :=
  let c := { c with connectCalls := c.connectCalls + 1 }
  if c.refuses then (.error .connectionRefused, c) else (.ok (), { c with isOpen := true })

theorem MemoryTransport.connect_eq (t : MemoryTransport) :
    t.connect.1 = t.channel.connect.1 ∧ t.connect.2.channel = t.channel.connect.2 := by
  cases h : t.refuses <;> simp [connect, Channel.connect, channel, h]

theorem MemoryTransport.channel_pushInbound (t : MemoryTransport) (bytes : Bytes) :
    (t.pushInbound bytes).channel = { t.channel with inbound := t.channel.inbound ++ bytes } := by
  simp [pushInbound, channel]

theorem MemoryTransport.channel_clearSent (t : MemoryTransport) :
    t.clearSent.channel = { t.channel with sent := [] } := rfl

theorem lockstep_sameChannel : Lockstep SameChannel where
  isOpen h := congrArg Channel.isOpen h
  close h := congrArg Channel.close h
  setConnectTimeout timeout h := by
    have hchannel : MemoryTransport.channel _ = MemoryTransport.channel _ := h
    exact congrArg (fun c : Channel => { c with connectTimeout := timeout }) hchannel
  connect _ _ h := same_of_channel Channel.connect MemoryTransport.connect_eq h
  send payload h := same_of_channel (·.send payload) (fun t => Framing.send_eq t payload) h
  receive h := same_of_channel Channel.receive Framing.receive_eq h

namespace Session

/-- **Steps.**  An action gives the same on sessions that differ in what the channel hides. -/
theorem same_apply (a : Action) {s₁ s₂ : Session MemoryTransport} (h : Alike SameChannel s₁ s₂) :
    Same (Alike SameChannel) (a.answer s₁, a.apply s₁) (a.answer s₂, a.apply s₂) := by
  have hR := lockstep_sameChannel
  cases a with
  | establish c => exact (same_establish hR c h).map Answer.called
  | establishWith text => exact (same_establishWith hR text h).map Answer.called
  | release => exact (same_release hR h).map Answer.called
  | close => exact (same_close hR h).map Answer.called
  | createStatement handle => exact (same_createStatement handle h).map Answer.created
  | getInfo number buffer =>
    exact (same_getInfo number buffer h).map fun p => Answer.filled p.1 p.2
  | getAttribute id buffer =>
    exact (same_getAttribute hR id buffer h).map fun p => Answer.filled p.1 p.2
  | setAttribute id value => exact (same_setAttribute id value h).map Answer.called
  | commit => exact (same_commit h).map Answer.called
  | rollback => exact (same_rollback h).map Answer.called
  | send payload => exact (same_send hR payload h).map Answer.sent
  | receive => exact (same_receive hR h).map Answer.received
  | exchange request => exact (same_exchange hR request h).map Answer.received
  | statementExchange st request =>
    obtain ⟨hresult, hstatement, hafter⟩ := same_statementExchange hR st request h
    exact ⟨by simp only [Action.answer, hresult, hstatement], hafter⟩
  | pushInbound bytes =>
    obtain ⟨t, ht, rfl⟩ := h
    refine ⟨rfl, t.pushInbound bytes, ?_, rfl⟩
    show (s₁.transport.pushInbound bytes).channel = (t.pushInbound bytes).channel
    rw [MemoryTransport.channel_pushInbound, MemoryTransport.channel_pushInbound, ht]
  | clearSent =>
    obtain ⟨t, ht, rfl⟩ := h
    refine ⟨rfl, t.clearSent, ?_, rfl⟩
    show s₁.transport.clearSent.channel = t.clearSent.channel
    rw [MemoryTransport.channel_clearSent, MemoryTransport.channel_clearSent, ht]
  | closeTransport =>
    obtain ⟨t, ht, rfl⟩ := h
    exact ⟨rfl, t.close, hR.close ht, rfl⟩

/-- **Runs.** -/
theorem same_run {s₁ s₂ : Session MemoryTransport} (actions : List Action)
    (h : Alike SameChannel s₁ s₂) :
    s₁.answers actions = s₂.answers actions ∧
      Alike SameChannel (s₁.run actions) (s₂.run actions) := by
  induction actions generalizing s₁ s₂ with
  | nil => exact ⟨rfl, h⟩
  | cons a as ih =>
    obtain ⟨hanswer, hafter⟩ := same_apply a h
    obtain ⟨hanswers, hend⟩ := ih hafter
    refine ⟨?_, hend⟩
    simp only [answers]
    rw [hanswers]
    exact congrArg (· :: _) hanswer

/-- What two sessions agree on that cannot be told apart. -/
structure Agree (s₁ s₂ : Session MemoryTransport) : Prop where
  state : s₁.state = s₂.state
  version : s₁.negotiated = s₂.negotiated
  codec : s₁.codec = s₂.codec
  configuration : s₁.configuration = s₂.configuration
  diagnostics : s₁.diagnostics = s₂.diagnostics
  sent : s₁.transport.sent.toList = s₂.transport.sent.toList
  inbound : s₁.transport.inbound.toList = s₂.transport.inbound.toList
  sendBudget : s₁.transport.sendBudget = s₂.transport.sendBudget
  isOpen : s₁.transport.isOpen = s₂.transport.isOpen
  connectTimeout : s₁.transport.connectTimeout = s₂.transport.connectTimeout
  connectCalls : s₁.transport.connectCalls = s₂.transport.connectCalls
  closeCalls : s₁.transport.closeCalls = s₂.transport.closeCalls

theorem agree_of_alike {s₁ s₂ : Session MemoryTransport} (h : Alike SameChannel s₁ s₂) :
    Agree s₁ s₂ := by
  obtain ⟨t, ht, rfl⟩ := h
  have hstate : (s₁.withTransport t).state = s₁.state := by
    unfold state
    rw [isConnected_withTransport lockstep_sameChannel ht]
  exact {
    state := hstate.symm
    version := rfl
    codec := rfl
    configuration := rfl
    diagnostics := rfl
    sent := congrArg Channel.sent ht
    inbound := congrArg Channel.inbound ht
    sendBudget := congrArg Channel.sendBudget ht
    isOpen := congrArg Channel.isOpen ht
    connectTimeout := congrArg Channel.connectTimeout ht
    connectCalls := congrArg Channel.connectCalls ht
    closeCalls := congrArg Channel.closeCalls ht }

/-- A session whose transport moves at most so many bytes at a time. -/
def limited (s : Session MemoryTransport) (limit : Option ChunkLimit) : Session MemoryTransport :=
  { s with transport := { s.transport with maxChunk := limit } }

/-- **Chunking.**  With any two chunk limits, a run gives the same answers, one by one, and leaves
sessions that agree. -/
theorem chunking_invisible (s : Session MemoryTransport) (limit₁ limit₂ : Option ChunkLimit)
    (actions : List Action) :
    (s.limited limit₁).answers actions = (s.limited limit₂).answers actions ∧
      Agree ((s.limited limit₁).run actions) ((s.limited limit₂).run actions) := by
  have hstart : Alike SameChannel (s.limited limit₁) (s.limited limit₂) :=
    ⟨(s.limited limit₂).transport, rfl, rfl⟩
  obtain ⟨hanswers, hend⟩ := same_run actions hstart
  exact ⟨hanswers, agree_of_alike hend⟩

end Session

end SqlSession
