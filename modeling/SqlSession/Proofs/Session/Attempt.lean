import SqlSession.Session
import SqlSession.Transport.Memory
import SqlSession.Transport.Offline
import SqlSession.Transport.Scripted
/-!
# Calls and attempts to connect

A call runs on a session whose log is empty.  All calls but those that leave a warning give
`CallResult.ofOutcome` of what happened, and log the same records (`call_eq`).

An attempt to connect ends in one of four ways (`start_cases`):

* the check fails, and nothing was done;
* the transport does not connect, and the configuration is kept;
* the exchange fails, and the session is disconnected;
* the node accepts, and the session speaks the version that was asked for.

`establish_cases` says what a session is like after each of them, over any `LawfulTransport`.
-/

namespace SqlSession

/-! ## Lawful transports -/

/-- A transport opens its stream in no way but by connecting. -/
class LawfulTransport (τ : Type) [Transport τ] : Prop where
  isOpen_setConnectTimeout : ∀ (t : τ) (timeout : Option UInt64),
    Transport.isOpen (Transport.setConnectTimeout t timeout) = Transport.isOpen t
  isOpen_of_connect_error : ∀ (t t' : τ) (host : String) (port : UInt16) (cause : LinkError),
    Transport.connect t host port = (.error cause, t') → Transport.isOpen t' = true →
    Transport.isOpen t = true

instance : LawfulTransport MemoryTransport where
  isOpen_setConnectTimeout _ _ := rfl
  isOpen_of_connect_error := by
    intro t t' host port cause h hopen
    simp only [Transport.connect, MemoryTransport.connect] at h
    split at h
    · simp only [Prod.mk.injEq] at h
      rw [← h.2] at hopen
      exact hopen
    · simp at h

instance : LawfulTransport OfflineTransport where
  isOpen_setConnectTimeout _ _ := rfl
  isOpen_of_connect_error := by
    intro t t' host port cause _ hopen
    exact hopen

instance : LawfulTransport ScriptedTransport where
  isOpen_setConnectTimeout _ _ := rfl
  isOpen_of_connect_error := by
    intro t t' host port cause h
    simp [Transport.connect] at h

namespace CallResult

variable {α : Type}

/-- The result of a call that left no record but that of its error. -/
def ofOutcome : Except DriverError α → CallResult α
  | .ok value => { status := .success, value := some value, records := [] }
  | .error e => { status := .error, value := none, records := [.ofError e] }

/-- A call failed and left one record, of this state. -/
def Reports (r : CallResult α) (state : SqlState) : Prop :=
  r.status = .error ∧ r.value = none ∧ ∃ record, r.records = [record] ∧ record.state = state

theorem status_ofOutcome (outcome : Except DriverError α) :
    (ofOutcome outcome).status = .success ↔ ∃ value, outcome = .ok value := by
  cases outcome <;> simp [ofOutcome]

theorem reports_ofOutcome (outcome : Except DriverError α) (state : SqlState) :
    (ofOutcome outcome).Reports state ↔ ∃ e, outcome = .error e ∧ e.state = state := by
  cases outcome <;> simp [ofOutcome, Reports, DiagnosticRecord.ofError]

end CallResult

/-- A call on an empty log reports and records what happened. -/
theorem Diagnostics.complete_clear {α : Type} (d : Diagnostics) (outcome : Except DriverError α) :
    d.clear.complete outcome =
      (.ofOutcome outcome, ⟨(CallResult.ofOutcome outcome).records⟩) := by
  cases outcome with
  | ok value => rfl
  | error e => rfl

namespace Negotiation

variable {τ : Type} [Transport τ]

/-- A request asks for what is configured, with a version that is supported. -/
theorem prepare_eq_ok {c : Configuration} {request : Handshake.Request}
    (h : prepare c = .ok request) :
    ∃ version, c.version = .ok version ∧ version.isSupported = true ∧ request =
      { version
        distributedJoins := c.distributedJoins
        enforceJoinOrder := c.enforceJoinOrder
        replicatedOnly := c.replicatedOnly
        collocated := c.collocated
        lazy := c.lazy } := by
  unfold prepare at h
  split at h
  · simp at h
  · rename_i version hversion
    split at h
    · rename_i hsupported
      exact ⟨version, hversion, hsupported, (Except.ok.inj h).symm⟩
    · simp at h

/-- The version of a request is the configured one. -/
theorem version_of_prepare {c : Configuration} {request : Handshake.Request}
    (h : prepare c = .ok request) :
    c.version = .ok request.version ∧ request.version.isSupported = true := by
  obtain ⟨version, hversion, hsupported, rfl⟩ := prepare_eq_ok h
  exact ⟨hversion, hsupported⟩

theorem agreement_eq_ok {codec : Codec} {request : Handshake.Request} {payload : Bytes}
    {version : Version} (h : agreement codec request payload = .ok version) :
    version = request.version := by
  unfold agreement at h
  split at h
  · simp at h
  · split at h
    · simpa using h.symm
    · simp at h

/-- The version agreed on is the one that was asked for. -/
theorem negotiate_eq_ok {t t' : τ} {codec : Codec} {request : Handshake.Request}
    {version : Version} (h : negotiate t codec request = (.ok version, t')) :
    version = request.version := by
  unfold negotiate at h
  split at h
  · simp at h
  · split at h
    · simp at h
    · simp only [Prod.mk.injEq] at h
      exact agreement_eq_ok h.1

end Negotiation

namespace Session

variable {τ : Type} {α : Type}

/-! ## Calls -/

/-- A session whose log is empty, as every call starts. -/
def cleared (s : Session τ) : Session τ := { s with diagnostics := {} }

theorem call_eq (s : Session τ) (op : Session τ → Except DriverError α × Session τ)
    (h : (op s.cleared).2.diagnostics = {}) :
    s.call op = (.ofOutcome (op s.cleared).1,
      { (op s.cleared).2 with
        diagnostics := ⟨(CallResult.ofOutcome (op s.cleared).1).records⟩ }) := by
  have hclear : { s with diagnostics := s.diagnostics.clear } = s.cleared := rfl
  have hlog : (op s.cleared).2.diagnostics = Diagnostics.clear {} := h
  simp only [call, hclear, hlog, Diagnostics.complete_clear]

variable [Transport τ]

@[simp] theorem isConnected_cleared (s : Session τ) : s.cleared.isConnected = s.isConnected := rfl

theorem state_eq_connected_iff (s : Session τ) : s.state = .connected ↔ s.isConnected = true := by
  unfold state
  split <;> simp_all

theorem state_eq_disconnected_iff (s : Session τ) :
    s.state = .disconnected ↔ s.isConnected = false := by
  unfold state
  split <;> simp_all

@[simp] theorem isConnected_disconnect (s : Session τ) : s.disconnect.isConnected = false := rfl

/-! ## Attempts -/

/-- What has to hold before anything is done. -/
theorem check_eq_ok_iff (s : Session τ) (c : Configuration) (endpoint : Endpoint)
    (request : Handshake.Request) :
    s.check c = .ok (endpoint, request) ↔
      s.isConnected = false ∧ c.endpoint = .ok endpoint ∧
        Negotiation.prepare c = .ok request := by
  unfold check
  cases hs : s.isConnected with
  | true => simp
  | false =>
    cases he : c.endpoint with
    | error e => simp
    | ok endpoint' =>
      cases hp : Negotiation.prepare c with
      | error e => simp [Except.map]
      | ok request' => simp [Except.map]

/-- **Attempts.**  The four ways in which an attempt to connect ends. -/
theorem start_cases (s : Session τ) (c : Configuration) :
    (∃ e, s.check c = .error e ∧ s.start c = (.error e, s)) ∨
    ∃ endpoint request, s.check c = .ok (endpoint, request) ∧
      ((∃ cause t,
          Transport.connect (Transport.setConnectTimeout s.transport c.connectTimeout)
            endpoint.host endpoint.port = (.error cause, t) ∧
          s.start c = (.error (.cannotConnect endpoint.host endpoint.port cause),
            { s with configuration := c, transport := t })) ∨
        ∃ t,
          Transport.connect (Transport.setConnectTimeout s.transport c.connectTimeout)
            endpoint.host endpoint.port = (.ok (), t) ∧
          ((∃ e t', Negotiation.negotiate t s.codec request = (.error e, t') ∧
              s.start c = (.error e, { s with configuration := c, transport := t' }.disconnect)) ∨
            ∃ t', Negotiation.negotiate t s.codec request = (.ok request.version, t') ∧
              s.start c = (.ok (),
                { s with
                  configuration := c
                  transport := t'
                  phase := .connected
                  codec := { version := request.version }
                  negotiated := some request.version }))) := by
  cases hcheck : s.check c with
  | error e => exact .inl ⟨e, rfl, by simp only [start, hcheck]⟩
  | ok p =>
    obtain ⟨endpoint, request⟩ := p
    refine .inr ⟨endpoint, request, rfl, ?_⟩
    simp only [start, hcheck, connect]
    rcases Transport.connect (Transport.setConnectTimeout s.transport c.connectTimeout)
      endpoint.host endpoint.port with ⟨cause | opened, t⟩
    · exact .inl ⟨cause, t, rfl, rfl⟩
    · refine .inr ⟨t, rfl, ?_⟩
      rcases hnegotiate : Negotiation.negotiate t s.codec request with ⟨e | version, t'⟩
      · refine .inl ⟨e, t', rfl, ?_⟩
        simp only [hnegotiate]
      · obtain rfl := Negotiation.negotiate_eq_ok hnegotiate
        refine .inr ⟨t', rfl, ?_⟩
        simp only [hnegotiate]

theorem diagnostics_start (s : Session τ) (c : Configuration) :
    (s.start c).2.diagnostics = s.diagnostics := by
  obtain ⟨e, -, h⟩ | ⟨endpoint, request, -, hrun⟩ := start_cases s c
  · exact congrArg (·.2.diagnostics) h
  · obtain ⟨cause, t, -, h⟩ | ⟨t, -, ⟨e, t', -, h⟩ | ⟨t', -, h⟩⟩ := hrun <;>
      exact congrArg (·.2.diagnostics) h

/-- The result of `establish`, and the session it leaves. -/
theorem establish_eq (s : Session τ) (c : Configuration) :
    s.establish c = (.ofOutcome (s.cleared.start c).1,
      { (s.cleared.start c).2 with
        diagnostics := ⟨(CallResult.ofOutcome (s.cleared.start c).1).records⟩ }) :=
  call_eq s _ (diagnostics_start _ _)

/-- An attempt gets through to the node: its checks pass, and the transport connects. -/
def Reaches (s : Session τ) (c : Configuration) : Prop :=
  ∃ endpoint request t, s.check c = .ok (endpoint, request) ∧
    Transport.connect (Transport.setConnectTimeout s.transport c.connectTimeout)
      endpoint.host endpoint.port = (.ok (), t)

/-- A session is as connected as its phase and its transport say. -/
theorem isConnected_iff (s : Session τ) :
    s.isConnected = true ↔ s.phase = .connected ∧ Transport.isOpen s.transport = true := by
  simp [isConnected]

/-- A connect that fails does not bring a session back. -/
theorem isConnected_of_connect_error [LawfulTransport τ] (s : Session τ) (c : Configuration)
    {host : String} {port : UInt16} {cause : LinkError} {t : τ} (hidle : s.isConnected = false)
    (h : Transport.connect (Transport.setConnectTimeout s.transport c.connectTimeout) host port =
      (.error cause, t)) :
    ({ s with configuration := c, transport := t } : Session τ).isConnected = false := by
  rw [Bool.eq_false_iff, Ne, isConnected_iff] at hidle ⊢
  rintro ⟨hphase, hopen⟩
  refine hidle ⟨hphase, ?_⟩
  rw [← LawfulTransport.isOpen_setConnectTimeout s.transport c.connectTimeout]
  exact LawfulTransport.isOpen_of_connect_error _ t host port cause h hopen

/-- What an attempt changes, by how far it gets. -/
theorem establish_cases [LawfulTransport τ] (s : Session τ) (c : Configuration) :
    ((∃ e, s.check c = .error e) ∧ (s.establish c).1.status = .error ∧
      (s.establish c).2 = { s with diagnostics := (s.establish c).2.diagnostics }) ∨
    ∃ endpoint request, s.check c = .ok (endpoint, request) ∧
      (s.establish c).2.configuration = c ∧
      ((s.establish c).1.status = .error ∧ (s.establish c).2.codec = s.codec ∧
          (s.establish c).2.isConnected = false ∧
          (¬ s.Reaches c ∧ (s.establish c).2.negotiated = s.negotiated ∨
            s.Reaches c ∧ (s.establish c).2.negotiated = none) ∨
        (s.establish c).1.status = .success ∧ s.Reaches c ∧
          (s.establish c).2.codec = { version := request.version } ∧
          (s.establish c).2.negotiated = some request.version) := by
  rw [establish_eq]
  obtain ⟨e, hcheck, h⟩ | ⟨endpoint, request, hcheck, hrun⟩ := start_cases s.cleared c
  · rw [h]
    exact .inl ⟨⟨e, hcheck⟩, rfl, rfl⟩
  · refine .inr ⟨endpoint, request, hcheck, ?_⟩
    obtain ⟨cause, t, hconnect, h⟩ | ⟨t, hconnect, hrun⟩ := hrun
    · have hidle := ((check_eq_ok_iff _ _ _ _).1 hcheck).1
      have hfails : ¬ s.Reaches c := by
        rintro ⟨endpoint', request', t', hcheck', hconnect'⟩
        obtain ⟨rfl, rfl⟩ : endpoint = endpoint' ∧ request = request' := by
          simpa using hcheck.symm.trans hcheck'
        exact absurd (hconnect.symm.trans hconnect') (by simp)
      rw [h]
      exact ⟨rfl, .inl ⟨rfl, rfl, isConnected_of_connect_error s c hidle hconnect,
        .inl ⟨hfails, rfl⟩⟩⟩
    · have hreaches : s.Reaches c := ⟨endpoint, request, t, hcheck, hconnect⟩
      obtain ⟨e, t', -, h⟩ | ⟨t', -, h⟩ := hrun
      · rw [h]
        exact ⟨rfl, .inl ⟨rfl, rfl, rfl, .inr ⟨hreaches, rfl⟩⟩⟩
      · rw [h]
        exact ⟨rfl, .inr ⟨rfl, hreaches, rfl, rfl⟩⟩

/-- A text that is no connection string is reported and changes nothing else; any other is
established. -/
theorem establishWith_eq (s : Session τ) (text : String) :
    s.establishWith text =
      match Configuration.ofConnectString text with
      | .error e =>
        (.ofOutcome (.error (.general e.message)),
          { s with diagnostics := ⟨[.ofError (.general e.message)]⟩ })
      | .ok c => s.establish c := by
  unfold establishWith establish
  cases Configuration.ofConnectString text with
  | error e => exact call_eq s _ rfl
  | ok c => rfl

end Session

end SqlSession
