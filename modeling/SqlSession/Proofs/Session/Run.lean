import SqlSession.Proofs.Session.Attempt
import SqlSession.Statement
/-!
# Runs of a session

A run is a list of actions, in any order: the calls and transfers of a session over a memory
transport, and what is done to the transport behind its back.

A session is described by its past.  Attempts to connect are the only actions that change the codec
or the configuration, or that connect a session; all others leave it as connected as it was, or less
(`Keeps`).

    codec version   =  what the last attempt that succeeded asked for
    configuration   =  that of the last attempt whose checks passed
    connected       →  both agree, and the transport is open

* `apply_cases`: what one action does.
* `run_connected`: what holds after a run.
-/

namespace SqlSession

/-- What can be done to a session and to its transport. -/
inductive Action where
  | establish (c : Configuration)
  | establishWith (text : String)
  | release
  | close
  | createStatement (handle : StatementHandle)
  | getInfo (number : UInt16) (buffer : Bytes)
  | getAttribute (id : Int32) (buffer : Option Bytes)
  | setAttribute (id : Int32) (value : Bytes)
  | commit
  | rollback
  | send (payload : Bytes)
  | receive
  | exchange (request : Bytes)
  | statementExchange (statement : Statement) (request : Bytes)
  | pushInbound (bytes : Bytes)
  | clearSent
  | closeTransport
  deriving DecidableEq, Repr

namespace Action

/-- The session after an action. -/
def apply (a : Action) (s : Session MemoryTransport) : Session MemoryTransport :=
  match a with
  | .establish c => (s.establish c).2
  | .establishWith text => (s.establishWith text).2
  | .release => s.release.2
  | .close => s.close.2
  | .createStatement handle => (s.createStatement handle).2
  | .getInfo number buffer => (s.getInfo number buffer).2
  | .getAttribute id buffer => (s.getAttribute id buffer).2
  | .setAttribute id value => (s.setAttribute id value).2
  | .commit => s.commit.2
  | .rollback => s.rollback.2
  | .send payload => (s.send payload).2
  | .receive => s.receive.2
  | .exchange request => (s.exchange request).2
  | .statementExchange statement request => (statement.exchange s request).2.2
  | .pushInbound bytes => { s with transport := s.transport.pushInbound bytes }
  | .clearSent => { s with transport := s.transport.clearSent }
  | .closeTransport => { s with transport := s.transport.close }

/-- How an attempt to connect ended; other actions are no attempts. -/
def attempt? (a : Action) (s : Session MemoryTransport) : Option CallStatus :=
  match a with
  | .establish c => some (s.establish c).1.status
  | .establishWith text => some (s.establishWith text).1.status
  | _ => none

/-- The configuration that an attempt connects with. -/
def target? : Action → Option Configuration
  | .establish c => some c
  | .establishWith text => (Configuration.ofConnectString text).toOption
  | _ => none

/-- The configuration of an attempt that is not refused before anything is done: the session is not
connected, and the configuration names an endpoint and a version that is supported. -/
def admitted? (a : Action) (s : Session MemoryTransport) : Option Configuration :=
  a.target?.filter fun c =>
    !s.isConnected && c.endpoint.isOk && (Negotiation.prepare c).isOk

/-- The version that an attempt asked for, if it succeeds. -/
def agreed? (a : Action) (s : Session MemoryTransport) : Option Version :=
  if a.attempt? s = some .success then a.target?.bind fun c => c.version.toOption else none

end Action

namespace Session

/-! ## What other actions leave alone -/

section Keeps

variable {τ : Type} [Transport τ] {α : Type}

/-- A session keeps its codec and configuration, and is connected only if it was, with the version
it had. -/
structure Keeps (s s' : Session τ) : Prop where
  codec : s'.codec = s.codec
  configuration : s'.configuration = s.configuration
  connected : s'.isConnected = true → s.isConnected = true ∧ s'.negotiated = s.negotiated

theorem Keeps.refl (s : Session τ) : Keeps s s := ⟨rfl, rfl, fun h => ⟨h, rfl⟩⟩

theorem Keeps.trans {s s' s'' : Session τ} (h : Keeps s s') (h' : Keeps s' s'') : Keeps s s'' := by
  refine ⟨h'.codec.trans h.codec, h'.configuration.trans h.configuration, fun hs => ?_⟩
  obtain ⟨hs', hversion'⟩ := h'.connected hs
  obtain ⟨hs, hversion⟩ := h.connected hs'
  exact ⟨hs, hversion'.trans hversion⟩

theorem keeps_disconnect (s : Session τ) : Keeps s s.disconnect :=
  ⟨rfl, rfl, fun h => by simp at h⟩

/-- A call keeps what its operation keeps. -/
theorem keeps_call (s : Session τ) (op : Session τ → Except DriverError α × Session τ)
    (h : ∀ s, Keeps s (op s).2) : Keeps s (s.call op).2 := by
  have hop := h s.cleared
  exact ⟨hop.codec, hop.configuration, hop.connected⟩

theorem keeps_trackLink (s : Session τ) (outcome : Except DriverError α) :
    Keeps s (s.trackLink outcome).2 := by
  unfold trackLink
  cases outcome with
  | ok a => exact .refl s
  | error e =>
    dsimp only
    split
    · exact keeps_disconnect s
    · exact .refl s

theorem keeps_transfer (s : Session τ) (op : τ → Except DriverError α × τ) :
    Keeps s (s.transfer op).2 := by
  unfold transfer
  split
  · rename_i hs
    have hmoved : Keeps s { s with transport := (op s.transport).2 } :=
      ⟨rfl, rfl, fun _ => ⟨hs, rfl⟩⟩
    exact hmoved.trans (keeps_trackLink _ _)
  · exact .refl s

theorem keeps_exchange (s : Session τ) (request : Bytes) : Keeps s (s.exchange request).2 := by
  have hsend : Keeps s (s.send request).2 := keeps_transfer s _
  unfold exchange
  split
  · rename_i e s' h
    rw [h] at hsend
    exact hsend
  · rename_i s' h
    rw [h] at hsend
    exact hsend.trans (keeps_transfer s' _)

theorem keeps_getInfo (s : Session τ) (number : UInt16) (buffer : Bytes) :
    Keeps s (s.getInfo number buffer).2 := by
  unfold getInfo
  dsimp only
  refine keeps_call s _ fun s => ?_
  split
  · exact .refl s
  · dsimp only
    split
    · exact ⟨rfl, rfl, fun h => ⟨h, rfl⟩⟩
    · exact .refl s

theorem keeps_getAttribute (s : Session τ) (id : Int32) (buffer : Option Bytes) :
    Keeps s (s.getAttribute id buffer).2 := by
  unfold getAttribute
  dsimp only
  exact keeps_call s _ .refl

theorem keeps_statementExchange (st : Statement) (s : Session τ) (request : Bytes) :
    Keeps s (st.exchange s request).2.2 := by
  unfold Statement.exchange
  by_cases h : s.handle = st.creator
  · simp only [h, if_true]
    exact keeps_exchange s request
  · simp only [h, if_false]
    exact .refl s

end Keeps

end Session

namespace Action

open Session

/-! ## Steps -/

/-- An action is an attempt with a configuration, or it keeps the session. -/
theorem target_cases (a : Action) (s : Session MemoryTransport) :
    (a.target? = none ∧ Keeps s (a.apply s) ∧ a.attempt? s ≠ some .success) ∨
    ∃ c, a.target? = some c ∧ a.apply s = (s.establish c).2 ∧
      a.attempt? s = some (s.establish c).1.status := by
  cases a with
  | establish c => exact .inr ⟨c, rfl, rfl, rfl⟩
  | establishWith text =>
    cases htext : Configuration.ofConnectString text with
    | error e =>
      have h := establishWith_eq s text
      rw [htext] at h
      refine .inl ⟨by simp only [target?, htext, Except.toOption], ?_, ?_⟩
      · show Keeps s (s.establishWith text).2
        rw [h]
        exact ⟨rfl, rfl, fun h => ⟨h, rfl⟩⟩
      · simp [attempt?, h, CallResult.ofOutcome]
    | ok c =>
      have h : s.establishWith text = s.establish c := by rw [establishWith_eq, htext]
      exact .inr ⟨c, by simp only [target?, htext, Except.toOption], by simp only [apply, h],
        by simp only [attempt?, h]⟩
  | release => exact .inl ⟨rfl, keeps_call s _ keeps_disconnect, by simp [attempt?]⟩
  | close => exact .inl ⟨rfl, keeps_call s _ keeps_disconnect, by simp [attempt?]⟩
  | createStatement handle => exact .inl ⟨rfl, keeps_call s _ .refl, by simp [attempt?]⟩
  | getInfo number buffer => exact .inl ⟨rfl, keeps_getInfo s number buffer, by simp [attempt?]⟩
  | getAttribute id buffer => exact .inl ⟨rfl, keeps_getAttribute s id buffer, by simp [attempt?]⟩
  | setAttribute id value =>
    refine .inl ⟨rfl, keeps_call s _ fun s => ?_, by simp [attempt?]⟩
    split <;> exact .refl s
  | commit => exact .inl ⟨rfl, keeps_call s _ .refl, by simp [attempt?]⟩
  | rollback => exact .inl ⟨rfl, keeps_call s _ .refl, by simp [attempt?]⟩
  | send payload => exact .inl ⟨rfl, keeps_transfer s _, by simp [attempt?]⟩
  | receive => exact .inl ⟨rfl, keeps_transfer s _, by simp [attempt?]⟩
  | exchange request => exact .inl ⟨rfl, keeps_exchange s request, by simp [attempt?]⟩
  | statementExchange st request =>
    exact .inl ⟨rfl, keeps_statementExchange st s request, by simp [attempt?]⟩
  | pushInbound bytes => exact .inl ⟨rfl, ⟨rfl, rfl, fun h => ⟨h, rfl⟩⟩, by simp [attempt?]⟩
  | clearSent => exact .inl ⟨rfl, ⟨rfl, rfl, fun h => ⟨h, rfl⟩⟩, by simp [attempt?]⟩
  | closeTransport =>
    refine .inl ⟨rfl, ⟨rfl, rfl, fun h => ?_⟩, by simp [attempt?]⟩
    have hopen := ((isConnected_iff _).1 h).2
    exact absurd hopen (by simp [apply, MemoryTransport.close])

theorem admitted_of_check_ok (a : Action) (s : Session MemoryTransport) {c : Configuration}
    {endpoint : Endpoint} {request : Handshake.Request} (h : a.target? = some c)
    (hcheck : s.check c = .ok (endpoint, request)) : a.admitted? s = some c := by
  obtain ⟨hidle, hendpoint, hprepare⟩ := (check_eq_ok_iff _ _ _ _).1 hcheck
  simp [admitted?, h, hidle, hendpoint, hprepare, Except.isOk, Except.toBool]

theorem admitted_of_check_error (a : Action) (s : Session MemoryTransport) {c : Configuration}
    {e : DriverError} (h : a.target? = some c) (hcheck : s.check c = .error e) :
    a.admitted? s = none := by
  rw [admitted?, h, Option.filter_some, if_neg]
  intro hall
  cases hendpoint : c.endpoint with
  | error e => simp [hendpoint, Except.isOk, Except.toBool] at hall
  | ok endpoint =>
    cases hprepare : Negotiation.prepare c with
    | error e => simp [hprepare, Except.isOk, Except.toBool] at hall
    | ok request =>
      have hidle : s.isConnected = false := by simp at hall; exact hall.1.1
      have hok := (check_eq_ok_iff s c endpoint request).2 ⟨hidle, hendpoint, hprepare⟩
      exact absurd (hcheck.symm.trans hok) (by simp)

/-- **Steps.**  An action keeps the session, or it is an attempt that is admitted and fails, or one
that succeeds. -/
theorem apply_cases (a : Action) (s : Session MemoryTransport) :
    (a.admitted? s = none ∧ a.agreed? s = none ∧ Keeps s (a.apply s)) ∨
    (∃ c, a.admitted? s = some c ∧ a.agreed? s = none ∧ (a.apply s).configuration = c ∧
      (a.apply s).codec = s.codec ∧ (a.apply s).isConnected = false) ∨
    ∃ c v endpoint, a.admitted? s = some c ∧ a.agreed? s = some v ∧
      a.attempt? s = some .success ∧ (a.apply s).configuration = c ∧
      (a.apply s).codec = { version := v } ∧ (a.apply s).negotiated = some v ∧
      v.isSupported = true ∧ c.version = .ok v ∧ c.endpoint = .ok endpoint := by
  -- how far the attempt gets decides what is admitted and what is agreed
  obtain ⟨htarget, hkeeps, hattempt⟩ | ⟨c, htarget, happly, hattempt⟩ := target_cases a s
  · exact .inl ⟨by simp [admitted?, htarget], by simp [agreed?, hattempt], hkeeps⟩
  rw [happly]
  obtain ⟨⟨e, hcheck⟩, hstatus, hafter⟩ | ⟨endpoint, request, hcheck, hc, hrun⟩ :=
    establish_cases s c
  · refine .inl ⟨admitted_of_check_error a s htarget hcheck, ?_, ?_⟩
    · simp [agreed?, hattempt, hstatus]
    · rw [hafter]
      exact ⟨rfl, rfl, fun h => ⟨h, rfl⟩⟩
  have hadmitted := admitted_of_check_ok a s htarget hcheck
  obtain ⟨hstatus, hcodec, hidle, -⟩ | ⟨hstatus, -, hcodec, hversion⟩ := hrun
  · refine .inr (.inl ⟨c, hadmitted, ?_, hc, hcodec, hidle⟩)
    simp [agreed?, hattempt, hstatus]
  · obtain ⟨-, hendpoint, hprepare⟩ := (check_eq_ok_iff _ _ _ _).1 hcheck
    obtain ⟨hasked, hsupported⟩ := Negotiation.version_of_prepare hprepare
    refine .inr (.inr ⟨c, request.version, endpoint, hadmitted, ?_, ?_, hc, hcodec, hversion,
      hsupported, hasked, hendpoint⟩)
    · simp [agreed?, hattempt, hstatus, htarget, hasked, Except.toOption]
    · rw [hattempt, hstatus]

theorem codec_apply (a : Action) (s : Session MemoryTransport) :
    (a.apply s).codec.version = (a.agreed? s).getD s.codec.version := by
  obtain ⟨-, h, hkeeps⟩ | ⟨c, -, h, -, hcodec, -⟩ | ⟨c, v, endpoint, -, h, -, -, hcodec, -⟩ :=
    apply_cases a s
  · rw [h, hkeeps.codec]
    rfl
  · rw [h, hcodec]
    rfl
  · rw [h, hcodec]
    rfl

theorem configuration_apply (a : Action) (s : Session MemoryTransport) :
    (a.apply s).configuration = (a.admitted? s).getD s.configuration := by
  obtain ⟨h, -, hkeeps⟩ | ⟨c, h, -, hc, -⟩ | ⟨c, v, endpoint, h, -, -, hc, -⟩ := apply_cases a s
  · rw [h, hkeeps.configuration]
    rfl
  · rw [h, hc]
    rfl
  · rw [h, hc]
    rfl

/-- Only an attempt that succeeds connects a session. -/
theorem attempt_of_connected (a : Action) (s : Session MemoryTransport)
    (hidle : s.isConnected = false) (h : (a.apply s).isConnected = true) :
    a.attempt? s = some .success := by
  obtain ⟨-, -, hkeeps⟩ | ⟨c, -, -, -, -, hdown⟩ | ⟨c, v, endpoint, -, -, hattempt, -⟩ :=
    apply_cases a s
  · exact absurd (hkeeps.connected h).1 (by simp [hidle])
  · exact absurd h (by simp [hdown])
  · exact hattempt

end Action

/-! ## Runs -/

namespace Session

/-- The session after a run. -/
def run (s : Session MemoryTransport) (actions : List Action) : Session MemoryTransport :=
  actions.foldl (fun s a => a.apply s) s

/-- The last value that an action of a run gives, each taken with the session it finds. -/
def latest {β : Type} (f : Action → Session MemoryTransport → Option β) :
    Session MemoryTransport → List Action → Option β
  | _, [] => none
  | s, a :: as => (latest f (a.apply s) as).or (f a s)

/-- A connected session has an open transport, and one supported version that its codec and its
configuration agree on. -/
def Sound (s : Session MemoryTransport) : Prop :=
  s.isConnected = true →
    s.transport.isOpen = true ∧
      ∃ v, v.isSupported = true ∧ s.negotiated = some v ∧ s.codec.version = v ∧
        s.configuration.version = .ok v ∧ ∃ endpoint, s.configuration.endpoint = .ok endpoint

/-- No action leaves a connected session whose parts disagree. -/
theorem sound_apply (a : Action) (s : Session MemoryTransport) (h : Sound s) :
    Sound (a.apply s) := by
  -- kept by what keeps the session, and set anew by an attempt that succeeds
  intro hconnected
  have hopen : (a.apply s).transport.isOpen = true := ((isConnected_iff _).1 hconnected).2
  refine ⟨hopen, ?_⟩
  obtain ⟨-, -, hkeeps⟩ | ⟨c, -, -, -, -, hdown⟩ |
    ⟨c, v, endpoint, -, -, -, hc, hcodec, hversion, hsupported, hasked, hendpoint⟩ :=
      a.apply_cases s
  · obtain ⟨hs, hversion⟩ := hkeeps.connected hconnected
    obtain ⟨-, v, hv, hagreed, hcodec, hconfiguration⟩ := h hs
    rw [hversion, hkeeps.codec, hkeeps.configuration]
    exact ⟨v, hv, hagreed, hcodec, hconfiguration⟩
  · exact absurd hconnected (by simp [hdown])
  · rw [hc]
    exact ⟨v, hsupported, hversion, by rw [hcodec], hasked, endpoint, hendpoint⟩

theorem sound_run (s : Session MemoryTransport) (actions : List Action) (h : Sound s) :
    Sound (s.run actions) := by
  induction actions generalizing s with
  | nil => exact h
  | cons a as ih => exact ih _ (sound_apply a s h)

/-- A field that every action either leaves alone or sets to a value of its own holds the last
value that was set. -/
theorem run_latest {β : Type} (field : Session MemoryTransport → β)
    (f : Action → Session MemoryTransport → Option β)
    (hstep : ∀ a s, field (a.apply s) = (f a s).getD (field s)) (s : Session MemoryTransport)
    (actions : List Action) :
    field (s.run actions) = (s.latest f actions).getD (field s) := by
  induction actions generalizing s with
  | nil => rfl
  | cons a as ih =>
    show field ((a.apply s).run as) = ((latest f (a.apply s) as).or (f a s)).getD (field s)
    rw [ih, hstep, Option.getD_or]

/-- **Runs.**  After any run of a new session, a connected session has an open transport and one
supported version everywhere; only an attempt that succeeds connects it; and its codec and its
configuration are those of the last attempts that set them. -/
theorem run_connected (handle : SessionHandle) (t : MemoryTransport) (actions : List Action) :
    let fresh : Session MemoryTransport := { handle, transport := t }
    let s := fresh.run actions
    (s.isConnected = true →
      s.transport.isOpen = true ∧
        ∃ v, v.isSupported = true ∧ s.negotiated = some v ∧ s.codec.version = v ∧
          s.configuration.version = .ok v ∧ ∃ endpoint, s.configuration.endpoint = .ok endpoint) ∧
    (∀ a : Action, s.isConnected = false → (a.apply s).isConnected = true →
      a.attempt? s = some .success) ∧
    s.codec.version = (fresh.latest Action.agreed? actions).getD .current ∧
    s.configuration = (fresh.latest Action.admitted? actions).getD {} := by
  intro fresh s
  have hfresh : Sound fresh := fun h => by simp [fresh, isConnected] at h
  refine ⟨sound_run fresh actions hfresh, fun a => a.attempt_of_connected s, ?_, ?_⟩
  · exact run_latest (·.codec.version) Action.agreed? Action.codec_apply fresh actions
  · exact run_latest (·.configuration) Action.admitted? Action.configuration_apply fresh actions

end Session

end SqlSession
