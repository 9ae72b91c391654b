import SqlSession.Proofs.Session.Run
import SqlSession.Proofs.Transport.Traffic
/-!
# Transfers

A transfer sends a message, receives one, or exchanges two.  Over a memory transport it ends in one
of four ways (`Ends`):

    session not connected   →  not connected, and nothing changes
    payload too long        →  a general error, and nothing changes
    link fails              →  a link failure; the session is disconnected and its version gone
    otherwise               →  a value; the transport has moved, and nothing else changed

A session that lost its link stays so, whatever is done to it, until an attempt to connect succeeds.
Until then every transfer finds it not connected and leaves its transport alone.

* `ends_send`, `ends_receive`, `ends_exchange`: the four ways.
* `transfers_settle`: what they mean for a session, and for all that comes after a link failure.
-/

namespace SqlSession

/-! ## Transfers that succeed leave the transport open -/

namespace Channel

theorem isOpen_offer (c : Channel) (bytes : Bytes) (hopen : c.isOpen = true)
    (h : (c.offer bytes).1 = []) : (c.offer bytes).2.isOpen = true := by
  have hle := allowance_le c bytes.length
  unfold offer at h ⊢
  split
  · exact hopen
  · rename_i hbytes
    simp only [hbytes, hopen, if_true, if_false, List.drop_eq_nil_iff] at h ⊢
    rw [if_pos (by omega)]
    exact hopen

end Channel

namespace Framing

theorem isOpen_of_send {t t' : MemoryTransport} {payload : Bytes} (hopen : t.isOpen = true)
    (h : send t payload = (.ok (), t')) : t'.isOpen = true := by
  obtain ⟨hresult, hafter⟩ := send_eq t payload
  rw [h] at hresult hafter
  rw [← MemoryTransport.channel_isOpen, hafter]
  unfold Channel.send at hresult ⊢
  cases hframe : Frame.encode payload with
  | error e => simp [hframe] at hresult
  | ok frame =>
    rw [hframe] at hresult
    dsimp only at hresult ⊢
    split at hresult
    · rename_i hleft
      rw [if_pos hleft]
      exact Channel.isOpen_offer _ frame hopen hleft
    · simp at hresult

theorem isOpen_of_receive {t t' : MemoryTransport} {payload : Bytes} (hopen : t.isOpen = true)
    (h : receive t = (.ok payload, t')) : t'.isOpen = true := by
  obtain ⟨hresult, hafter⟩ := receive_eq t
  rw [h] at hresult hafter
  rw [← MemoryTransport.channel_isOpen, hafter]
  have hchannel : t.channel.isOpen = true := hopen
  unfold Channel.receive at hresult ⊢
  simp only [hchannel, if_true] at hresult ⊢
  split
  · rfl
  · rename_i hdecode
    simp [hdecode] at hresult
  · rename_i hdecode
    simp [hdecode] at hresult

end Framing

namespace Session

/-! ## How transfers end -/

/-- The payload that is sent, if any, is short enough for a frame. -/
def Fits (payload : Option Bytes) : Prop := ∀ p ∈ payload, p.length ≤ Frame.maxPayload

/-- How a transfer of a session ends that sends a payload first, or sends none: its outcome and the
session it leaves. -/
inductive Ends {α : Type} (s : Session MemoryTransport) (payload : Option Bytes) :
    Except DriverError α × Session MemoryTransport → Prop
  | idle : s.isConnected = false →
      Ends s payload (.error (.notConnected "Connection is not established"), s)
  | tooLong (p : Bytes) : s.isConnected = true → p ∈ payload → Frame.maxPayload < p.length →
      Ends s payload
        (.error (.general (WireError.frameTooLarge p.length Frame.maxPayload).message), s)
  | lost (text : String) (t : MemoryTransport) : s.isConnected = true → Fits payload →
      Ends s payload (.error (.linkFailure text), { s with transport := t }.disconnect)
  | done (value : α) (t : MemoryTransport) : s.isConnected = true → Fits payload →
      t.isOpen = true → Ends s payload (.ok value, { s with transport := t })

section

variable {α : Type} (s : Session MemoryTransport)

theorem ends_transfer (payload : Option Bytes)
    (op : MemoryTransport → Except DriverError α × MemoryTransport)
    (hok : ∀ value t, s.transport.isOpen = true → op s.transport = (.ok value, t) →
      Fits payload ∧ t.isOpen = true)
    (herror : ∀ e t, op s.transport = (.error e, t) →
      (∃ p ∈ payload, Frame.maxPayload < p.length ∧
        e = .general (WireError.frameTooLarge p.length Frame.maxPayload).message ∧
        t = s.transport) ∨
      Fits payload ∧ ∃ text, e = .linkFailure text) :
    Ends s payload (s.transfer op) := by
  unfold transfer
  cases hs : s.isConnected with
  | false => exact .idle hs
  | true =>
    have hopen : s.transport.isOpen = true := ((isConnected_iff s).1 hs).2
    rcases hop : op s.transport with ⟨e | value, t⟩
    · obtain ⟨p, hp, hlong, rfl, rfl⟩ | ⟨hfits, text, rfl⟩ := herror e t hop
      · have hstays : Transport.isOpen s.transport = true := hopen
        simp only [if_true, trackLink, DriverError.closesTransport, hstays, Bool.not_true,
          Bool.or_self, Bool.false_eq_true, if_false]
        exact .tooLong p hs hp hlong
      · exact .lost text t hs hfits
    · obtain ⟨hfits, hafter⟩ := hok value t hopen hop
      exact .done value t hs hfits hafter

theorem ends_send (payload : Bytes) : Ends s (some payload) (s.send payload) := by
  refine ends_transfer s (some payload) _ (fun value t hopen h => ?_) (fun e t h => ?_)
  · refine ⟨?_, Framing.isOpen_of_send hopen h⟩
    rintro p ⟨⟩
    rcases Nat.lt_or_ge Frame.maxPayload payload.length with hlt | hle
    · simp [Framing.send, Frame.encode_of_gt hlt] at h
    · exact hle
  · obtain ⟨cause, hcause, rfl, rfl⟩ | ⟨⟨frame, hframe⟩, text, rfl⟩ := Framing.error_of_send h
    · rcases Nat.lt_or_ge Frame.maxPayload payload.length with hlt | hle
      · rw [Frame.encode_of_gt hlt, Except.error.injEq] at hcause
        subst hcause
        exact .inl ⟨payload, rfl, hlt, rfl, rfl⟩
      · simp [Frame.encode_of_le hle] at hcause
    · refine .inr ⟨?_, text, rfl⟩
      rintro p ⟨⟩
      exact Frame.length_le_of_encode hframe

theorem ends_receive : Ends s none s.receive := by
  have hfits : Fits none := by
    rintro p ⟨⟩
  exact ends_transfer s none _ (fun _ _ hopen h => ⟨hfits, Framing.isOpen_of_receive hopen h⟩)
    (fun _ _ h => .inr ⟨hfits, Framing.error_of_receive h⟩)

/-- An exchange ends like its send, unless that is done; then it ends like its receive. -/
theorem ends_exchange (request : Bytes) : Ends s (some request) (s.exchange request) := by
  unfold exchange
  have hsend := ends_send s request
  generalize s.send request = sent at hsend
  cases hsend with
  | idle hs => exact .idle hs
  | tooLong p hs hp hlong => exact .tooLong p hs hp hlong
  | lost text t hs hfits => exact .lost text t hs hfits
  | done value t hs hfits hopen =>
    have hs' : ({ s with transport := t } : Session MemoryTransport).isConnected = true :=
      (isConnected_iff _).2 ⟨((isConnected_iff s).1 hs).1, hopen⟩
    have hreceive := ends_receive { s with transport := t }
    dsimp only
    generalize ({ s with transport := t } : Session MemoryTransport).receive = received at hreceive
    cases hreceive with
    | idle hidle => exact absurd hs' (by simp [hidle])
    | tooLong p _ hp => exact absurd hp (by simp)
    | lost text t' => exact .lost text t' hs hfits
    | done value t' _ _ hopen' => exact .done value t' hs hfits hopen'

end

/-! ## What a transfer means for its session -/

/-- What holds of the result of a transfer, and of the session it leaves. -/
structure Settles {α : Type} (s : Session MemoryTransport) (payload : Option Bytes)
    (r : Except DriverError α × Session MemoryTransport) : Prop where
  idle : s.isConnected = false →
    r = (.error (.notConnected "Connection is not established"), s)
  tooLong : s.isConnected = true → ∀ p ∈ payload, Frame.maxPayload < p.length →
    r = (.error (.general (WireError.frameTooLarge p.length Frame.maxPayload).message), s)
  failed : s.isConnected = true → Fits payload → ∀ e, r.1 = .error e → ∃ text, e = .linkFailure text
  lost : ∀ text, r.1 = .error (.linkFailure text) →
    r.2.transport.isOpen = false ∧ r.2.state = .disconnected ∧ r.2.negotiated = none
  done : ∀ value, r.1 = .ok value →
    r.2.isConnected = true ∧ r.2.negotiated = s.negotiated ∧
      r.2.configuration = s.configuration ∧ r.2.codec = s.codec
  log : r.2.diagnostics = s.diagnostics

theorem settles_of_ends {α : Type} {s : Session MemoryTransport} {payload : Option Bytes}
    {r : Except DriverError α × Session MemoryTransport} (h : Ends s payload r) :
    Settles s payload r := by
  cases h with
  | idle hs => constructor <;> simp [hs]
  | tooLong p hs hp hlong =>
    have hunfit : ¬ Fits payload := fun hfits => absurd (hfits p hp) (by omega)
    constructor
    · simp [hs]
    · rintro - p' hp' -
      obtain rfl : p = p' := Option.mem_unique hp hp'
      rfl
    · exact fun _ hfits => absurd hfits hunfit
    · simp
    · simp
    · rfl
  | lost text t hs hfits =>
    constructor
    · simp [hs]
    · exact fun _ p hp hlong => absurd (hfits p hp) (by omega)
    · rintro - - e he
      exact ⟨text, (Except.error.inj he).symm⟩
    · exact fun _ _ => ⟨rfl, rfl, rfl⟩
    · simp
    · rfl
  | done value t hs hfits hopen =>
    constructor
    · simp [hs]
    · exact fun _ p hp hlong => absurd (hfits p hp) (by omega)
    · simp
    · simp
    · rintro - -
      exact ⟨(isConnected_iff _).2 ⟨((isConnected_iff s).1 hs).1, hopen⟩, rfl, rfl, rfl⟩
    · rfl

/-! ## After the link is lost -/

section

variable {s s' : Session MemoryTransport} {payload : Option Bytes} {α : Type}

theorem handle_of_ends {r : Except DriverError α × Session MemoryTransport}
    (h : Ends s payload r) : r.2.handle = s.handle := by
  cases h <;> rfl

theorem isConnected_of_lost {text : String}
    (h : Ends s payload ((.error (.linkFailure text) : Except DriverError α), s')) :
    s'.isConnected = false := by
  cases h
  rfl

end

/-! A session has one handle for its life. -/

section

variable {τ : Type} [Transport τ] {α : Type} (s : Session τ)

theorem handle_start (c : Configuration) : (s.start c).2.handle = s.handle := by
  obtain ⟨e, -, h⟩ | ⟨endpoint, request, -, hrun⟩ := start_cases s c
  · exact congrArg (·.2.handle) h
  · obtain ⟨cause, t, -, h⟩ | ⟨t, -, ⟨e, t', -, h⟩ | ⟨t', -, h⟩⟩ := hrun <;>
      exact congrArg (·.2.handle) h

omit [Transport τ] in
/-- A call keeps the handle if its operation does. -/
theorem handle_call (op : Session τ → Except DriverError α × Session τ)
    (h : ∀ s, (op s).2.handle = s.handle) : (s.call op).2.handle = s.handle := h s.cleared

theorem handle_establish (c : Configuration) : (s.establish c).2.handle = s.handle :=
  handle_call s _ fun s => handle_start s c

theorem handle_establishWith (text : String) : (s.establishWith text).2.handle = s.handle := by
  refine handle_call s _ fun s => ?_
  cases Configuration.ofConnectString text with
  | error e => rfl
  | ok c => exact handle_start s c

omit [Transport τ] in
theorem handle_getInfo (number : UInt16) (buffer : Bytes) :
    (s.getInfo number buffer).2.handle = s.handle := by
  unfold getInfo
  dsimp only
  refine handle_call s _ fun s => ?_
  split
  · rfl
  · dsimp only
    split <;> rfl

omit [Transport τ] in
theorem handle_setAttribute (id : Int32) (value : Bytes) :
    (s.setAttribute id value).2.handle = s.handle := by
  refine handle_call s _ fun s => ?_
  split <;> rfl

theorem handle_trackLink (outcome : Except DriverError α) :
    (s.trackLink outcome).2.handle = s.handle := by
  unfold trackLink
  cases outcome with
  | ok value => rfl
  | error e =>
    dsimp only
    split <;> rfl

theorem handle_transfer (op : τ → Except DriverError α × τ) :
    (s.transfer op).2.handle = s.handle := by
  unfold transfer
  split
  · exact handle_trackLink _ _
  · rfl

theorem handle_exchange (request : Bytes) : (s.exchange request).2.handle = s.handle := by
  have hsend : (s.send request).2.handle = s.handle := handle_transfer s _
  unfold exchange
  split
  · rename_i e s' h
    rw [h] at hsend
    exact hsend
  · rename_i s' h
    rw [h] at hsend
    exact (handle_transfer s' _).trans hsend

theorem handle_statementExchange (st : Statement) (request : Bytes) :
    (st.exchange s request).2.2.handle = s.handle := by
  unfold Statement.exchange
  dsimp only
  split
  · exact handle_exchange s request
  · rfl

end

theorem handle_apply (a : Action) (s : Session MemoryTransport) :
    (a.apply s).handle = s.handle := by
  cases a with
  | establish c => exact handle_establish s c
  | establishWith text => exact handle_establishWith s text
  | getInfo number buffer => exact handle_getInfo s number buffer
  | setAttribute id value => exact handle_setAttribute s id value
  | send payload => exact handle_transfer s _
  | receive => exact handle_transfer s _
  | exchange request => exact handle_exchange s request
  | statementExchange st request => exact handle_statementExchange s st request
  | _ => rfl

theorem handle_run (s : Session MemoryTransport) (actions : List Action) :
    (s.run actions).handle = s.handle := by
  induction actions generalizing s with
  | nil => rfl
  | cons a as ih => exact (ih (a.apply s)).trans (handle_apply a s)

/-- No attempt to connect succeeds in a run. -/
def NoneSucceeds : Session MemoryTransport → List Action → Prop
  | _, [] => True
  | s, a :: as => a.attempt? s ≠ some .success ∧ NoneSucceeds (a.apply s) as

/-- Nothing but an attempt that succeeds brings a session back. -/
theorem isConnected_run {s : Session MemoryTransport} {actions : List Action}
    (hidle : s.isConnected = false) (h : s.NoneSucceeds actions) :
    (s.run actions).isConnected = false := by
  induction actions generalizing s with
  | nil => exact hidle
  | cons a as ih =>
    obtain ⟨hfails, hrest⟩ := h
    refine ih ?_ hrest
    rw [Bool.eq_false_iff]
    exact fun hconnected => hfails (a.attempt_of_connected s hidle hconnected)

/-- A transfer of `s` fails with its link and leaves `s'`. -/
def LosesLink (s s' : Session MemoryTransport) : Prop :=
  ∃ text, (∃ payload, s.send payload = (.error (.linkFailure text), s')) ∨
    s.receive = (.error (.linkFailure text), s') ∨
    ∃ request, s.exchange request = (.error (.linkFailure text), s')

theorem losesLink_cases {s s' : Session MemoryTransport} (h : LosesLink s s') :
    s'.handle = s.handle ∧ s'.isConnected = false := by
  obtain ⟨text, ⟨payload, h⟩ | h | ⟨request, h⟩⟩ := h
  · have hends := ends_send s payload
    rw [h] at hends
    exact ⟨handle_of_ends hends, isConnected_of_lost hends⟩
  · have hends := ends_receive s
    rw [h] at hends
    exact ⟨handle_of_ends hends, isConnected_of_lost hends⟩
  · have hends := ends_exchange s request
    rw [h] at hends
    exact ⟨handle_of_ends hends, isConnected_of_lost hends⟩

/-- Every transfer of a session that is not connected says so, and leaves it as it is. -/
structure Dead (s : Session MemoryTransport) : Prop where
  send : ∀ payload,
    s.send payload = (.error (.notConnected "Connection is not established"), s)
  receive : s.receive = (.error (.notConnected "Connection is not established"), s)
  exchange : ∀ request,
    s.exchange request = (.error (.notConnected "Connection is not established"), s)
  statement : ∀ (st : Statement) (request : Bytes), st.creator = s.handle →
    (st.exchange s request).1.Reports .notConnected ∧ (st.exchange s request).2.2 = s

theorem dead_of_idle {s : Session MemoryTransport} (hidle : s.isConnected = false) : Dead s := by
  have hexchange request := (settles_of_ends (ends_exchange s request)).idle hidle
  refine ⟨fun payload => (settles_of_ends (ends_send s payload)).idle hidle,
    (settles_of_ends (ends_receive s)).idle hidle, hexchange, fun st request hcreator => ?_⟩
  simp only [Statement.exchange, hcreator, if_true, hexchange]
  exact ⟨⟨rfl, rfl, _, rfl, rfl⟩, trivial⟩

/-- **Transfers.**  What each means for its session, and what a link failure means for all that
follows, in any order, until an attempt to connect succeeds. -/
theorem transfers_settle (s : Session MemoryTransport) :
    (∀ payload, Settles s (some payload) (s.send payload)) ∧
    Settles s none s.receive ∧
    (∀ request, Settles s (some request) (s.exchange request)) ∧
    ∀ s', LosesLink s s' → ∀ actions, s'.NoneSucceeds actions →
      (s'.run actions).handle = s.handle ∧ Dead (s'.run actions) := by
  refine ⟨fun payload => settles_of_ends (ends_send s payload), settles_of_ends (ends_receive s),
    fun request => settles_of_ends (ends_exchange s request), fun s' hlost actions hnone => ?_⟩
  obtain ⟨hhandle, hidle⟩ := losesLink_cases hlost
  exact ⟨(handle_run s' actions).trans hhandle, dead_of_idle (isConnected_run hidle hnone)⟩

end Session

end SqlSession
