import SqlSession.Proofs.Session.Attempt
import SqlSession.Proofs.Transport.Passage
import SqlSession.Proofs.Wire.Response
/-!
# Establishing a session over a memory transport

A session that is not connected sends one frame, the request, and reads one frame, the answer.  What
comes of it depends on two things only: whether the send budget covers the request, and the bytes
that are queued.

    succeeds        ↔  the budget covers it, and the queued bytes start with an accepting frame
    link failure    ↔  the budget does not cover it, or no complete frame is at the front
    rejected        ↔  the budget covers it, and the frame at the front does not accept

`establish_outcome` states the three cases and what each leaves behind.
-/

namespace SqlSession

/-! ## The exchange on a channel -/

namespace Channel

/-- Sends a request and reads the answer. -/
def negotiate (c : Channel) (codec : Codec) (request : Handshake.Request) :
    Except DriverError Version × Channel :=
  match c.send (codec.encodeRequest request) with
  | (.error e, c) => (.error e, c)
  | (.ok (), c) =>
    match c.receive with
    | (.error e, c) => (.error e, c)
    | (.ok payload, c) => (Negotiation.agreement codec request payload, c)

/-- **The exchange.**  With the budget for the request, the answer is read off the queued bytes; in
every other case the link fails. -/
theorem negotiate_cases (c : Channel) (codec : Codec) (request : Handshake.Request) {frame : Bytes}
    (hframe : Frame.encode (codec.encodeRequest request) = .ok frame) (hopen : c.isOpen = true)
    (hloop : c.loopback = false) :
    (∃ payload rest, c.Affords frame.length ∧ Frame.AtFront c.inbound payload rest ∧
      c.negotiate codec request = (Negotiation.agreement codec request payload,
        { c.accept frame with inbound := rest })) ∨
    ((c.Affords frame.length → ∀ payload rest, ¬ Frame.AtFront c.inbound payload rest) ∧
      ∃ e c', c.negotiate codec request = (.error e, c') ∧ e.state = .linkFailure) := by
  by_cases hbudget : c.Affords frame.length
  · have hsend := send_of_affords c hframe hopen hbudget
    have hinbound : (c.accept frame).inbound = c.inbound := by simp [accept, hloop]
    by_cases hfront : ∃ payload rest, Frame.AtFront c.inbound payload rest
    · obtain ⟨payload, rest, hfront⟩ := hfront
      have hreceive := receive_of_atFront (c.accept frame) hopen (hinbound ▸ hfront)
      refine .inl ⟨payload, rest, hbudget, hfront, ?_⟩
      simp only [negotiate, hsend, hreceive]
    · have hnone : ∀ payload rest, ¬ Frame.AtFront c.inbound payload rest :=
        fun payload rest h => hfront ⟨payload, rest, h⟩
      obtain ⟨e, c', hreceive, he⟩ :=
        receive_of_not_atFront (c.accept frame) hopen (hinbound ▸ hnone)
      refine .inr ⟨fun _ => hnone, e, c', ?_, he⟩
      simp only [negotiate, hsend, hreceive]
  · obtain ⟨e, c', hsend, he⟩ := send_of_not_affords c hframe hopen hbudget
    refine .inr ⟨fun h => absurd h hbudget, e, c', ?_, he⟩
    simp only [negotiate, hsend]

end Channel

namespace Negotiation

theorem negotiate_eq (t : MemoryTransport) (codec : Codec) (request : Handshake.Request) :
    (negotiate t codec request).1 = (t.channel.negotiate codec request).1 ∧
      (negotiate t codec request).2.channel = (t.channel.negotiate codec request).2 := by
  have hsend := Framing.send_eq t (codec.encodeRequest request)
  unfold negotiate Channel.negotiate
  rcases hs : Framing.send t (codec.encodeRequest request) with ⟨sent, t'⟩
  rcases hs' : t.channel.send (codec.encodeRequest request) with ⟨sent', c'⟩
  rw [hs, hs'] at hsend
  obtain ⟨rfl, rfl⟩ : sent = sent' ∧ t'.channel = c' := hsend
  cases sent with
  | error e => exact ⟨rfl, rfl⟩
  | ok done =>
    have hreceive := Framing.receive_eq t'
    rcases hr : Framing.receive t' with ⟨answer, t''⟩
    rcases hr' : t'.channel.receive with ⟨answer', c''⟩
    rw [hr, hr'] at hreceive
    obtain ⟨rfl, rfl⟩ : answer = answer' ∧ t''.channel = c'' := hreceive
    simp only [hr, hr']
    cases answer <;> exact ⟨rfl, rfl⟩

end Negotiation

/-- Every request fits into a frame. -/
theorem Handshake.encode_request (codec : Codec) (request : Request) :
    ∃ frame, Frame.encode (codec.encodeRequest request) = .ok frame := by
  have hlen : (codec.encodeRequest request).length ≤ Frame.maxPayload := by
    have hmax : 13 ≤ Frame.maxPayload := by decide
    refine Nat.le_trans ?_ hmax
    simp only [Codec.encodeRequest, Request.encode, encodeVersion, encodeFlag, Bytes.littleEndian,
      List.length_append, List.length_cons, List.length_nil]
    split <;> simp
  exact ⟨_, Frame.encode_of_le hlen⟩

namespace Session

/-! ## Attempts over a memory transport -/

/-- What a successful attempt leaves: the request is behind the bytes sent before, and one frame is
taken off the queued bytes. -/
structure Established (before after : Session MemoryTransport) (version : Version)
    (frame : Bytes) : Prop where
  connected : after.state = .connected
  version : after.negotiated = some version
  sent : after.transport.sent.toList = before.transport.sent.toList ++ frame
  received : ∃ payload, Frame.AtFront before.transport.inbound.toList payload
    after.transport.inbound.toList

/-- What a failed attempt leaves. -/
structure Dropped (after : Session MemoryTransport) : Prop where
  closed : after.transport.isOpen = false
  disconnected : after.state = .disconnected
  version : after.negotiated = none

theorem dropped_disconnect (s : Session MemoryTransport) : Dropped s.disconnect := ⟨rfl, rfl, rfl⟩

/-- The transport that an attempt exchanges messages over. -/
def opened (t : MemoryTransport) (timeout : Option UInt64) : MemoryTransport :=
  { t with connectTimeout := timeout, connectCalls := t.connectCalls + 1, isOpen := true }

section Start

variable {s : Session MemoryTransport} {c : Configuration} {endpoint : Endpoint}
  {request : Handshake.Request} {frame : Bytes}
  (hcheck : s.check c = .ok (endpoint, request)) (hrefuses : s.transport.refuses = false)
  (hloop : s.transport.loopback = false)
  (hframe : Frame.encode (s.codec.encodeRequest request) = .ok frame)

include hcheck hrefuses hloop hframe

omit hloop hframe in
/-- Past its check, an attempt is the exchange and what follows from it. -/
theorem start_exchange :
    (∃ e t, Negotiation.negotiate (opened s.transport c.connectTimeout) s.codec request =
        (.error e, t) ∧
      s.start c = (.error e, { s with configuration := c, transport := t }.disconnect)) ∨
    ∃ t, Negotiation.negotiate (opened s.transport c.connectTimeout) s.codec request =
        (.ok request.version, t) ∧
      s.start c = (.ok (),
        { s with
          configuration := c
          transport := t
          phase := .connected
          codec := { version := request.version }
          negotiated := some request.version }) := by
  have hopens : Transport.connect (Transport.setConnectTimeout s.transport c.connectTimeout)
      endpoint.host endpoint.port = (.ok (), opened s.transport c.connectTimeout) := by
    simp [Transport.connect, Transport.setConnectTimeout, MemoryTransport.connect, hrefuses, opened]
  obtain ⟨e, hfail, -⟩ | ⟨endpoint', request', hcheck', hrun⟩ := start_cases s c
  · simp [hcheck] at hfail
  obtain ⟨rfl, rfl⟩ : endpoint = endpoint' ∧ request = request' := by simpa [hcheck] using hcheck'
  obtain ⟨cause, t, hconnect, -⟩ | ⟨t, hconnect, hrun⟩ := hrun
  · simp [hopens] at hconnect
  · obtain rfl : opened s.transport c.connectTimeout = t := by simpa [hopens] using hconnect
    exact hrun

omit hloop hframe in
/-- An exchange that fails ends the attempt with its error. -/
theorem start_of_error {e : DriverError}
    (h : (Negotiation.negotiate (opened s.transport c.connectTimeout) s.codec request).1 =
      .error e) : (s.start c).1 = .error e ∧ Dropped (s.start c).2 := by
  obtain ⟨e', t, hrun, hstart⟩ | ⟨t, hrun, -⟩ := start_exchange hcheck hrefuses
  · obtain rfl : e' = e := by simpa [hrun] using h
    rw [hstart]
    exact ⟨rfl, dropped_disconnect _⟩
  · simp [hrun] at h

/-- How an attempt ends that is checked and whose transport connects. -/
theorem start_memory_cases :
    (∃ payload rest, s.transport.channel.Affords frame.length ∧
      Frame.AtFront s.transport.inbound.toList payload rest ∧
      (Handshake.Accepts payload ∧ (s.start c).1 = .ok () ∧
          Established s (s.start c).2 request.version frame ∨
        ¬ Handshake.Accepts payload ∧
          (∃ e, (s.start c).1 = .error e ∧ e.state = .connectionRejected) ∧
          Dropped (s.start c).2)) ∨
    ((s.transport.channel.Affords frame.length →
        ∀ payload rest, ¬ Frame.AtFront s.transport.inbound.toList payload rest) ∧
      (∃ e, (s.start c).1 = .error e ∧ e.state = .linkFailure) ∧ Dropped (s.start c).2) := by
  have hexchange := Negotiation.negotiate_eq (opened s.transport c.connectTimeout) s.codec request
  have hchannel := Channel.negotiate_cases (opened s.transport c.connectTimeout).channel s.codec
    request hframe rfl hloop
  obtain ⟨payload, rest, hbudget, hfront, hnegotiate⟩ | ⟨hnone, e, c', hnegotiate, he⟩ := hchannel
  · rw [hnegotiate] at hexchange
    obtain ⟨hanswer, hafter⟩ := hexchange
    refine .inl ⟨payload, rest, hbudget, hfront, ?_⟩
    -- an answer was read, and its first byte decides
    by_cases haccepts : Handshake.Accepts payload
    · rw [Negotiation.agreement_of_accepts _ _ haccepts] at hanswer
      obtain ⟨e, t, hrun, -⟩ | ⟨t, hrun, hstart⟩ := start_exchange hcheck hrefuses
      · simp [hrun] at hanswer
      rw [hrun] at hafter
      have hopen : t.isOpen = true := congrArg Channel.isOpen hafter
      have hsent : t.sent.toList = s.transport.sent.toList ++ frame := congrArg Channel.sent hafter
      have hqueued : t.inbound.toList = rest := congrArg Channel.inbound hafter
      rw [hstart]
      refine .inl ⟨haccepts, rfl, ⟨?_, rfl, hsent, payload, ?_⟩⟩
      · exact (state_eq_connected_iff _).2 ((isConnected_iff _).2 ⟨rfl, hopen⟩)
      · rw [hqueued]
        exact hfront
    · obtain ⟨e, hagreement, he⟩ := Negotiation.agreement_of_not_accepts s.codec request haccepts
      obtain ⟨herror, hdropped⟩ := start_of_error hcheck hrefuses (hanswer.trans hagreement)
      exact .inr ⟨haccepts, ⟨e, herror, he⟩, hdropped⟩
  · rw [hnegotiate] at hexchange
    obtain ⟨herror, hdropped⟩ := start_of_error hcheck hrefuses hexchange.1
    exact .inr ⟨hnone, ⟨e, herror, he⟩, hdropped⟩

/-- With the budget for the request, an accepting frame at the front is all it takes. -/
theorem start_of_accepts {payload rest : Bytes}
    (hbudget : s.transport.channel.Affords frame.length)
    (hfront : Frame.AtFront s.transport.inbound.toList payload rest)
    (haccepts : Handshake.Accepts payload) :
    (s.start c).1 = .ok () ∧ Established s (s.start c).2 request.version frame := by
  obtain ⟨payload', rest', -, hfront', ⟨-, hstart⟩ | ⟨hrefused, -⟩⟩ | ⟨hnone, -⟩ :=
    start_memory_cases hcheck hrefuses hloop hframe
  · exact hstart
  · exact absurd ((hfront.unique hfront').1 ▸ haccepts) hrefused
  · exact absurd hfront (hnone hbudget payload rest)

theorem start_succeeds_iff :
    (∃ value, (s.start c).1 = .ok value) ↔
      s.transport.channel.Affords frame.length ∧
        ∃ payload rest, Frame.AtFront s.transport.inbound.toList payload rest ∧
          Handshake.Accepts payload := by
  constructor
  · rintro ⟨value, hok⟩
    obtain ⟨payload, rest, hbudget, hfront, ⟨haccepts, -⟩ | ⟨-, ⟨e, herror, -⟩, -⟩⟩ |
      ⟨-, ⟨e, herror, -⟩, -⟩ := start_memory_cases hcheck hrefuses hloop hframe
    · exact ⟨hbudget, payload, rest, hfront, haccepts⟩
    · simp [herror] at hok
    · simp [herror] at hok
  · rintro ⟨hbudget, payload, rest, hfront, haccepts⟩
    have hstart := start_of_accepts hcheck hrefuses hloop hframe hbudget hfront haccepts
    exact ⟨(), hstart.1⟩

theorem start_linkFailure_iff :
    (∃ e, (s.start c).1 = .error e ∧ e.state = .linkFailure) ↔
      ¬ s.transport.channel.Affords frame.length ∨
        (∀ payload rest, ¬ Frame.AtFront s.transport.inbound.toList payload rest) ∨
        Frame.NegativeLength s.transport.inbound.toList := by
  obtain ⟨payload, rest, hbudget, hfront, hanswer⟩ | ⟨hnone, hfailed, -⟩ :=
    start_memory_cases hcheck hrefuses hloop hframe
  · have hlinked : ¬ (∃ e, (s.start c).1 = .error e ∧ e.state = .linkFailure) := by
      rintro ⟨e, herror, he⟩
      obtain ⟨-, hok, -⟩ | ⟨-, ⟨e', herror', he'⟩, -⟩ := hanswer
      · simp [hok] at herror
      · obtain rfl : e = e' := by simpa [herror] using herror'
        simp [he] at he'
    refine iff_of_false hlinked ?_
    rintro (h | h | h)
    · exact h hbudget
    · exact h payload rest hfront
    · exact hfront.not_negativeLength h
  · refine iff_of_true hfailed ?_
    by_cases hbudget : s.transport.channel.Affords frame.length
    · exact .inr (.inl (hnone hbudget))
    · exact .inl hbudget

theorem start_rejected_iff :
    (∃ e, (s.start c).1 = .error e ∧ e.state = .connectionRejected) ↔
      s.transport.channel.Affords frame.length ∧
        ∃ payload rest, Frame.AtFront s.transport.inbound.toList payload rest ∧
          ¬ Handshake.Accepts payload := by
  constructor
  · rintro ⟨e, herror, he⟩
    obtain ⟨payload, rest, hbudget, hfront, ⟨-, hok, -⟩ | ⟨hrefused, -⟩⟩ |
      ⟨-, ⟨e', herror', he'⟩, -⟩ := start_memory_cases hcheck hrefuses hloop hframe
    · simp [hok] at herror
    · exact ⟨hbudget, payload, rest, hfront, hrefused⟩
    · obtain rfl : e = e' := by simpa [herror] using herror'
      simp [he] at he'
  · rintro ⟨hbudget, payload, rest, hfront, hrefused⟩
    obtain ⟨payload', rest', -, hfront', ⟨haccepts, -⟩ | ⟨-, hfailed, -⟩⟩ | ⟨hnone, -⟩ :=
      start_memory_cases hcheck hrefuses hloop hframe
    · exact absurd ((hfront'.unique hfront).1 ▸ haccepts) hrefused
    · exact hfailed
    · exact absurd hfront (hnone hbudget payload rest)

/-- An attempt that does not succeed closes the transport and forgets the version. -/
theorem dropped_of_start (h : ¬ ∃ value, (s.start c).1 = .ok value) : Dropped (s.start c).2 := by
  obtain ⟨payload, rest, -, -, ⟨-, hok, -⟩ | ⟨-, -, hdropped⟩⟩ | ⟨-, -, hdropped⟩ :=
    start_memory_cases hcheck hrefuses hloop hframe
  · exact absurd ⟨(), hok⟩ h
  · exact hdropped
  · exact hdropped

end Start

/-- **Establishing a session.**  The queued bytes and the send budget decide what comes of it. -/
theorem establish_outcome (s : Session MemoryTransport) (c : Configuration) (endpoint : Endpoint)
    (request : Handshake.Request) (hidle : s.isConnected = false)
    (hrefuses : s.transport.refuses = false) (hloop : s.transport.loopback = false)
    (hendpoint : c.endpoint = .ok endpoint) (hprepare : Negotiation.prepare c = .ok request) :
    ∃ frame, Frame.encode (s.codec.encodeRequest request) = .ok frame ∧
      ((s.establish c).1.status = .success ↔
        (∀ budget ∈ s.transport.sendBudget, frame.length ≤ budget) ∧
          ∃ payload rest, Frame.AtFront s.transport.inbound.toList payload rest ∧
            Handshake.Accepts payload) ∧
      ((s.establish c).1.Reports .linkFailure ↔
        ¬ (∀ budget ∈ s.transport.sendBudget, frame.length ≤ budget) ∨
          (∀ payload rest, ¬ Frame.AtFront s.transport.inbound.toList payload rest) ∨
          Frame.NegativeLength s.transport.inbound.toList) ∧
      ((s.establish c).1.Reports .connectionRejected ↔
        (∀ budget ∈ s.transport.sendBudget, frame.length ≤ budget) ∧
          ∃ payload rest, Frame.AtFront s.transport.inbound.toList payload rest ∧
            ¬ Handshake.Accepts payload) ∧
      ((s.establish c).1.status = .success →
        c.version = .ok request.version ∧
          Established s (s.establish c).2 request.version frame) ∧
      ((s.establish c).1.status ≠ .success → Dropped (s.establish c).2) := by
  obtain ⟨frame, hframe⟩ := Handshake.encode_request s.codec request
  refine ⟨frame, hframe, ?_⟩
  have hcheck : s.cleared.check c = .ok (endpoint, request) :=
    (check_eq_ok_iff _ _ _ _).2 ⟨hidle, hendpoint, hprepare⟩
  have hsucceeds := start_succeeds_iff hcheck hrefuses hloop hframe
  simp only [establish_eq, ne_eq, CallResult.status_ofOutcome, CallResult.reports_ofOutcome]
  refine ⟨hsucceeds, start_linkFailure_iff hcheck hrefuses hloop hframe,
    start_rejected_iff hcheck hrefuses hloop hframe, fun h => ?_, fun h => ?_⟩
  · obtain ⟨hbudget, payload, rest, hfront, haccepts⟩ := hsucceeds.1 h
    have hleft := (start_of_accepts hcheck hrefuses hloop hframe hbudget hfront haccepts).2
    refine ⟨(Negotiation.version_of_prepare hprepare).1, ?_⟩
    exact ⟨hleft.connected, hleft.version, hleft.sent, hleft.received⟩
  · have hdropped := dropped_of_start hcheck hrefuses hloop hframe h
    exact ⟨hdropped.closed, hdropped.disconnected, hdropped.version⟩

/-- A node that accepts with one byte. -/
theorem establish_outcome_acceptance :
    (({ handle := (({} : HandleSource).drawSession).1
        transport := ({} : MemoryTransport).pushInbound [1, 0, 0, 0, 1] } :
      Session MemoryTransport).establish {}).1.status = .success := by
  obtain ⟨frame, -, hsuccess, -⟩ := establish_outcome
    { handle := (({} : HandleSource).drawSession).1
      transport := ({} : MemoryTransport).pushInbound [1, 0, 0, 0, 1] }
    {} ⟨"localhost", defaultPort⟩ { version := .current } rfl rfl rfl rfl rfl
  refine hsuccess.2 ⟨?_, [1], [], ⟨[1, 0, 0, 0], rfl, by decide, rfl⟩, 1, [], rfl, by decide⟩
  rintro budget ⟨⟩

end Session

end SqlSession
