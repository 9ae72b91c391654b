import SqlSession.Proofs.Session.Establish
import SqlSession.Proofs.Wire.Handshake
/-!
# What the two sides of a handshake see

The node sees one frame with the request that the configuration asks for, whatever it answers, and
whatever version an earlier session spoke.  If it rejects the request, the record of the failed call
says so, with the version of the node and its text as the node gave them.

* `establish_request`: what the node reads.
* `establish_rejection`: what a rejected client reports.
-/

namespace SqlSession

namespace Channel

/-! ## What an exchange moves -/

theorem sent_receive (c : Channel) : c.receive.2.sent = c.sent := by
  unfold receive
  split
  · split <;> rfl
  · rfl

/-- With the budget for a request it is sent, whatever comes of it. -/
theorem sent_negotiate (c : Channel) (codec : Codec) {request : Handshake.Request} {frame : Bytes}
    (hframe : Frame.encode (codec.encodeRequest request) = .ok frame) (hopen : c.isOpen = true)
    (hbudget : c.Affords frame.length) :
    (c.negotiate codec request).2.sent = c.sent ++ frame := by
  have hsend := send_of_affords c hframe hopen hbudget
  have hreceive := sent_receive (c.accept frame)
  unfold negotiate
  rw [hsend]
  dsimp only
  rcases hanswer : (c.accept frame).receive with ⟨_ | payload, c'⟩
  · rw [hanswer] at hreceive
    exact hreceive
  · rw [hanswer] at hreceive
    exact hreceive

end Channel

namespace Negotiation

open Handshake

/-- A rejection is reported with what it says. -/
theorem agreement_of_rejection (codec : Codec) (request : Request) {payload : Bytes}
    {version : Version} {text : Option String}
    (h : Reads readResponse payload (.rejection version text)) :
    agreement codec request payload =
      .error (.connectionRejected (rejectionText (.rejection version text) request.version)) := by
  have hdecode : codec.decodeResponse payload = .ok (.rejection version text) := h.run
  simp only [agreement, hdecode]
  rfl

end Negotiation

namespace Session

/-! ## What an attempt moves -/

theorem affords_opened {t : MemoryTransport} (hbudget : t.sendBudget = none)
    (timeout : Option UInt64) (n : Nat) : (opened t timeout).channel.Affords n := by
  intro budget hsome
  exact absurd (hbudget.symm.trans hsome) (by simp)

section Start

variable {s : Session MemoryTransport} {c : Configuration} {endpoint : Endpoint}
  {request : Handshake.Request}
  (hcheck : s.check c = .ok (endpoint, request)) (hrefuses : s.transport.refuses = false)

include hcheck hrefuses

/-- Past its check, an attempt moves what the exchange on its channel moves. -/
theorem start_channel :
    ∃ answer after, (opened s.transport c.connectTimeout).channel.negotiate s.codec request =
        (answer, after) ∧
      (s.start c).1 = answer.map (fun _ => ()) ∧
      (s.start c).2.transport.inbound.toList = after.inbound ∧
      (s.start c).2.transport.sent.toList = after.sent := by
  have hexchange := Negotiation.negotiate_eq (opened s.transport c.connectTimeout) s.codec request
  rcases hchannel : (opened s.transport c.connectTimeout).channel.negotiate s.codec request with
    ⟨answer, after⟩
  rw [hchannel] at hexchange
  refine ⟨answer, after, rfl, ?_⟩
  obtain ⟨e, t, hrun, hstart⟩ | ⟨t, hrun, hstart⟩ := start_exchange hcheck hrefuses
  · rw [hrun] at hexchange
    obtain ⟨rfl, rfl⟩ := hexchange
    rw [hstart]
    exact ⟨rfl, rfl, rfl⟩
  · rw [hrun] at hexchange
    obtain ⟨rfl, rfl⟩ := hexchange
    rw [hstart]
    exact ⟨rfl, rfl, rfl⟩

/-- With no budget to run out, an attempt sends its request, whatever comes of it. -/
theorem sent_start (hbudget : s.transport.sendBudget = none) {frame : Bytes}
    (hframe : Frame.encode (s.codec.encodeRequest request) = .ok frame) :
    (s.start c).2.transport.sent.toList = s.transport.sent.toList ++ frame := by
  obtain ⟨answer, after, hexchange, -, -, hafter⟩ := start_channel hcheck hrefuses
  have hsent := Channel.sent_negotiate _ s.codec hframe rfl
    (affords_opened hbudget c.connectTimeout frame.length)
  rw [hexchange] at hsent
  exact hafter.trans hsent

/-- An attempt reads the frame that is queued, and concludes what its payload says. -/
theorem start_of_queued (hloop : s.transport.loopback = false)
    (hbudget : s.transport.sendBudget = none) {payload rest : Bytes}
    (hfront : Frame.AtFront s.transport.inbound.toList payload rest) :
    (s.start c).1 = (Negotiation.agreement s.codec request payload).map (fun _ => ()) ∧
      (s.start c).2.transport.inbound.toList = rest := by
  obtain ⟨answer, after, hexchange, hanswer, hafter, -⟩ := start_channel hcheck hrefuses
  obtain ⟨frame, hframe⟩ := Handshake.encode_request s.codec request
  obtain ⟨payload', rest', -, hfront', hchannel⟩ | ⟨hnone, -⟩ :=
    Channel.negotiate_cases (opened s.transport c.connectTimeout).channel s.codec request hframe rfl
      hloop
  · obtain ⟨rfl, rfl⟩ := hfront.unique hfront'
    obtain ⟨rfl, rfl⟩ := Prod.mk.inj (hexchange.symm.trans hchannel)
    exact ⟨hanswer, hafter⟩
  · exact absurd hfront (hnone (affords_opened hbudget _ _) payload rest)

end Start

/-- **The request.**  Whatever is queued, and whatever version an earlier session spoke, the node
gets one frame, and reads from it what the configuration asks for. -/
theorem establish_request (s : Session MemoryTransport) (c : Configuration) (endpoint : Endpoint)
    (request : Handshake.Request) (hidle : s.isConnected = false)
    (hrefuses : s.transport.refuses = false) (hbudget : s.transport.sendBudget = none)
    (hendpoint : c.endpoint = .ok endpoint) (hprepare : Negotiation.prepare c = .ok request) :
    ∃ appended payload version,
      (s.establish c).2.transport.sent.toList = s.transport.sent.toList ++ appended ∧
      Frame.decode appended = (.ok (some payload), []) ∧
      c.version = .ok version ∧
      ∀ codec : Codec, codec.decodeRequest payload = .ok
        { version
          distributedJoins := c.distributedJoins
          enforceJoinOrder := c.enforceJoinOrder
          replicatedOnly := c.replicatedOnly
          collocated := c.collocated
          lazy := c.lazy && Version.le .v2_1_5 version } := by
  have hcheck : s.cleared.check c = .ok (endpoint, request) :=
    (check_eq_ok_iff _ _ _ _).2 ⟨hidle, hendpoint, hprepare⟩
  obtain ⟨frame, hframe⟩ := Handshake.encode_request s.codec request
  have hread := (Handshake.reads_request request).run
  obtain ⟨version, hversion, -, rfl⟩ := Negotiation.prepare_eq_ok hprepare
  refine ⟨frame, _, version, ?_, ?_, hversion, fun _ => hread⟩
  · rw [establish_eq]
    exact sent_start hcheck hrefuses hbudget hframe
  · exact (Frame.decode_eq_some_iff _ _ _).2 (Frame.atFront_of_encode hframe)

/-- The lazy flag is asked for after a session with a version that has none. -/
theorem establish_request_lazy :
    ∃ appended payload,
      (({ handle := (({} : HandleSource).drawSession).1
          transport := { inbound := .ofList [7], sent := .ofList [9], maxChunk := some (.ofNat 3) }
          codec := { version := .v2_1_0 } } : Session MemoryTransport).establish
        { address := some "[::1]:7", enforceJoinOrder := true
          lazy := true }).2.transport.sent.toList = [9] ++ appended ∧
      Frame.decode appended = (.ok (some payload), []) ∧
      ∀ codec : Codec, codec.decodeRequest payload =
        .ok { version := .v2_1_5, enforceJoinOrder := true, lazy := true } := by
  obtain ⟨appended, payload, version, hsent, hframe, hversion, hread⟩ := establish_request
    { handle := (({} : HandleSource).drawSession).1
      transport := { inbound := .ofList [7], sent := .ofList [9], maxChunk := some (.ofNat 3) }
      codec := { version := .v2_1_0 } }
    { address := some "[::1]:7", enforceJoinOrder := true, lazy := true } ⟨"::1", 7⟩
    { version := .v2_1_5, enforceJoinOrder := true, lazy := true } rfl rfl rfl rfl rfl
  have hcurrent : Version.v2_1_5 = version := Except.ok.inj (Eq.trans rfl hversion)
  subst hcurrent
  exact ⟨appended, payload, hsent, hframe, hread⟩

/-- **The rejection.**  A client whose request is rejected reports what the node said, word for
word; the transport is closed, and the answer is taken off the queue. -/
theorem establish_rejection (s : Session MemoryTransport) (c : Configuration) (endpoint : Endpoint)
    (request : Handshake.Request) (codec : Codec) (r : Handshake.Response)
    (hidle : s.isConnected = false) (hrefuses : s.transport.refuses = false)
    (hloop : s.transport.loopback = false) (hbudget : s.transport.sendBudget = none)
    (hendpoint : c.endpoint = .ok endpoint) (hprepare : Negotiation.prepare c = .ok request)
    (hr : r.accepted = false)
    (hqueued : Frame.encode (codec.encodeResponse r) = .ok s.transport.inbound.toList) :
    ∃ version, c.version = .ok version ∧
      (s.establish c).1 =
        { status := .error
          value := none
          records :=
            [{ state := .connectionRejected
               message := "Node rejected handshake message. " ++
                 (match r.errorText with
                  | some text => if text.isEmpty then "" else "Additional info: " ++ text ++ " "
                  | none => "") ++
                 "Current node version: " ++ (r.serverVersion.getD .v2_1_5).text ++
                 ", driver protocol version introduced in version: " ++ version.text ++ "." }] } ∧
      (s.establish c).2.transport.isOpen = false ∧
      (s.establish c).2.transport.inbound.toList = [] := by
  have hcheck : s.cleared.check c = .ok (endpoint, request) :=
    (check_eq_ok_iff _ _ _ _).2 ⟨hidle, hendpoint, hprepare⟩
  have hlength := Frame.length_le_of_encode hqueued
  have hfront := Frame.atFront_of_encode hqueued
  have htext : ∀ text ∈ r.errorText, (Bytes.utf8 text).length < 2147483648 := by
    intro text h
    have hmax : Frame.maxPayload < 2147483648 := by decide
    exact Nat.lt_of_le_of_lt (Nat.le_trans (Handshake.length_errorText_le hr h) hlength) hmax
  obtain ⟨hanswer, hinbound⟩ := start_of_queued hcheck hrefuses hloop hbudget hfront
  have hagreement := Negotiation.agreement_of_rejection s.codec request
    (Handshake.reads_rejection hr htext)
  have herror := hanswer.trans (congrArg (Except.map fun _ => ()) hagreement)
  obtain ⟨frame, hframe⟩ := Handshake.encode_request s.codec request
  have hfails : ¬ ∃ value, (s.cleared.start c).1 = .ok value := by
    rintro ⟨value, hok⟩
    exact absurd (herror.symm.trans hok) (by simp [Except.map])
  have hdropped := dropped_of_start hcheck hrefuses hloop hframe hfails
  obtain ⟨version, hversion, -, rfl⟩ := Negotiation.prepare_eq_ok hprepare
  rw [establish_eq]
  refine ⟨version, hversion, ?_, hdropped.closed, hinbound⟩
  rw [herror]
  rfl

/-- A node with a negative version and a text of five bytes for four letters. -/
theorem establish_rejection_letters :
    (({ handle := (({} : HandleSource).drawSession).1
        transport :=
          { inbound := .ofList
              [17, 0, 0, 0, 0, 2, 0, 0, 0, 255, 255, 9, 5, 0, 0, 0, 195, 188, 98, 101, 114]
            maxChunk := some (.ofNat 2) } } : Session MemoryTransport).establish
      { protocolVersion := "2.1.0" }).1.records.map (·.message) =
      ["Node rejected handshake message. Additional info: über Current node version: 2.0.-1, " ++
        "driver protocol version introduced in version: 2.1.0."] := by
  obtain ⟨version, hversion, hresult, -, -⟩ := establish_rejection
    { handle := (({} : HandleSource).drawSession).1
      transport :=
        { inbound := .ofList
            [17, 0, 0, 0, 0, 2, 0, 0, 0, 255, 255, 9, 5, 0, 0, 0, 195, 188, 98, 101, 114]
          maxChunk := some (.ofNat 2) } }
    { protocolVersion := "2.1.0" } ⟨"localhost", defaultPort⟩ { version := .v2_1_0 } {}
    (.rejection ⟨2, 0, -1⟩ (some "über")) rfl rfl rfl rfl rfl rfl rfl
    ((Frame.encode_of_le (by decide +kernel)).trans (congrArg Except.ok (by decide +kernel)))
  have hrequested : Version.v2_1_0 = version := Except.ok.inj (Eq.trans rfl hversion)
  subst hrequested
  rw [hresult]
  decide

end Session

end SqlSession
