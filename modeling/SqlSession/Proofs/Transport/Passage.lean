import SqlSession.Proofs.Transport.Channel
/-!
# Frames that go through, and frames that do not

A frame is sent whole if the channel is open and its budget covers the frame, and it is received if
it is at the front of the queued bytes.  In every other case the call fails; a payload that is too
long is refused before anything moves.

    open, budget covers the frame  →  sent              (Channel.send_of_affords)
    open, budget runs out in it    →  cut there         (Channel.send_of_open)
    open, frame at the front       →  received          (Channel.receive_of_atFront)
    otherwise                      →  link failure      (send_of_not_affords, send_of_closed,
                                                         receive_of_incomplete,
                                                         receive_of_negative)
    payload too long               →  refused           (Framing.send_of_gt)

`Framing.send_channel` and `Framing.receive_channel` carry this over to memory transports.
-/

namespace SqlSession

namespace Channel

/-! ## On a channel -/

/-- The send budget, if there is one, covers `n` bytes. -/
def Affords (c : Channel) (n : Nat) : Prop := ∀ budget ∈ c.sendBudget, n ≤ budget

/-- An open channel takes what its budget allows of a frame; a frame that is cut closes it. -/
theorem send_of_open (c : Channel) {payload frame : Bytes}
    (hframe : Frame.encode payload = .ok frame) (hopen : c.isOpen = true) :
    c.send payload =
      if c.allowance frame.length = frame.length then (.ok (), c.accept frame)
      else
        (.error (.linkFailure "Can not send message due to connection failure"),
          (c.accept (frame.take (c.allowance frame.length))).close) := by
  have hlength := Frame.length_le_of_encode hframe
  obtain rfl : Frame.framed payload = frame :=
    Except.ok.inj ((Frame.encode_of_le hlength).symm.trans hframe)
  have hempty := Frame.framed_ne_nil payload
  have hle := allowance_le c (Frame.framed payload).length
  simp only [send, hframe, offer, hempty, hopen, if_true, if_false, List.drop_eq_nil_iff]
  by_cases hall : c.allowance (Frame.framed payload).length = (Frame.framed payload).length
  · rw [if_pos (Nat.le_of_eq hall.symm), if_pos hall, if_pos hall, hall, List.take_length]
  · rw [if_neg (by omega), if_neg hall, if_neg hall]

theorem send_of_affords (c : Channel) {payload frame : Bytes}
    (hframe : Frame.encode payload = .ok frame) (hopen : c.isOpen = true)
    (h : c.Affords frame.length) : c.send payload = (.ok (), c.accept frame) := by
  rw [c.send_of_open hframe hopen, if_pos ((allowance_eq_iff c _).2 h)]

theorem send_of_not_affords (c : Channel) {payload frame : Bytes}
    (hframe : Frame.encode payload = .ok frame) (hopen : c.isOpen = true)
    (h : ¬ c.Affords frame.length) :
    ∃ e c', c.send payload = (.error e, c') ∧ e.state = .linkFailure := by
  rw [c.send_of_open hframe hopen, if_neg (mt (allowance_eq_iff c _).1 h)]
  exact ⟨_, _, rfl, rfl⟩

theorem receive_of_atFront (c : Channel) {payload rest : Bytes} (hopen : c.isOpen = true)
    (h : Frame.AtFront c.inbound payload rest) :
    c.receive = (.ok payload, { c with inbound := rest }) := by
  have hdecode := (Frame.decode_eq_some_iff _ _ _).2 h
  simp only [receive, hopen, if_true, hdecode]

/-- All that is queued is taken while a frame is incomplete; what there is of a body is not given
out. -/
theorem receive_of_incomplete (c : Channel) (hopen : c.isOpen = true)
    (h : Frame.decode c.inbound = (.ok none, c.inbound)) :
    c.receive =
      (.error (.linkFailure
        (if c.inbound.length < FrameHeader.size then "Can not receive message header"
          else "Can not receive message body")), { c with inbound := [] }.close) := by
  rw [receive, if_pos hopen, h]
  by_cases hshort : c.inbound.length < FrameHeader.size
  · simp only [hshort, if_true]
    rfl
  · simp only [hshort, if_false]
    rfl

theorem receive_of_negative (c : Channel) (hopen : c.isOpen = true) {e : WireError}
    (h : Frame.decode c.inbound = (.error e, c.inbound)) :
    c.receive =
      (.error (.linkFailure "Protocol error: Message length is negative"),
        (c.skip FrameHeader.size).close) := by
  rw [receive, if_pos hopen, h]

theorem receive_of_not_atFront (c : Channel) (hopen : c.isOpen = true)
    (h : ∀ payload rest, ¬ Frame.AtFront c.inbound payload rest) :
    ∃ e c', c.receive = (.error e, c') ∧ e.state = .linkFailure := by
  rcases hdecode : Frame.decode c.inbound with ⟨e | _ | payload, rest⟩
  · obtain rfl := Frame.unchanged_of_error hdecode
    exact ⟨_, _, receive_of_negative c hopen hdecode, rfl⟩
  · obtain rfl := Frame.unchanged_of_none hdecode
    exact ⟨_, _, receive_of_incomplete c hopen hdecode, rfl⟩
  · exact absurd ((Frame.decode_eq_some_iff _ _ _).1 hdecode) (h payload rest)

/-- A closed channel takes no frame, as no frame is empty. -/
theorem send_of_closed (c : Channel) {payload : Bytes} (hclosed : c.isOpen = false)
    (h : payload.length ≤ Frame.maxPayload) :
    c.send payload =
      (.error (.linkFailure "Can not send message due to connection failure"), c.close) := by
  have hframe : Frame.framed payload ≠ [] := Frame.framed_ne_nil payload
  have hoffer : c.offer (Frame.framed payload) = (Frame.framed payload, c.close) := by
    simp [offer, hframe, hclosed]
  simp only [send, Frame.encode_of_le h, hoffer, hframe, if_false]

end Channel

namespace Framing

/-! ## Over a memory transport -/

/-- A payload that is too long is refused, and nothing is moved. -/
theorem send_of_gt {τ : Type} [Transport τ] (t : τ) {payload : Bytes}
    (h : Frame.maxPayload < payload.length) :
    send t payload =
      (.error (.general (WireError.frameTooLarge payload.length Frame.maxPayload).message), t) := by
  simp only [send, Frame.encode_of_gt h]

/-- Sending does to a memory transport what it does to its channel. -/
theorem send_channel (t : MemoryTransport) (payload : Bytes) :
    ∃ t', send t payload = ((t.channel.send payload).1, t') ∧
      t'.channel = (t.channel.send payload).2 := by
  obtain ⟨hresult, hafter⟩ := send_eq t payload
  exact ⟨(send t payload).2, Prod.ext hresult rfl, hafter⟩

/-- Receiving does to a memory transport what it does to its channel. -/
theorem receive_channel (t : MemoryTransport) :
    ∃ t', receive t = (t.channel.receive.1, t') ∧ t'.channel = t.channel.receive.2 := by
  obtain ⟨hresult, hafter⟩ := receive_eq t
  exact ⟨(receive t).2, Prod.ext hresult rfl, hafter⟩

/-- With no budget to run out, a payload that fits is sent. -/
theorem send_framed {t : MemoryTransport} {payload : Bytes} (hopen : t.isOpen = true)
    (hbudget : t.sendBudget = none) (h : payload.length ≤ Frame.maxPayload) :
    ∃ t', send t payload = (.ok (), t') ∧
      t'.channel = t.channel.accept (Frame.framed payload) := by
  have haffords : t.channel.Affords (Frame.framed payload).length := by
    intro budget hsome
    exact absurd (hbudget.symm.trans hsome) (by simp)
  have hsend := send_channel t payload
  rwa [Channel.send_of_affords t.channel (Frame.encode_of_le h) hopen haffords] at hsend

/-- A frame at the front is received. -/
theorem receive_atFront {t : MemoryTransport} {payload rest : Bytes} (hopen : t.isOpen = true)
    (h : Frame.AtFront t.channel.inbound payload rest) :
    ∃ t', receive t = (.ok payload, t') ∧ t'.channel = { t.channel with inbound := rest } := by
  have hreceive := receive_channel t
  rwa [Channel.receive_of_atFront t.channel hopen h] at hreceive

/-- A closed transport sends nothing. -/
theorem send_closed {t : MemoryTransport} {payload : Bytes} (hclosed : t.isOpen = false)
    (h : payload.length ≤ Frame.maxPayload) :
    ∃ t', send t payload =
        (.error (.linkFailure "Can not send message due to connection failure"), t') ∧
      t'.channel = t.channel.close := by
  have hsend := send_channel t payload
  rwa [Channel.send_of_closed t.channel hclosed h] at hsend

/-- A closed transport receives nothing. -/
theorem receive_closed {t : MemoryTransport} (hclosed : t.isOpen = false) :
    ∃ t', receive t = (.error (.linkFailure "Can not receive message header"), t') ∧
      t'.channel = t.channel.close := by
  have hreceive := receive_channel t
  rwa [Channel.receive_of_closed t.channel hclosed] at hreceive

/-- With nothing queued, receiving closes the transport. -/
theorem receive_empty {t : MemoryTransport} (hopen : t.isOpen = true)
    (hempty : t.inbound.toList = []) :
    ∃ t', receive t = (.error (.linkFailure "Can not receive message header"), t') ∧
      t'.channel = t.channel.close := by
  have hinbound : t.channel.inbound = [] := hempty
  have hshort : t.channel.inbound.length < FrameHeader.size := by
    rw [hinbound]
    decide
  have hreceive := receive_channel t
  rw [Channel.receive_of_short t.channel hopen hshort, ← hinbound] at hreceive
  exact hreceive

end Framing

end SqlSession
