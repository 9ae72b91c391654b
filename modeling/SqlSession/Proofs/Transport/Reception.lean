import SqlSession.Proofs.Transport.Passage
import SqlSession.Proofs.Transport.Traffic
/-!
# Receiving is decoding what is queued

A frame is received header first, then its body in steps, and each of them in chunks.  What comes of
it is what decoding the queued bytes in one piece says:

    decoding                    receiving                          queued after it
    a payload and a rest        the payload                        the rest
    no frame is complete        fails in the header or the body    nothing; closed
    the length is negative      fails with a protocol error        what follows the header; closed

`receive_decodes` says so over any chunk limit, and that nothing is sent.
-/

namespace SqlSession.MemoryTransport

/-- **Receiving.**  Over an open transport with any chunk limit, receiving a frame agrees with
decoding what is queued, and leaves alone what was sent, the send budget and the count of sends. -/
theorem receive_decodes (t : MemoryTransport) (hopen : t.isOpen = true) :
    let queued := t.inbound.toList
    let result := (Framing.receive t).1
    let after := (Framing.receive t).2
    (match Frame.decode queued with
      | (.ok (some payload), rest) =>
        result = .ok payload ∧ after.inbound.toList = rest ∧ after.isOpen = true
      | (.ok none, _) =>
        result = .error (.linkFailure
          (if queued.length < FrameHeader.size then "Can not receive message header"
            else "Can not receive message body")) ∧
          after.inbound.toList = [] ∧ after.isOpen = false
      | (.error e, _) =>
        (∃ length : Int32, length.toInt < 0 ∧ e = .negativeLength length) ∧
          result = .error (.linkFailure "Protocol error: Message length is negative") ∧
          (∃ header, header.length = FrameHeader.size ∧
            queued = header ++ after.inbound.toList) ∧ after.isOpen = false) ∧
      after.sent = t.sent ∧ after.sendBudget = t.sendBudget ∧ after.sendCalls = t.sendCalls := by
  intro queued result after
  refine ⟨?_, (Framing.reception_receive (.refl t)).sends_eq⟩
  obtain ⟨hresult, hafter⟩ : result = t.channel.receive.1 ∧
      after.channel = t.channel.receive.2 := Framing.receive_eq t
  rcases hdecode : Frame.decode queued with ⟨e | _ | payload, rest⟩
  · obtain rfl := Frame.unchanged_of_error hdecode
    rw [Channel.receive_of_negative t.channel hopen hdecode] at hresult hafter
    obtain ⟨hlen, -⟩ := (Frame.decode_eq_error_iff queued).1 ⟨e, hdecode⟩
    have hinbound : after.inbound.toList = queued.drop FrameHeader.size :=
      congrArg Channel.inbound hafter
    refine ⟨Frame.negative_of_decode hdecode, hresult, ?_, congrArg Channel.isOpen hafter⟩
    refine ⟨queued.take FrameHeader.size, List.length_take_of_le hlen, ?_⟩
    rw [hinbound, List.take_append_drop]
  · obtain rfl := Frame.unchanged_of_none hdecode
    rw [Channel.receive_of_incomplete t.channel hopen hdecode] at hresult hafter
    exact ⟨hresult, congrArg Channel.inbound hafter, congrArg Channel.isOpen hafter⟩
  · have hfront : Frame.AtFront queued payload rest := (Frame.decode_eq_some_iff _ _ _).1 hdecode
    rw [Channel.receive_of_atFront t.channel hopen hfront] at hresult hafter
    exact ⟨hresult, congrArg Channel.inbound hafter,
      (congrArg Channel.isOpen hafter).trans hopen⟩

/-- A frame that comes three bytes at a time, with the first byte of the next one behind it. -/
theorem receive_decodes_chunked :
    let t : MemoryTransport :=
      { isOpen := true, inbound := .ofList [2, 0, 0, 0, 7, 8, 9], maxChunk := some (.ofNat 3) }
    t.isOpen = true ∧ (Framing.receive t).1 = .ok [7, 8] ∧
      (Framing.receive t).2.inbound.toList = [9] ∧ (Framing.receive t).2.isOpen = true := by
  intro t
  have hfront : Frame.AtFront t.inbound.toList [7, 8] [9] := ⟨[2, 0, 0, 0], rfl, by decide, rfl⟩
  have hdecode := (Frame.decode_eq_some_iff _ _ _).2 hfront
  have h := receive_decodes t rfl
  dsimp only at h
  rw [hdecode] at h
  exact ⟨rfl, h.1⟩

end SqlSession.MemoryTransport
