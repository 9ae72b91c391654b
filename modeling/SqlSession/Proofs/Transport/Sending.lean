import SqlSession.Proofs.Transport.Passage
import SqlSession.Proofs.Transport.Traffic
/-!
# Sending is recording the front of a frame

A frame is sent in as many transfers as it takes, each behind the one before.  What comes of it only
depends on how much of the frame the send budget allows:

    payload                       sent                      after it
    too long                      refused                   nothing has changed
    fits, the link is closed      fails                     closed once more
    fits, the budget covers it    the whole frame           open
    fits, the budget runs out     the front of the frame    closed

`send_takes` says so over any chunk limit, and that the limit makes no difference.
-/

namespace SqlSession

theorem Channel.accept_nil (c : Channel) : c.accept [] = c := by simp [accept]

namespace MemoryTransport

/-! ## What a send changes -/

/-- A transport has taken bytes: they are behind what was sent, behind what is queued if it is a
loopback, and off the budget.  Apart from that, only whether it is open and how many sends and closes
there have been may be different. -/
structure Takes (t t' : MemoryTransport) (bytes : Bytes) : Prop where
  sent : t'.sent.toList = t.sent.toList ++ bytes
  inbound : t'.inbound.toList = if t.loopback then t.inbound.toList ++ bytes else t.inbound.toList
  budget : t'.sendBudget = t.sendBudget.map (· - bytes.length)
  loopback : t'.loopback = t.loopback
  refuses : t'.refuses = t.refuses
  maxChunk : t'.maxChunk = t.maxChunk
  connectTimeout : t'.connectTimeout = t.connectTimeout
  connectCalls : t'.connectCalls = t.connectCalls
  receiveCalls : t'.receiveCalls = t.receiveCalls

/-- No transfer of a frame touches the chunk limit, nor counts as a receive. -/
theorem limits_sendAll (t : MemoryTransport) (data : Bytes) :
    (Framing.sendAll t data).2.maxChunk = t.maxChunk ∧
      (Framing.sendAll t data).2.receiveCalls = t.receiveCalls := by
  have hsend : ∀ (t : MemoryTransport) bytes, (t.send bytes).2.maxChunk = t.maxChunk ∧
      (t.send bytes).2.receiveCalls = t.receiveCalls := by
    intro t bytes
    obtain ⟨inbound, sent, budget, hframe⟩ := t.send_frame bytes
    rw [hframe]
    exact ⟨rfl, rfl⟩
  fun_induction Framing.sendAll t data with
  | case1 t => exact ⟨rfl, rfl⟩
  | case2 t b bs n t' hs ih =>
    have hstep := hsend t (b :: bs)
    rw [← transport_send, hs] at hstep
    exact ⟨ih.1.trans hstep.1, ih.2.trans hstep.2⟩
  | case3 t b bs x t' hno hs =>
    have hstep := hsend t (b :: bs)
    rw [← transport_send, hs] at hstep
    exact hstep

theorem limits_send (t : MemoryTransport) (payload : Bytes) :
    (Framing.send t payload).2.maxChunk = t.maxChunk ∧
      (Framing.send t payload).2.receiveCalls = t.receiveCalls := by
  unfold Framing.send
  cases Frame.encode payload with
  | error e => exact ⟨rfl, rfl⟩
  | ok frame =>
    dsimp only
    split
    · exact limits_sendAll t frame
    · exact limits_sendAll t frame

/-- What a channel accepted, its transport has taken, whether the channel was closed then or not. -/
theorem takes_of_channel {t t' : MemoryTransport} {bytes : Bytes} {c : Channel}
    (hchannel : t'.channel = c) (hlimits : t'.maxChunk = t.maxChunk ∧
      t'.receiveCalls = t.receiveCalls)
    (h : c = t.channel.accept bytes ∨ c = (t.channel.accept bytes).close) : t.Takes t' bytes := by
  obtain rfl | rfl := h
  all_goals
    exact
      { sent := congrArg Channel.sent hchannel
        inbound := congrArg Channel.inbound hchannel
        budget := congrArg Channel.sendBudget hchannel
        loopback := congrArg Channel.loopback hchannel
        refuses := congrArg Channel.refuses hchannel
        maxChunk := hlimits.1
        connectTimeout := congrArg Channel.connectTimeout hchannel
        connectCalls := congrArg Channel.connectCalls hchannel
        receiveCalls := hlimits.2 }

/-! ## Sending a frame -/

/-- The transport takes what its channel accepts of a frame, with the same result. -/
theorem takes_send {t : MemoryTransport} {payload bytes : Bytes} {result : Except DriverError Unit}
    {c : Channel} (hsend : t.channel.send payload = (result, c))
    (hc : c = t.channel.accept bytes ∨ c = (t.channel.accept bytes).close) :
    t.Takes (Framing.send t payload).2 bytes ∧ (Framing.send t payload).1 = result ∧
      (Framing.send t payload).2.isOpen = c.isOpen ∧
      (Framing.send t payload).2.closeCalls = c.closeCalls := by
  obtain ⟨hresult, hchannel⟩ := Framing.send_eq t payload
  rw [hsend] at hresult hchannel
  exact ⟨takes_of_channel hchannel (limits_send t payload) hc, hresult,
    congrArg Channel.isOpen hchannel, congrArg Channel.closeCalls hchannel⟩

/-- **Sending.**  A payload that is too long is refused.  A closed transport takes nothing of a
frame, and an open one takes what the budget allows; it stays open exactly if that is the whole
frame, and else it is closed once.  The chunk limit makes no difference. -/
theorem send_takes (t : MemoryTransport) (payload : Bytes) :
    let result := (Framing.send t payload).1
    let after := (Framing.send t payload).2
    (Frame.maxPayload < payload.length →
      result =
          .error (.general (WireError.frameTooLarge payload.length Frame.maxPayload).message) ∧
        after = t) ∧
      (payload.length ≤ Frame.maxPayload →
        let frame := Frame.framed payload
        Frame.encode payload = .ok frame ∧
          (t.isOpen = false →
            t.Takes after [] ∧
              result = .error (.linkFailure "Can not send message due to connection failure") ∧
              after.isOpen = false ∧ after.closeCalls = t.closeCalls + 1) ∧
          (t.isOpen = true →
            let k := t.channel.allowance frame.length
            t.Takes after (frame.take k) ∧
              if k = frame.length then
                result = .ok () ∧ after.isOpen = true ∧ after.closeCalls = t.closeCalls
              else
                result = .error (.linkFailure "Can not send message due to connection failure") ∧
                  after.isOpen = false ∧ after.closeCalls = t.closeCalls + 1)) ∧
      ∀ limit,
        (Framing.send { t with maxChunk := limit } payload).1 = result ∧
          (Framing.send { t with maxChunk := limit } payload).2.channel = after.channel := by
  intro result after
  refine ⟨fun hlong => ?_, fun hfits => ⟨Frame.encode_of_le hfits, fun hclosed => ?_,
    fun hopen => ?_⟩, fun limit => ?_⟩
  · have hrefused := Framing.send_of_gt t hlong
    exact ⟨congrArg Prod.fst hrefused, congrArg Prod.snd hrefused⟩
  · exact takes_send (Channel.send_of_closed t.channel hclosed hfits)
      (.inr (by rw [Channel.accept_nil]))
  · have hsend := Channel.send_of_open t.channel (Frame.encode_of_le hfits) hopen
    by_cases hall : t.channel.allowance (Frame.framed payload).length =
        (Frame.framed payload).length
    · rw [if_pos hall] at hsend
      obtain ⟨htakes, hresult, hopened, hcloses⟩ := takes_send hsend (.inl rfl)
      dsimp only
      rw [if_pos hall, hall, List.take_length]
      exact ⟨htakes, hresult, hopened.trans hopen, hcloses⟩
    · rw [if_neg hall] at hsend
      dsimp only
      rw [if_neg hall]
      exact takes_send hsend (.inr rfl)
  · -- both transports have the same channel
    obtain ⟨hresult, hchannel⟩ := Framing.send_eq t payload
    obtain ⟨hresult', hchannel'⟩ := Framing.send_eq { t with maxChunk := limit } payload
    exact ⟨hresult'.trans hresult.symm, hchannel'.trans hchannel.symm⟩

/-- A budget that runs out one byte before the end of a frame, on a loopback that moves two bytes at
a time; and a closed transport. -/
theorem send_takes_cut :
    let t : MemoryTransport :=
      { isOpen := true, loopback := true, maxChunk := some (.ofNat 2), sendBudget := some 5 }
    let payload : Bytes := [7, 8]
    payload.length ≤ Frame.maxPayload ∧ t.isOpen = true ∧
      (Framing.send t payload).1 =
        .error (.linkFailure "Can not send message due to connection failure") ∧
      (Framing.send t payload).2.sent.toList = [2, 0, 0, 0, 7] ∧
      (Framing.send t payload).2.inbound.toList = [2, 0, 0, 0, 7] ∧
      (Framing.send t payload).2.sendBudget = some 0 ∧
      (Framing.send t payload).2.isOpen = false ∧
      (Framing.send t.close payload).2.sent.toList = [] := by
  intro t payload
  have hfits : payload.length ≤ Frame.maxPayload := by decide
  obtain ⟨-, hopened, -⟩ := send_takes t payload
  obtain ⟨-, -, hcut⟩ := hopened hfits
  obtain ⟨htakes, hresult, hclosed, -⟩ := hcut rfl
  obtain ⟨-, hshut, -⟩ := send_takes t.close payload
  obtain ⟨-, hnothing, -⟩ := hshut hfits
  exact ⟨hfits, rfl, hresult, htakes.sent.trans (by decide), htakes.inbound.trans (by decide),
    htakes.budget.trans (by decide), hclosed, (hnothing rfl).1.sent⟩

end MemoryTransport

end SqlSession
