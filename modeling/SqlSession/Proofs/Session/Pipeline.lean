import SqlSession.Proofs.Session.Establish
/-!
# Exchanges in a row

The node answers requests in order, and its answers queue up.  Each exchange sends one frame and
takes one frame off the queue, however the transport cuts them, so the answers stay in step with the
requests:

    queued          framed p₁ ++ … ++ framed pₙ ++ rest
    q₁, …, qₙ  →    p₁, …, pₙ,   and rest is queued
    sent            framed q₁ ++ … ++ framed qₙ

* `exchange_framed`: one exchange.
* `exchangeAll_answers`: a row of exchanges.
-/

namespace SqlSession

/-- Exchanges requests one by one, and goes on whatever comes of each. -/
def Session.exchangeAll {τ : Type} [Transport τ] (s : Session τ) :
    List Bytes → List (Except DriverError Bytes) × Session τ
  | [] => ([], s)
  | request :: requests =>
    let (answer, s) := s.exchange request
    let (answers, s) := s.exchangeAll requests
    (answer :: answers, s)

namespace Session

/-- A connected session whose transport takes all it is offered, and does not give it back. -/
structure Unhindered (s : Session MemoryTransport) : Prop where
  connected : s.isConnected = true
  loopback : s.transport.loopback = false
  budget : s.transport.sendBudget = none

/-- One transport comes from another by sending `frames` and taking bytes until `rest` is queued. -/
def Moves (t t' : MemoryTransport) (frames rest : Bytes) : Prop :=
  t'.channel = { t.channel with inbound := rest, sent := t.channel.sent ++ frames }

theorem Unhindered.of_moves {s : Session MemoryTransport} {t : MemoryTransport}
    {frames rest : Bytes} (h : Unhindered s) (ht : Moves s.transport t frames rest) :
    Unhindered { s with transport := t } := by
  have hopen : t.isOpen = s.transport.isOpen := congrArg Channel.isOpen ht
  obtain ⟨hphase, hs⟩ := (isConnected_iff s).1 h.connected
  exact ⟨(isConnected_iff _).2 ⟨hphase, hopen.trans hs⟩,
    (congrArg Channel.loopback ht).trans h.loopback,
    (congrArg Channel.sendBudget ht).trans h.budget⟩

theorem transfer_of_ok {τ : Type} [Transport τ] {α : Type} {s : Session τ} {t : τ} {value : α}
    {op : τ → Except DriverError α × τ} (hconnected : s.isConnected = true)
    (h : op s.transport = (.ok value, t)) :
    s.transfer op = (.ok value, { s with transport := t }) := by
  simp only [transfer, hconnected, if_true, h, trackLink]

/-- **One exchange.**  It sends the frame of its request, and takes the frame at the front. -/
theorem exchange_framed {s : Session MemoryTransport} {request answer rest : Bytes}
    (h : Unhindered s) (hrequest : request.length ≤ Frame.maxPayload)
    (hanswer : answer.length ≤ Frame.maxPayload)
    (hinbound : s.transport.inbound.toList = Frame.framed answer ++ rest) :
    ∃ t, s.exchange request = (.ok answer, { s with transport := t }) ∧
      Moves s.transport t (Frame.framed request) rest := by
  obtain ⟨hphase, hopen⟩ := (isConnected_iff s).1 h.connected
  obtain ⟨t, hsend, ht⟩ := Framing.send_framed hopen h.budget hrequest
  have hfront : Frame.AtFront t.channel.inbound answer rest := by
    have hqueued : t.channel.inbound = s.transport.inbound.toList := by
      rw [ht]
      exact if_neg (by simp [MemoryTransport.channel, h.loopback])
    rw [hqueued, hinbound]
    exact Frame.atFront_framed rest hanswer
  have hopen' : t.isOpen = true := (congrArg Channel.isOpen ht).trans hopen
  obtain ⟨t', hreceive, ht'⟩ := Framing.receive_atFront hopen' hfront
  have hconnected : ({ s with transport := t } : Session MemoryTransport).isConnected = true :=
    (isConnected_iff _).2 ⟨hphase, hopen'⟩
  have hsent : s.send request = (.ok (), { s with transport := t }) :=
    transfer_of_ok h.connected hsend
  refine ⟨t', ?_, ?_⟩
  · simp only [exchange, hsent]
    exact transfer_of_ok hconnected hreceive
  · rw [Moves, ht', ht]
    simp [Channel.accept, MemoryTransport.channel, h.budget]

/-- **A row of exchanges.** -/
theorem exchangeAll_framed {s : Session MemoryTransport} {exchanges : List (Bytes × Bytes)}
    {rest : Bytes} (h : Unhindered s)
    (hfit : ∀ p ∈ exchanges, p.1.length ≤ Frame.maxPayload ∧ p.2.length ≤ Frame.maxPayload)
    (hinbound : s.transport.inbound.toList =
      (exchanges.map fun p => Frame.framed p.2).flatten ++ rest) :
    ∃ t, s.exchangeAll (exchanges.map (·.1)) =
        (exchanges.map fun p => .ok p.2, { s with transport := t }) ∧
      Unhindered { s with transport := t } ∧
      Moves s.transport t (exchanges.map fun p => Frame.framed p.1).flatten rest := by
  induction exchanges generalizing s with
  | nil =>
    refine ⟨s.transport, rfl, h, ?_⟩
    have hinbound : s.transport.inbound.toList = rest := hinbound
    simp [Moves, ← hinbound, MemoryTransport.channel]
  | cons p ps ih =>
    obtain ⟨request, answer⟩ := p
    obtain ⟨hrequest, hanswer⟩ := hfit _ List.mem_cons_self
    simp only [List.map_cons, List.flatten_cons, List.append_assoc] at hinbound
    obtain ⟨t, hfirst, hmoved⟩ := exchange_framed h hrequest hanswer hinbound
    obtain ⟨t', hrow, hstays, hmoved'⟩ := ih (h.of_moves hmoved)
      (fun p hp => hfit p (List.mem_cons_of_mem _ hp)) (congrArg Channel.inbound hmoved)
    refine ⟨t', ?_, hstays, ?_⟩
    · simp only [List.map_cons, exchangeAll, hfirst, hrow]
    · have hmoved : t.channel = _ := hmoved
      have hmoved' : t'.channel = _ := hmoved'
      rw [Moves, hmoved']
      simp only [hmoved, List.map_cons, List.flatten_cons, List.append_assoc]

/-- **Answers.**  If the answers to some requests are queued in order, the requests get them, each
its own; exactly the requests are sent, exactly the answers are taken, and the session stays
connected. -/
theorem exchangeAll_answers (s : Session MemoryTransport) (exchanges : List (Bytes × Bytes))
    (hconnected : s.isConnected = true) (hloop : s.transport.loopback = false)
    (hbudget : s.transport.sendBudget = none)
    (hfit : ∀ p ∈ exchanges, p.1.length ≤ Frame.maxPayload ∧ p.2.length ≤ Frame.maxPayload) :
    ∃ sent queued, (exchanges.map (·.1)).mapM Frame.encode = .ok sent ∧
      (exchanges.map (·.2)).mapM Frame.encode = .ok queued ∧
      ∀ rest, s.transport.inbound.toList = queued.flatten ++ rest →
        ∃ after, s.exchangeAll (exchanges.map (·.1)) =
            (exchanges.map fun p => .ok p.2, after) ∧
          after.transport.sent.toList = s.transport.sent.toList ++ sent.flatten ∧
          after.transport.inbound.toList = rest ∧
          after.state = .connected := by
  have hrequests : ∀ q ∈ exchanges.map (·.1), q.length ≤ Frame.maxPayload := by
    intro q hq
    obtain ⟨p, hp, rfl⟩ := List.mem_map.1 hq
    exact (hfit p hp).1
  have hanswers : ∀ q ∈ exchanges.map (·.2), q.length ≤ Frame.maxPayload := by
    intro q hq
    obtain ⟨p, hp, rfl⟩ := List.mem_map.1 hq
    exact (hfit p hp).2
  refine ⟨_, _, Frame.mapM_encode hrequests, Frame.mapM_encode hanswers, fun rest hrest => ?_⟩
  rw [List.map_map] at hrest
  obtain ⟨t, hrow, hstays, hmoved⟩ := exchangeAll_framed ⟨hconnected, hloop, hbudget⟩ hfit hrest
  refine ⟨_, hrow, ?_, congrArg Channel.inbound hmoved,
    (state_eq_connected_iff _).2 hstays.connected⟩
  rw [List.map_map]
  exact congrArg Channel.sent hmoved

/-- Two answers and the start of a third, over a transport that moves two bytes at a time. -/
theorem exchangeAll_answers_two :
    ∃ after, ({ handle := (({} : HandleSource).drawSession).1
                transport :=
                  { ({} : MemoryTransport).pushInbound [2, 0, 0, 0, 7, 8, 0, 0, 0, 0, 9] with
                    isOpen := true, maxChunk := some (.ofNat 2) }
                phase := .connected
                negotiated := some .current } : Session MemoryTransport).exchangeAll [[1], []] =
        ([.ok [7, 8], .ok []], after) ∧
      after.transport.sent.toList = [1, 0, 0, 0, 1, 0, 0, 0, 0] ∧
      after.transport.inbound.toList = [9] ∧
      after.state = .connected := by
  obtain ⟨sent, queued, hsent, hqueued, h⟩ := exchangeAll_answers
    { handle := (({} : HandleSource).drawSession).1
      transport :=
        { ({} : MemoryTransport).pushInbound [2, 0, 0, 0, 7, 8, 0, 0, 0, 0, 9] with
          isOpen := true, maxChunk := some (.ofNat 2) }
      phase := .connected
      negotiated := some .current }
    [([1], [7, 8]), ([], [])] rfl rfl rfl (by decide)
  obtain rfl : sent = [[1, 0, 0, 0, 1], [0, 0, 0, 0]] := Except.ok.inj (hsent.symm.trans rfl)
  obtain rfl : queued = [[2, 0, 0, 0, 7, 8], [0, 0, 0, 0]] :=
    Except.ok.inj (hqueued.symm.trans rfl)
  exact h [9] rfl

end Session

end SqlSession
