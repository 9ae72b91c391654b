import SqlSession.Proofs.Transport.Passage
/-!
# A loopback transport is a queue

What is sent over a loopback transport is queued for receiving.  As long as no send budget cuts a
frame short, sends and receives in any order are those of a queue of payloads, whatever the chunk
limit: the queued bytes are the frames of the payloads that wait, in order (`Holds`).  Receiving
from an empty queue closes it for good.

    a transport represents a queue
      →  a call gives what it gives on the queue, and represents the queue after it
                                                                          (represents_step)
    an open loopback transport with nothing queued represents the empty queue
      →  so do any calls in any order                                     (loopback_fifo)
-/

namespace SqlSession

/-! ## Calls -/

/-- A call on a stream of frames. -/
inductive FrameCall where
  | send (payload : Bytes)
  | receive

/-- What a call gives. -/
inductive FrameReply where
  | sent (outcome : Except DriverError Unit)
  | received (outcome : Except DriverError Bytes)

/-- Makes a call over a transport. -/
def FrameCall.run {τ : Type} [Transport τ] (call : FrameCall) (t : τ) : FrameReply × τ :=
  match call with
  | .send payload => (.sent (Framing.send t payload).1, (Framing.send t payload).2)
  | .receive => (.received (Framing.receive t).1, (Framing.receive t).2)

/-- Makes calls one after the other. -/
def FrameCall.runAll {σ : Type} (run : FrameCall → σ → FrameReply × σ) :
    σ → List FrameCall → List FrameReply × σ
  | s, [] => ([], s)
  | s, call :: calls =>
    let (reply, s) := run call s
    let (replies, s) := runAll run s calls
    (reply :: replies, s)

/-! ## Queues -/

/-- A queue of payloads, the oldest first.  Nothing waits in a queue that is closed. -/
inductive PayloadQueue where
  | live (waiting : List Bytes)
  | closed

/-- Makes a call on a queue.  A payload that is too long is refused; the others are queued unless
the queue is closed.  The oldest one is received; if there is none, that closes the queue. -/
def PayloadQueue.step (call : FrameCall) (q : PayloadQueue) : FrameReply × PayloadQueue :=
  match call, q with
  | .send payload, q =>
    if Frame.maxPayload < payload.length then
      (.sent (.error
        (.general (WireError.frameTooLarge payload.length Frame.maxPayload).message)), q)
    else
      match q with
      | .live waiting => (.sent (.ok ()), .live (waiting ++ [payload]))
      | .closed =>
        (.sent (.error (.linkFailure "Can not send message due to connection failure")), .closed)
  | .receive, .live (payload :: waiting) => (.received (.ok payload), .live waiting)
  | .receive, _ =>
    (.received (.error (.linkFailure "Can not receive message header")), .closed)

namespace MemoryTransport

/-- An open loopback transport whose queued bytes are the frames of some payloads. -/
structure Holds (t : MemoryTransport) (waiting : List Bytes) : Prop where
  isOpen : t.isOpen = true
  loopback : t.loopback = true
  budget : t.sendBudget = none
  fit : ∀ payload ∈ waiting, payload.length ≤ Frame.maxPayload
  inbound : t.inbound.toList = (waiting.map Frame.framed).flatten

/-- A transport stands for a queue: it holds the payloads that wait, or it is closed and empty. -/
def Represents (t : MemoryTransport) : PayloadQueue → Prop
  | .live waiting => t.Holds waiting
  | .closed => t.isOpen = false ∧ t.inbound.toList = []

variable {t : MemoryTransport} {waiting : List Bytes} {payload : Bytes}

/-! ## One call -/

/-- Sending puts a payload last. -/
theorem Holds.send (h : t.Holds waiting) (hfit : payload.length ≤ Frame.maxPayload) :
    ∃ t', Framing.send t payload = (.ok (), t') ∧ t'.Holds (waiting ++ [payload]) := by
  obtain ⟨t', hsend, ht'⟩ := Framing.send_framed h.isOpen h.budget hfit
  refine ⟨t', hsend, ?_⟩
  have hinbound : t'.inbound.toList = t.inbound.toList ++ Frame.framed payload :=
    (congrArg Channel.inbound ht').trans (if_pos h.loopback)
  have hbudget : t'.sendBudget = none := by
    have hless : t'.sendBudget = t.sendBudget.map (· - (Frame.framed payload).length) :=
      congrArg Channel.sendBudget ht'
    rw [hless, h.budget]
    rfl
  exact
    { isOpen := (congrArg Channel.isOpen ht').trans h.isOpen
      loopback := (congrArg Channel.loopback ht').trans h.loopback
      budget := hbudget
      fit := by
        intro p hp
        rcases List.mem_append.1 hp with hp | hp
        · exact h.fit p hp
        · rwa [List.mem_singleton.1 hp]
      inbound := by
        rw [hinbound, h.inbound, List.map_append, List.flatten_append, List.map_singleton,
          List.flatten_singleton] }

/-- Receiving takes the first payload. -/
theorem Holds.receive (h : t.Holds (payload :: waiting)) :
    ∃ t', Framing.receive t = (.ok payload, t') ∧ t'.Holds waiting := by
  have hfront : Frame.AtFront t.channel.inbound payload (waiting.map Frame.framed).flatten := by
    rw [channel_inbound, h.inbound, List.map_cons, List.flatten_cons]
    exact Frame.atFront_framed _ (h.fit payload List.mem_cons_self)
  obtain ⟨t', hreceive, ht'⟩ := Framing.receive_atFront h.isOpen hfront
  refine ⟨t', hreceive, ?_⟩
  exact
    { isOpen := (congrArg Channel.isOpen ht').trans h.isOpen
      loopback := (congrArg Channel.loopback ht').trans h.loopback
      budget := (congrArg Channel.sendBudget ht').trans h.budget
      fit := fun p hp => h.fit p (List.mem_cons_of_mem _ hp)
      inbound := congrArg Channel.inbound ht' }

/-- A transport whose channel was closed with nothing queued stands for the closed queue. -/
theorem represents_closed {t' : MemoryTransport} (ht' : t'.channel = t.channel.close)
    (hempty : t.inbound.toList = []) : t'.Represents .closed :=
  ⟨congrArg Channel.isOpen ht', (congrArg Channel.inbound ht').trans hempty⟩

/-- **Calls.**  A call does to a transport what it does to the queue. -/
theorem represents_step {q : PayloadQueue} (h : t.Represents q) (call : FrameCall) :
    (call.run t).1 = (q.step call).1 ∧ (call.run t).2.Represents (q.step call).2 := by
  cases call with
  | send payload =>
    show FrameReply.sent (Framing.send t payload).1 = _ ∧ (Framing.send t payload).2.Represents _
    dsimp only [PayloadQueue.step]
    by_cases hlong : Frame.maxPayload < payload.length
    · rw [if_pos hlong, Framing.send_of_gt t hlong]
      exact ⟨rfl, h⟩
    · rw [if_neg hlong]
      have hfit : payload.length ≤ Frame.maxPayload := by omega
      cases q with
      | live waiting =>
        obtain ⟨t', hsend, ht'⟩ := Holds.send h hfit
        rw [hsend]
        exact ⟨rfl, ht'⟩
      | closed =>
        obtain ⟨hclosed, hempty⟩ := h
        obtain ⟨t', hsend, ht'⟩ := Framing.send_closed hclosed hfit
        rw [hsend]
        exact ⟨rfl, represents_closed ht' hempty⟩
  | receive =>
    show FrameReply.received (Framing.receive t).1 = _ ∧ (Framing.receive t).2.Represents _
    cases q with
    | live waiting =>
      cases waiting with
      | nil =>
        have hempty : t.inbound.toList = [] := Holds.inbound h
        obtain ⟨t', hreceive, ht'⟩ := Framing.receive_empty (Holds.isOpen h) hempty
        rw [hreceive]
        exact ⟨rfl, represents_closed ht' hempty⟩
      | cons payload waiting =>
        obtain ⟨t', hreceive, ht'⟩ := Holds.receive h
        rw [hreceive]
        exact ⟨rfl, ht'⟩
    | closed =>
      obtain ⟨hclosed, hempty⟩ := h
      obtain ⟨t', hreceive, ht'⟩ := Framing.receive_closed hclosed
      rw [hreceive]
      exact ⟨rfl, represents_closed ht' hempty⟩

/-! ## Calls in any order -/

theorem represents_runAll (calls : List FrameCall) {q : PayloadQueue} (h : t.Represents q) :
    (FrameCall.runAll FrameCall.run t calls).1 = (FrameCall.runAll PayloadQueue.step q calls).1 ∧
      (FrameCall.runAll FrameCall.run t calls).2.Represents
        (FrameCall.runAll PayloadQueue.step q calls).2 := by
  induction calls generalizing t q with
  | nil => exact ⟨rfl, h⟩
  | cons call calls ih =>
    obtain ⟨hreply, hafter⟩ := represents_step h call
    obtain ⟨hreplies, hlast⟩ := ih hafter
    refine ⟨?_, hlast⟩
    show (call.run t).1 :: (FrameCall.runAll FrameCall.run (call.run t).2 calls).1 =
      (q.step call).1 :: (FrameCall.runAll PayloadQueue.step (q.step call).2 calls).1
    rw [hreply, hreplies]

/-- **A loopback transport is a queue.**  From an open one with nothing queued and no send budget,
calls in any order give what they give on an empty queue of payloads, and the transport stands for
the queue after them.  A payload that is too long leaves the transport exactly as it is. -/
theorem loopback_fifo (t : MemoryTransport) (hopen : t.isOpen = true) (hloop : t.loopback = true)
    (hempty : t.inbound.toList = []) (hbudget : t.sendBudget = none) (calls : List FrameCall) :
    let after := FrameCall.runAll FrameCall.run t calls
    let queue := FrameCall.runAll PayloadQueue.step (.live []) calls
    after.1 = queue.1 ∧ after.2.Represents queue.2 ∧
      ∀ payload : Bytes, Frame.maxPayload < payload.length →
        Framing.send after.2 payload =
          (.error (.general
            (WireError.frameTooLarge payload.length Frame.maxPayload).message), after.2) := by
  intro after queue
  have hstart : t.Represents (.live []) :=
    { isOpen := hopen, loopback := hloop, budget := hbudget, fit := by simp, inbound := hempty }
  obtain ⟨hreplies, hlast⟩ := represents_runAll calls hstart
  exact ⟨hreplies, hlast, fun payload hlong => Framing.send_of_gt after.2 hlong⟩

/-- Two payloads, one of them empty, over a transport that moves two bytes at a time; then the queue
is empty, and closed. -/
theorem loopback_fifo_chunked :
    let t : MemoryTransport :=
      { isOpen := true, loopback := true, maxChunk := some (.ofNat 2) }
    let after := FrameCall.runAll FrameCall.run t
      [.send [7, 8], .send [], .receive, .receive, .receive, .send [9], .receive]
    after.1 =
      [.sent (.ok ()), .sent (.ok ()), .received (.ok [7, 8]), .received (.ok []),
        .received (.error (.linkFailure "Can not receive message header")),
        .sent (.error (.linkFailure "Can not send message due to connection failure")),
        .received (.error (.linkFailure "Can not receive message header"))] ∧
      after.2.isOpen = false := by
  intro t after
  obtain ⟨hreplies, hlast, -⟩ := loopback_fifo t rfl rfl rfl rfl
    [.send [7, 8], .send [], .receive, .receive, .receive, .send [9], .receive]
  have hclosed : after.2.Represents .closed := hlast
  exact ⟨hreplies.trans rfl, hclosed.1⟩

end MemoryTransport

end SqlSession
