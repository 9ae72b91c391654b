import SqlSession.Proofs.Transport.Traffic
/-!
# A memory transport conserves bytes

Calls on a memory transport, in any order, leave events behind: each call with what it gave.  The
events account for every byte, whatever the chunk limit, the send budget and the sizes of buffers:

    handed out, then queued now      =  queued at first, then all that was queued since
    recorded now                     =  recorded at first, then all that was taken, since the last
                                        time it was cleared
    budget now, and what was taken   =  budget at first

* `Portion`: how many bytes one transfer moves.  `send_moves`, `fill_moves`: it moves them from the
  front.
* `account_call`, `Account.append`: the account of one call, and of events in a row.
* `run_conserves`: the account of a run, and what a transfer does behind it.
-/

namespace SqlSession

/-! ## Calls and events -/

/-- What can be done to a memory transport. -/
inductive MemoryCall where
  | connect
  | send (bytes : Bytes)
  | receive (buffer : Bytes)
  | pushInbound (bytes : Bytes)
  | close
  | clearSent

/-- A call that was made, with what it gave. -/
inductive MemoryEvent where
  | connected (outcome : Except LinkError Unit)
  | sent (offered : Bytes) (outcome : Except LinkError Nat)
  | received (outcome : Except LinkError Nat) (buffer : Bytes)
  | pushed (bytes : Bytes)
  | closed
  | cleared

namespace MemoryEvent

/-- The bytes a send took. -/
def taken : MemoryEvent → Bytes
  | .sent offered (.ok n) => offered.take n
  | _ => []

/-- The bytes a receive handed out. -/
def given : MemoryEvent → Bytes
  | .received (.ok n) buffer => buffer.take n
  | _ => []

/-- The bytes that were queued for receiving: those pushed, and over a loopback those taken. -/
def queued (loopback : Bool) : MemoryEvent → Bytes
  | .pushed bytes => bytes
  | e => if loopback then e.taken else []

/-- The record of sent bytes behind an event. -/
def recorded (record : Bytes) : MemoryEvent → Bytes
  | .cleared => []
  | e => record ++ e.taken

end MemoryEvent

/-- Makes a call. -/
def MemoryCall.run (call : MemoryCall) (t : MemoryTransport) : MemoryEvent × MemoryTransport :=
  match call with
  | .connect => (.connected t.connect.1, t.connect.2)
  | .send bytes => (.sent bytes (t.send bytes).1, (t.send bytes).2)
  | .receive buffer =>
    (.received (Transport.fill t buffer).1.1 (Transport.fill t buffer).1.2,
      (Transport.fill t buffer).2)
  | .pushInbound bytes => (.pushed bytes, t.pushInbound bytes)
  | .close => (.closed, t.close)
  | .clearSent => (.cleared, t.clearSent)

namespace MemoryTransport

open MemoryEvent

/-- Makes calls one after the other. -/
def runCalls (t : MemoryTransport) : List MemoryCall → List MemoryEvent × MemoryTransport
  | [] => ([], t)
  | call :: calls =>
    let (event, t) := call.run t
    let (events, t) := t.runCalls calls
    (event :: events, t)

/-! ## One transfer -/

/-- The bytes that one transfer moves: as many as are asked for, unless the chunk limit or another
bound is lower. -/
structure Portion (asked : Nat) (limit : Option ChunkLimit) (bound : Option Nat) (n : Nat) :
    Prop where
  le_asked : n ≤ asked
  le_limit : ∀ l ∈ limit, n ≤ l.val
  le_bound : ∀ b ∈ bound, n ≤ b
  greatest : n = asked ∨ (∃ l ∈ limit, n = l.val) ∨ ∃ b ∈ bound, n = b

theorem portion_chunk (t : MemoryTransport) (asked : Nat) :
    Portion asked t.maxChunk none (t.chunk asked) := by
  unfold chunk
  cases t.maxChunk with
  | none => exact ⟨Nat.le_refl asked, by simp, by simp, .inl rfl⟩
  | some limit =>
    refine ⟨Nat.min_le_left _ _, ?_, by simp, ?_⟩
    · intro l hl
      obtain rfl : limit = l := Option.some.inj hl
      exact Nat.min_le_right _ _
    · by_cases hfew : asked ≤ limit.val
      · exact .inl (Nat.min_eq_left hfew)
      · exact .inr (.inl ⟨limit, rfl, Nat.min_eq_right (by omega)⟩)

/-- A bound on top of the chunk limit. -/
theorem Portion.bounded {asked n : Nat} {limit : Option ChunkLimit}
    (h : Portion asked limit none n) (b : Nat) : Portion asked limit (some b) (min n b) := by
  have hasked := h.le_asked
  refine ⟨by omega, fun l hl => ?_, fun b' hb => ?_, ?_⟩
  · have hlimit := h.le_limit l hl
    omega
  · obtain rfl : b = b' := Option.some.inj hb
    omega
  · by_cases hbound : b ≤ n
    · exact .inr (.inr ⟨b, rfl, by omega⟩)
    · rcases h.greatest with rfl | ⟨l, hl, rfl⟩ | ⟨b', hb, -⟩
      · exact .inl (by omega)
      · exact .inr (.inl ⟨l, hl, by omega⟩)
      · simp at hb

theorem portion_accepted (t : MemoryTransport) (bytes : Bytes) :
    Portion bytes.length t.maxChunk t.sendBudget (t.accepted bytes).length := by
  have hchunk := t.portion_chunk bytes.length
  cases hbudget : t.sendBudget with
  | none =>
    have hlength : (t.accepted bytes).length = t.chunk bytes.length := by
      unfold accepted sendLimit chunk
      rw [hbudget]
      cases t.maxChunk with
      | none => rfl
      | some limit =>
        show (bytes.take limit.val).length = min bytes.length limit.val
        rw [List.length_take, Nat.min_comm]
    rwa [hlength]
  | some budget =>
    have hlength : (t.accepted bytes).length = min (t.chunk bytes.length) budget := by
      unfold accepted sendLimit chunk
      rw [hbudget]
      cases t.maxChunk with
      | none =>
        show (bytes.take budget).length = min bytes.length budget
        rw [List.length_take, Nat.min_comm]
      | some limit =>
        show (bytes.take (min budget limit.val)).length = min (min bytes.length limit.val) budget
        rw [List.length_take]
        omega
    rw [hlength]
    exact hchunk.bounded budget

/-- **Sends.**  An open transport takes a portion from the front of what it is offered, records it,
and queues it if it is a loopback. -/
theorem send_moves {t : MemoryTransport} (hopen : t.isOpen = true) (bytes : Bytes) :
    ∃ n t', t.send bytes = (.ok n, t') ∧ Portion bytes.length t.maxChunk t.sendBudget n ∧
      t'.sent.toList = t.sent.toList ++ bytes.take n ∧
      t'.inbound.toList =
        t.inbound.toList ++ (if t.loopback then bytes.take n else []) ∧
      t'.sendBudget = t.sendBudget.map (· - n) ∧
      t'.loopback = t.loopback ∧ t'.maxChunk = t.maxChunk ∧ t'.isOpen = true ∧
      t'.sendCalls = t.sendCalls + 1 ∧ t'.closeCalls = t.closeCalls := by
  have hfront : t.accepted bytes = bytes.take (t.accepted bytes).length :=
    List.prefix_iff_eq_take.1 (prefix_accepted t bytes)
  have hsend : t.send bytes =
      (.ok (t.accepted bytes).length,
        { t with
          sendCalls := t.sendCalls + 1
          sendBudget := t.sendBudget.map (· - (t.accepted bytes).length)
          sent := t.sent.append (t.accepted bytes)
          inbound := if t.loopback then t.inbound.append (t.accepted bytes) else t.inbound }) :=
    if_pos hopen
  refine ⟨_, _, hsend, t.portion_accepted bytes, ?_⟩
  rw [← hfront]
  refine ⟨ByteQueue.toList_append _ _, ?_, rfl, rfl, rfl, hopen, rfl, rfl⟩
  cases t.loopback with
  | true => exact ByteQueue.toList_append _ _
  | false => exact (List.append_nil _).symm

/-- **Receives.**  An open transport hands out a portion from the front of what is queued. -/
theorem receive_moves {t : MemoryTransport} (hopen : t.isOpen = true) (asked : Nat) :
    ∃ n t', t.receive asked = (.ok (t.inbound.toList.take n), t') ∧
      Portion asked t.maxChunk (some t.inbound.toList.length) n ∧
      t'.inbound.toList = t.inbound.toList.drop n ∧
      t' = { t with inbound := t'.inbound, receiveCalls := t.receiveCalls + 1 } := by
  have hportion := (t.portion_chunk asked).bounded t.inbound.toList.length
  have hreceive : t.receive asked =
      (.ok (t.inbound.split (t.chunk asked)).1,
        { t with
          inbound := (t.inbound.split (t.chunk asked)).2
          receiveCalls := t.receiveCalls + 1 }) := if_pos hopen
  refine ⟨_, (t.receive asked).2, ?_, hportion, ?_, ?_⟩
  · rw [hreceive, ByteQueue.fst_split, List.take_eq_take_min]
  · rw [hreceive]
    exact (ByteQueue.toList_snd_split _ _).trans List.drop_eq_drop_min
  · rw [hreceive]

/-- What is handed out is written over the front of the buffer, and the rest of the buffer stays. -/
theorem fill_moves {t : MemoryTransport} (hopen : t.isOpen = true) (buffer : Bytes) :
    ∃ n t', Transport.fill t buffer =
        ((.ok n, t.inbound.toList.take n ++ buffer.drop n), t') ∧
      Portion buffer.length t.maxChunk (some t.inbound.toList.length) n ∧
      t'.inbound.toList = t.inbound.toList.drop n ∧
      t' = { t with inbound := t'.inbound, receiveCalls := t.receiveCalls + 1 } := by
  obtain ⟨n, t', hreceive, hportion, hafter⟩ := receive_moves hopen buffer.length
  have hlength : (t.inbound.toList.take n).length = n :=
    List.length_take_of_le (hportion.le_bound _ rfl)
  refine ⟨n, t', ?_, hportion, hafter⟩
  unfold Transport.fill
  rw [transport_receive, hreceive]
  dsimp only
  rw [hlength]

/-- **Closed.**  A closed transport moves nothing; it counts the call. -/
theorem send_fails {t : MemoryTransport} (hclosed : t.isOpen = false) (bytes : Bytes) :
    t.send bytes = (.error .notConnected, { t with sendCalls := t.sendCalls + 1 }) := by
  simp [send, hclosed]

theorem fill_fails {t : MemoryTransport} (hclosed : t.isOpen = false) (buffer : Bytes) :
    Transport.fill t buffer =
      ((.error .notConnected, buffer), { t with receiveCalls := t.receiveCalls + 1 }) := by
  unfold Transport.fill
  rw [transport_receive]
  simp [receive, hclosed]

/-! ## Accounts -/

/-- Events account for what is between two states of a transport. -/
structure Account (t : MemoryTransport) (events : List MemoryEvent) (t' : MemoryTransport) :
    Prop where
  inbound : events.flatMap given ++ t'.inbound.toList =
    t.inbound.toList ++ events.flatMap (queued t.loopback)
  sent : t'.sent.toList = events.foldl recorded t.sent.toList
  budget : t'.sendBudget.map (· + (events.flatMap taken).length) = t.sendBudget
  loopback : t'.loopback = t.loopback

theorem Account.nil (t : MemoryTransport) : Account t [] t :=
  ⟨by simp, rfl, by simp, rfl⟩

/-- Events in a row account for what each of them accounts for. -/
theorem Account.append {t t' t'' : MemoryTransport} {es es' : List MemoryEvent}
    (h : Account t es t') (h' : Account t' es' t'') : Account t (es ++ es') t'' := by
  have hinbound := h'.inbound
  rw [h.loopback] at hinbound
  refine ⟨?_, ?_, ?_, h'.loopback.trans h.loopback⟩
  · rw [List.flatMap_append, List.flatMap_append, List.append_assoc, hinbound,
      ← List.append_assoc, h.inbound, List.append_assoc]
  · rw [h'.sent, h.sent, List.foldl_append]
  · rw [← h.budget, ← h'.budget, Option.map_map, List.flatMap_append, List.length_append]
    refine Option.map_congr fun b _ => ?_
    show b + _ = b + _ + _
    omega

/-- An event that moves no bytes leaves all of them where they are. -/
theorem account_idle {t t' : MemoryTransport} {e : MemoryEvent} (htaken : e.taken = [])
    (hgiven : e.given = []) (hqueued : e.queued t.loopback = []) (hkept : e ≠ .cleared)
    (ht' : t' = { t with
      isOpen := t'.isOpen, connectCalls := t'.connectCalls, sendCalls := t'.sendCalls,
      receiveCalls := t'.receiveCalls, closeCalls := t'.closeCalls }) :
    Account t [e] t' := by
  have hrecord : e.recorded t.sent.toList = t.sent.toList := by
    cases e <;> simp_all [recorded, taken]
  rw [ht']
  constructor
  · simp [hgiven, hqueued]
  · simp [hrecord]
  · simp [htaken]
  · rfl

/-- The bytes that a send takes are sent, and come off the budget. -/
theorem account_send (t : MemoryTransport) (bytes : Bytes) :
    Account t [.sent bytes (t.send bytes).1] (t.send bytes).2 := by
  cases hopen : t.isOpen with
  | false =>
    rw [send_fails hopen bytes]
    exact account_idle rfl rfl (by simp [queued, taken]) (by simp) rfl
  | true =>
    obtain ⟨n, t', hsend, hportion, hsent, hinbound, hbudget, hloop, -⟩ := send_moves hopen bytes
    rw [hsend]
    constructor
    · simp [given, queued, taken, hinbound]
    · simp [recorded, taken, hsent]
    · rw [hbudget, Option.map_map]
      have htaken : (List.flatMap taken [.sent bytes (.ok n)]).length = n := by
        simp [taken, hportion.le_asked]
      rw [htaken]
      cases hb : t.sendBudget with
      | none => rfl
      | some budget =>
        have hle := hportion.le_bound budget hb
        show some (budget - n + n) = some budget
        rw [Nat.sub_add_cancel hle]
    · exact hloop

/-- The bytes that a buffer is filled with come off the queue. -/
theorem account_fill (t : MemoryTransport) (buffer : Bytes) :
    Account t [.received (Transport.fill t buffer).1.1 (Transport.fill t buffer).1.2]
      (Transport.fill t buffer).2 := by
  cases hopen : t.isOpen with
  | false =>
    rw [fill_fails hopen buffer]
    exact account_idle rfl rfl (by simp [queued, taken]) (by simp) rfl
  | true =>
    obtain ⟨n, t', hfill, hportion, hinbound, ht'⟩ := fill_moves hopen buffer
    have hlength : (t.inbound.toList.take n).length = n :=
      List.length_take_of_le (hportion.le_bound _ rfl)
    have hgiven : given (.received (.ok n) (t.inbound.toList.take n ++ buffer.drop n)) =
        t.inbound.toList.take n := List.take_left' hlength
    rw [hfill, ht']
    constructor
    · simp [hgiven, queued, taken, hinbound]
    · simp [recorded, taken]
    · simp [taken]
    · rfl

/-- **Steps.**  The account of one call. -/
theorem account_call (call : MemoryCall) (t : MemoryTransport) :
    Account t [(call.run t).1] (call.run t).2 := by
  cases call with
  | connect =>
    show Account t [.connected t.connect.1] t.connect.2
    refine account_idle rfl rfl (by simp [queued, taken]) (by simp) ?_
    dsimp only [connect]
    split <;> rfl
  | send bytes => exact account_send t bytes
  | receive buffer => exact account_fill t buffer
  | pushInbound bytes =>
    show Account t [.pushed bytes] (t.pushInbound bytes)
    constructor
    · simp [given, queued, pushInbound]
    · simp [recorded, taken, pushInbound]
    · simp [taken, pushInbound]
    · rfl
  | close =>
    show Account t [.closed] t.close
    exact account_idle rfl rfl (by simp [queued, taken]) (by simp) rfl
  | clearSent =>
    show Account t [.cleared] t.clearSent
    constructor
    · simp [given, queued, taken, clearSent]
    · rfl
    · simp [taken, clearSent]
    · rfl

/-- **Runs.**  The account of calls in a row. -/
theorem account_run (t : MemoryTransport) (calls : List MemoryCall) :
    Account t (t.runCalls calls).1 (t.runCalls calls).2 := by
  induction calls generalizing t with
  | nil => exact .nil t
  | cons call calls ih => exact (account_call call t).append (ih (call.run t).2)

/-- While nothing is cleared, what is taken is put behind the record. -/
theorem foldl_recorded (record : Bytes) {events : List MemoryEvent}
    (h : ∀ e ∈ events, e ≠ .cleared) :
    events.foldl recorded record = record ++ events.flatMap taken := by
  induction events generalizing record with
  | nil => simp
  | cons e events ih =>
    obtain ⟨he, hevents⟩ := List.forall_mem_cons.1 h
    have hstep : e.recorded record = record ++ e.taken := by
      cases e <;> first | rfl | exact absurd rfl he
    rw [List.foldl_cons, hstep, ih _ hevents, List.flatMap_cons, List.append_assoc]

/-- **Conservation.**  After any calls on any memory transport: the bytes handed out and those still
queued are the bytes queued at first and those queued since; the record holds what was taken since it
was last cleared; and the budget and what was taken are the budget at first.  Behind them, an open
transport moves a portion from the front, and a closed one fails and moves nothing. -/
theorem run_conserves (t : MemoryTransport) (calls : List MemoryCall) :
    let events := (t.runCalls calls).1
    let after := (t.runCalls calls).2
    events.flatMap given ++ after.inbound.toList =
        t.inbound.toList ++ events.flatMap (queued t.loopback) ∧
      ((∀ e ∈ events, e ≠ .cleared) →
        after.sent.toList = t.sent.toList ++ events.flatMap taken) ∧
      (∀ front behind, events = front ++ .cleared :: behind → (∀ e ∈ behind, e ≠ .cleared) →
        after.sent.toList = behind.flatMap taken) ∧
      after.sendBudget.map (· + (events.flatMap taken).length) = t.sendBudget ∧
      (after.isOpen = true →
        (∀ bytes, ∃ n after', after.send bytes = (.ok n, after') ∧
          Portion bytes.length after.maxChunk after.sendBudget n ∧
          after'.sent.toList = after.sent.toList ++ bytes.take n) ∧
        ∀ buffer, ∃ n after', Transport.fill after buffer =
            ((.ok n, after.inbound.toList.take n ++ buffer.drop n), after') ∧
          Portion buffer.length after.maxChunk (some after.inbound.toList.length) n ∧
          after'.inbound.toList = after.inbound.toList.drop n) ∧
      (after.isOpen = false →
        (∀ bytes, after.send bytes =
          (.error .notConnected, { after with sendCalls := after.sendCalls + 1 })) ∧
        ∀ buffer, Transport.fill after buffer =
          ((.error .notConnected, buffer),
            { after with receiveCalls := after.receiveCalls + 1 })) := by
  intro events after
  have haccount : Account t events after := account_run t calls
  refine ⟨haccount.inbound, fun hkept => ?_, fun front behind hevents hkept => ?_,
    haccount.budget, fun hopen => ⟨fun bytes => ?_, fun buffer => ?_⟩,
    fun hclosed => ⟨send_fails hclosed, fill_fails hclosed⟩⟩
  · rw [haccount.sent, foldl_recorded _ hkept]
  · rw [haccount.sent, hevents, List.foldl_append, List.foldl_cons, foldl_recorded _ hkept]
    rfl
  · obtain ⟨n, after', hsend, hportion, hsent, -⟩ := send_moves hopen bytes
    exact ⟨n, after', hsend, hportion, hsent⟩
  · obtain ⟨n, after', hfill, hportion, hinbound, -⟩ := fill_moves hopen buffer
    exact ⟨n, after', hfill, hportion, hinbound⟩

/-- A loopback that moves two bytes at a time, with a byte in it from before; it is asked while it
is closed, and its record is cleared before it sends. -/
theorem run_conserves_loopback :
    let t : MemoryTransport :=
      { loopback := true, maxChunk := some (.ofNat 2), sendBudget := some 3
        inbound := .ofList [9], sent := .ofList [7] }
    let calls : List MemoryCall :=
      [.receive [0], .connect, .clearSent, .send [1, 2, 3], .receive [0, 0, 0]]
    let events := (t.runCalls calls).1
    let after := (t.runCalls calls).2
    events =
        [.received (.error .notConnected) [0], .connected (.ok ()), .cleared,
          .sent [1, 2, 3] (.ok 2), .received (.ok 2) [9, 1, 0]] ∧
      [9, 1] ++ after.inbound.toList = [9] ++ [1, 2] ∧ after.sent.toList = [1, 2] ∧
      after.sendBudget.map (· + 2) = some 3 ∧
      ∃ n after', after.send [4, 5] = (.ok n, after') ∧
        Portion 2 after.maxChunk after.sendBudget n := by
  intro t calls events after
  have hevents : events =
      [.received (.error .notConnected) [0], .connected (.ok ()), .cleared,
        .sent [1, 2, 3] (.ok 2), .received (.ok 2) [9, 1, 0]] := rfl
  obtain ⟨hinbound, -, hcleared, hbudget, hopened, -⟩ := run_conserves t calls
  have hbehind := hcleared [.received (.error .notConnected) [0], .connected (.ok ())]
    [.sent [1, 2, 3] (.ok 2), .received (.ok 2) [9, 1, 0]] hevents (by simp)
  rw [show (t.runCalls calls).1 = _ from hevents] at hinbound hbudget
  obtain ⟨n, after', hsend, hportion, -⟩ := (hopened rfl).1 [4, 5]
  exact ⟨hevents, hinbound, hbehind, hbudget, n, after', hsend, hportion⟩

end MemoryTransport

end SqlSession
