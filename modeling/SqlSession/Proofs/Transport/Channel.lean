import SqlSession.Framing
import SqlSession.Proofs.Wire.Frame
import SqlSession.Transport.Memory
/-!
# The channel behind a memory transport

A chunk limit decides how many transfers a frame takes, but not what comes of it.  `channel` is a
memory transport without its limit and its transfer counters.  On it the loops that send and
receive a frame are single steps.

* `sendAll_eq`: the budget decides how many bytes are taken; a short count closes the transport.
* `receiveAll_eq`, `receiveBody_eq`: what is queued decides how many bytes are given out.
* `send_eq`: a payload is framed and offered, or refused without any transfer.
* `receive_eq`: receiving a frame is `Frame.decode` on the queued bytes.
-/

namespace SqlSession

/-- A memory transport without its chunk limit and its transfer counters. -/
structure Channel where
  inbound : Bytes
  sent : Bytes
  isOpen : Bool
  loopback : Bool
  refuses : Bool
  sendBudget : Option Nat
  connectTimeout : Option UInt64
  connectCalls : Nat
  closeCalls : Nat
  deriving DecidableEq, Repr

/-- The channel of a memory transport. -/
def MemoryTransport.channel (t : MemoryTransport) : Channel where
  inbound := t.inbound.toList
  sent := t.sent.toList
  isOpen := t.isOpen
  loopback := t.loopback
  refuses := t.refuses
  sendBudget := t.sendBudget
  connectTimeout := t.connectTimeout
  connectCalls := t.connectCalls
  closeCalls := t.closeCalls

namespace Channel

/-! ## Steps -/

def close (c : Channel) : Channel := { c with isOpen := false, closeCalls := c.closeCalls + 1 }

/-- How many of `n` bytes the budget allows. -/
def allowance (c : Channel) (n : Nat) : Nat :=
  match c.sendBudget with
  | some budget => min n budget
  | none => n

/-- Records bytes that are sent. -/
def accept (c : Channel) (bytes : Bytes) : Channel :=
  { c with
    inbound := if c.loopback then c.inbound ++ bytes else c.inbound
    sent := c.sent ++ bytes
    sendBudget := c.sendBudget.map (· - bytes.length) }

/-- Offers bytes; what is not taken is left, and closes the channel. -/
def offer (c : Channel) (bytes : Bytes) : Bytes × Channel :=
  if bytes = [] then ([], c)
  else if c.isOpen then
    let n := c.allowance bytes.length
    let after := c.accept (bytes.take n)
    (bytes.drop n, if n = bytes.length then after else after.close)
  else (bytes, c.close)

/-- Takes `n` bytes out of those that are queued. -/
def skip (c : Channel) (n : Nat) : Channel := { c with inbound := c.inbound.drop n }

/-- Fetches `n` bytes; fewer than that close the channel. -/
def fetch (c : Channel) (n : Nat) : Bytes × Channel :=
  if n = 0 then ([], c)
  else if c.isOpen then
    (c.inbound.take n, if n ≤ c.inbound.length then c.skip n else (c.skip n).close)
  else ([], c.close)

/-- Sends a payload as one frame. -/
def send (c : Channel) (payload : Bytes) : Except DriverError Unit × Channel :=
  match Frame.encode payload with
  | .error e => (.error (.general e.message), c)
  | .ok frame =>
    if (c.offer frame).1 = [] then (.ok (), (c.offer frame).2)
    else
      (.error (.linkFailure "Can not send message due to connection failure"), (c.offer frame).2)

/-- Receives the frame at the front of the queued bytes. -/
def receive (c : Channel) : Except DriverError Bytes × Channel :=
  if c.isOpen then
    match Frame.decode c.inbound with
    | (.ok (some payload), rest) => (.ok payload, { c with inbound := rest })
    | (.ok none, _) =>
      let part := if c.inbound.length < FrameHeader.size then "header" else "body"
      (.error (.linkFailure ("Can not receive message " ++ part)), { c with inbound := [] }.close)
    | (.error _, _) =>
      (.error (.linkFailure "Protocol error: Message length is negative"),
        (c.skip FrameHeader.size).close)
  else (.error (.linkFailure "Can not receive message header"), c.close)

/-! ## Lemmas -/

@[simp] theorem skip_inbound (c : Channel) (n : Nat) : (c.skip n).inbound = c.inbound.drop n := rfl

@[simp] theorem accept_isOpen (c : Channel) (bytes : Bytes) :
    (c.accept bytes).isOpen = c.isOpen := rfl

@[simp] theorem skip_skip (c : Channel) (m n : Nat) : (c.skip m).skip n = c.skip (m + n) := by
  simp only [skip, List.drop_drop]

@[simp] theorem accept_accept (c : Channel) (a b : Bytes) :
    (c.accept a).accept b = c.accept (a ++ b) := by
  cases hl : c.loopback <;> cases hb : c.sendBudget <;> simp [accept, hl, hb, Nat.sub_sub]

theorem allowance_le (c : Channel) (n : Nat) : c.allowance n ≤ n := by
  unfold allowance
  split <;> omega

theorem allowance_eq_iff (c : Channel) (n : Nat) :
    c.allowance n = n ↔ ∀ budget ∈ c.sendBudget, n ≤ budget := by
  unfold allowance
  cases c.sendBudget with
  | none => simp
  | some budget =>
    simp only [Option.mem_some_iff, forall_eq']
    omega

/-- What is allowed after some bytes were taken is what was allowed before, less those bytes. -/
theorem allowance_accept (c : Channel) (bytes : Bytes) (n : Nat)
    (h : bytes.length ≤ c.allowance (bytes.length + n)) :
    (c.accept bytes).allowance n = c.allowance (bytes.length + n) - bytes.length := by
  unfold allowance accept at *
  cases hb : c.sendBudget with
  | none => simp
  | some budget =>
    simp only [hb, Option.map_some] at h ⊢
    omega

/-- Offering bytes is offering a part that is allowed, then the rest. -/
theorem offer_append (c : Channel) (a b : Bytes) (hopen : c.isOpen = true) (ha : a ≠ [])
    (h : a.length ≤ c.allowance (a ++ b).length) : c.offer (a ++ b) = (c.accept a).offer b := by
  rw [List.length_append] at h
  by_cases hb : b = []
  · subst hb
    simp only [List.length_nil, Nat.add_zero] at h
    have hall : c.allowance a.length = a.length := by
      have := allowance_le c a.length
      omega
    simp [offer, ha, hopen, hall]
  · have hn := allowance_accept c a b.length h
    have hk : c.allowance (a.length + b.length) =
        a.length + (c.accept a).allowance b.length := by omega
    have hab : a ++ b ≠ [] := by simp [ha]
    simp only [offer, hab, hb, if_false, hopen, accept_isOpen, if_true, List.length_append, hk,
      List.take_length_add_append, List.drop_length_add_append, accept_accept,
      Nat.add_left_cancel_iff]

/-! What is fetched from an open channel that has the bytes, from an open one that has fewer, and
from a closed one. -/

theorem fetch_of_le (c : Channel) (n : Nat) (hopen : c.isOpen = true)
    (h : n ≤ c.inbound.length) : c.fetch n = (c.inbound.take n, c.skip n) := by
  by_cases hn : n = 0
  · subst hn
    rfl
  · simp [fetch, hn, hopen, h]

theorem fetch_of_lt (c : Channel) (n : Nat) (hopen : c.isOpen = true)
    (h : c.inbound.length < n) : c.fetch n = (c.inbound, { c with inbound := [] }.close) := by
  have hn : n ≠ 0 := by omega
  have hle : ¬ n ≤ c.inbound.length := by omega
  simp only [fetch, hn, hopen, hle, if_true, if_false, skip]
  rw [List.take_of_length_le (by omega), List.drop_of_length_le (by omega)]

theorem fetch_of_closed (c : Channel) (n : Nat) (hopen : c.isOpen = false) (hn : n ≠ 0) :
    c.fetch n = ([], c.close) := by
  simp [fetch, hn, hopen]

/-- Fetching bytes is fetching a part that is queued, then the rest. -/
theorem fetch_add (c : Channel) (m n : Nat) (hopen : c.isOpen = true)
    (h : m ≤ c.inbound.length) :
    c.fetch (m + n) = (c.inbound.take m ++ ((c.skip m).fetch n).1, ((c.skip m).fetch n).2) := by
  by_cases hn : n ≤ c.inbound.length - m
  · have hrest : n ≤ (c.skip m).inbound.length := by rwa [skip_inbound, List.length_drop]
    rw [fetch_of_le c _ hopen (by omega), fetch_of_le (c.skip m) n hopen hrest, skip_skip,
      List.take_add, skip_inbound]
  · have hrest : (c.skip m).inbound.length < n := by
      rw [skip_inbound, List.length_drop]
      omega
    rw [fetch_of_lt c _ hopen (by omega), fetch_of_lt (c.skip m) n hopen hrest, skip_inbound,
      List.take_append_drop]
    rfl

/-- All bytes are fetched from an open channel that has them. -/
theorem length_fetch (c : Channel) (n : Nat) :
    (c.fetch n).1.length = n ↔ n = 0 ∨ c.isOpen = true ∧ n ≤ c.inbound.length := by
  unfold fetch
  split
  · simp_all
  · split
    · simp only [List.length_take]
      grind
    · simp_all
      omega

theorem length_fetch_le (c : Channel) (n : Nat) : (c.fetch n).1.length ≤ n := by
  unfold fetch
  split
  · simp
  · split
    · exact List.length_take_le _ _
    · simp

/-- What follows a part that was fetched whole is fetched from the channel behind it. -/
theorem fetch_of_full (c : Channel) (m n : Nat) (hm : m ≠ 0) (hmn : m ≤ n)
    (h : (c.fetch m).1.length = m) :
    c.fetch n = ((c.fetch m).1 ++ ((c.fetch m).2.fetch (n - m)).1,
      ((c.fetch m).2.fetch (n - m)).2) := by
  obtain ⟨hopen, hle⟩ := ((length_fetch c m).1 h).resolve_left hm
  have hadd := fetch_add c m (n - m) hopen hle
  rw [Nat.add_sub_cancel' hmn] at hadd
  rw [hadd, fetch_of_le c m hopen hle]

/-- Asking for more than there is makes no difference. -/
theorem fetch_of_short (c : Channel) (m n : Nat) (hmn : m ≤ n) (h : (c.fetch m).1.length ≠ m) :
    c.fetch n = c.fetch m := by
  rw [Ne, length_fetch, not_or] at h
  cases hopen : c.isOpen with
  | false => rw [fetch_of_closed c n hopen (by omega), fetch_of_closed c m hopen h.1]
  | true =>
    have hlt : c.inbound.length < m := by
      have hle : ¬ m ≤ c.inbound.length := fun hle => h.2 ⟨hopen, hle⟩
      omega
    rw [fetch_of_lt c n hopen (by omega), fetch_of_lt c m hopen hlt]

/-! How receiving goes on, by what is queued. -/

theorem receive_of_closed (c : Channel) (hopen : c.isOpen = false) :
    c.receive = (.error (.linkFailure "Can not receive message header"), c.close) := by
  simp [receive, hopen]

theorem receive_of_short (c : Channel) (hopen : c.isOpen = true)
    (h : c.inbound.length < FrameHeader.size) :
    c.receive =
      (.error (.linkFailure "Can not receive message header"), { c with inbound := [] }.close) := by
  rw [receive, if_pos hopen, Frame.decode_of_short h]
  simp only [h, if_true]
  rfl

theorem receive_of_header (c : Channel) (hopen : c.isOpen = true)
    (h : FrameHeader.size ≤ c.inbound.length) :
    c.receive =
      match (FrameHeader.decode (c.inbound.take FrameHeader.size)).payloadLength with
      | .error _ =>
        (.error (.linkFailure "Protocol error: Message length is negative"),
          (c.skip FrameHeader.size).close)
      | .ok n =>
        if n ≤ (c.skip FrameHeader.size).inbound.length then
          (.ok ((c.skip FrameHeader.size).inbound.take n), (c.skip FrameHeader.size).skip n)
        else
          (.error (.linkFailure "Can not receive message body"),
            { c with inbound := [] }.close) := by
  have hlt : ¬ c.inbound.length < FrameHeader.size := by omega
  rw [receive, if_pos hopen, Frame.decode_of_header h]
  cases (FrameHeader.decode (c.inbound.take FrameHeader.size)).payloadLength with
  | error e => rfl
  | ok n =>
    by_cases hn : n ≤ (c.inbound.drop FrameHeader.size).length
    · simp only [skip_inbound, hn, if_true]
      rfl
    · simp only [skip_inbound, hn, hlt, if_false]
      rfl

end Channel

namespace MemoryTransport

theorem transport_send (t : MemoryTransport) (bytes : Bytes) :
    Transport.send t bytes = t.send bytes := rfl

theorem transport_receive (t : MemoryTransport) (n : Nat) :
    Transport.receive t n = t.receive n := rfl

@[simp] theorem transport_close (t : MemoryTransport) : Transport.close t = t.close := rfl

@[simp] theorem channel_isOpen (t : MemoryTransport) : t.channel.isOpen = t.isOpen := rfl

theorem channel_inbound (t : MemoryTransport) :
    t.channel.inbound = t.inbound.toList := rfl

@[simp] theorem channel_close (t : MemoryTransport) : t.close.channel = t.channel.close := rfl

/-- What is taken is a part from the front. -/
theorem prefix_accepted (t : MemoryTransport) (bytes : Bytes) : t.accepted bytes <+: bytes := by
  unfold accepted
  split
  · exact List.take_prefix _ _
  · exact List.prefix_rfl

/-- At most what is allowed is taken, and nothing only if nothing is allowed. -/
theorem length_accepted (t : MemoryTransport) (bytes : Bytes) :
    (t.accepted bytes).length ≤ t.channel.allowance bytes.length ∧
      ((t.accepted bytes).length = 0 → t.channel.allowance bytes.length = 0) := by
  unfold accepted sendLimit chunk Channel.allowance channel
  cases t.sendBudget with
  | none =>
    cases t.maxChunk with
    | none => simp
    | some limit =>
      have := limit.property
      simp only [Option.map_some, List.length_take]
      omega
  | some budget =>
    cases t.maxChunk with
    | none =>
      simp only [List.length_take]
      omega
    | some limit =>
      have := limit.property
      simp only [List.length_take]
      omega

/-- Counting transfers leaves the channel alone. -/
theorem send_closed (t : MemoryTransport) (bytes : Bytes) (h : t.isOpen = false) :
    ∃ t', t.send bytes = (.error .notConnected, t') ∧ t'.channel = t.channel := by
  refine ⟨{ t with sendCalls := t.sendCalls + 1 }, ?_, rfl⟩
  simp [send, h]

/-- An open transport takes some bytes from the front: at most what is allowed, and none only if
none are allowed. -/
theorem send_open (t : MemoryTransport) (bytes : Bytes) (h : t.isOpen = true) :
    ∃ n t', t.send bytes = (.ok n, t') ∧ n ≤ t.channel.allowance bytes.length ∧
      (n = 0 → t.channel.allowance bytes.length = 0) ∧
      t'.channel = t.channel.accept (bytes.take n) := by
  obtain ⟨hle, hzero⟩ := length_accepted t bytes
  have htake := List.prefix_iff_eq_take.1 (prefix_accepted t bytes)
  refine ⟨(t.accepted bytes).length, _, by simp only [send, h, if_true]; rfl, hle, hzero, ?_⟩
  rw [← htake]
  cases hl : t.loopback <;> simp [channel, Channel.accept, h, hl, accepted, sendLimit, chunk]

theorem receive_closed (t : MemoryTransport) (n : Nat) (h : t.isOpen = false) :
    ∃ t', t.receive n = (.error .notConnected, t') ∧ t'.channel = t.channel := by
  refine ⟨{ t with receiveCalls := t.receiveCalls + 1 }, ?_, rfl⟩
  simp [receive, h]

/-- An open transport gives out some bytes from the front, and none only if none are asked for or
none are queued. -/
theorem receive_open (t : MemoryTransport) (n : Nat) (h : t.isOpen = true) :
    ∃ k t', t.receive n = (.ok (t.channel.inbound.take k), t') ∧ k ≤ n ∧
      k ≤ t.channel.inbound.length ∧ (k = 0 → n = 0 ∨ t.channel.inbound = []) ∧
      t'.channel = t.channel.skip k := by
  have hchunk : t.chunk n ≤ n ∧ (t.chunk n = 0 → n = 0) := by
    unfold chunk
    cases t.maxChunk with
    | none => exact ⟨Nat.le_refl n, id⟩
    | some limit =>
      have := limit.property
      simp only
      omega
  refine ⟨min (t.chunk n) t.inbound.toList.length, { t with
    receiveCalls := t.receiveCalls + 1, inbound := (t.inbound.split (t.chunk n)).2 },
    ?_, by omega, Nat.min_le_right _ _, ?_, ?_⟩
  · simp only [receive, h, if_true, channel_inbound, ByteQueue.fst_split, ← List.take_eq_take_min]
    rfl
  · rw [channel_inbound, ← List.length_eq_zero_iff]
    omega
  · simp only [channel, Channel.skip, ByteQueue.toList_snd_split]
    rw [List.drop_eq_drop_min]

end MemoryTransport

namespace Framing

open MemoryTransport

/-- **Sending all.**  The chunk limit does not show: bytes are taken as far as the budget goes. -/
theorem sendAll_eq (t : MemoryTransport) (data : Bytes) :
    (sendAll t data).1 = (t.channel.offer data).1 ∧
      (sendAll t data).2.channel = (t.channel.offer data).2 := by
  fun_induction sendAll t data with
  | case1 t => simp [Channel.offer]
  | case2 t b bs n t' hs ih =>
    -- some bytes were taken; the rest is offered to the channel behind them
    cases hopen : t.isOpen with
    | false =>
      obtain ⟨t'', hclosed, -⟩ := send_closed t (b :: bs) hopen
      rw [transport_send, hclosed] at hs
      simp at hs
    | true =>
      obtain ⟨k, t'', htaken, hle, -, hchannel⟩ := send_open t (b :: bs) hopen
      rw [transport_send, htaken] at hs
      simp only [Prod.mk.injEq, Except.ok.injEq] at hs
      obtain ⟨rfl, rfl⟩ := hs
      have hsplit := List.take_append_drop (n + 1) (b :: bs)
      have hrest := Channel.offer_append t.channel ((b :: bs).take (n + 1))
        ((b :: bs).drop (n + 1)) hopen (by simp) (by rw [hsplit, List.length_take]; omega)
      rw [hsplit] at hrest
      rw [hrest, ← hchannel]
      exact ih
  | case3 t b bs x t' hno hs =>
    -- nothing was taken: the transport is closed, or the budget is spent
    cases hopen : t.isOpen with
    | false =>
      obtain ⟨t'', hclosed, hchannel⟩ := send_closed t (b :: bs) hopen
      rw [transport_send, hclosed] at hs
      simp only [Prod.mk.injEq] at hs
      obtain ⟨rfl, rfl⟩ := hs
      simp [Channel.offer, hopen, hchannel]
    | true =>
      obtain ⟨k, t'', htaken, -, hzero, hchannel⟩ := send_open t (b :: bs) hopen
      rw [transport_send, htaken] at hs
      simp only [Prod.mk.injEq] at hs
      obtain ⟨rfl, rfl⟩ := hs
      have hk : k = 0 := by
        cases k with
        | zero => rfl
        | succ n => exact absurd rfl (hno n)
      have hnone := hzero hk
      rw [List.length_cons] at hnone
      subst hk
      simp [Channel.offer, hopen, hchannel, hnone]

/-- **Receiving several bytes.**  The chunk limit does not show: what is queued is given out. -/
theorem receiveMore_eq (t : MemoryTransport) (received : Bytes) (n : Nat) :
    (receiveMore t received n).1 = (t.channel.fetch n).1.reverse ++ received ∧
      (receiveMore t received n).2.channel = (t.channel.fetch n).2 := by
  fun_induction receiveMore t received n with
  | case1 t received => simp [Channel.fetch]
  | case2 t received n hn b bs t' hr ih =>
    cases hopen : t.isOpen with
    | false =>
      obtain ⟨t'', hclosed, -⟩ := receive_closed t n hopen
      rw [transport_receive, hclosed] at hr
      simp at hr
    | true =>
      obtain ⟨k, t'', hgiven, hle, hqueued, -, hchannel⟩ := receive_open t n hopen
      rw [transport_receive, hgiven] at hr
      simp only [Prod.mk.injEq, Except.ok.injEq] at hr
      obtain ⟨htake, rfl⟩ := hr
      have hk : k = bs.length + 1 := by
        have := congrArg List.length htake
        rw [List.length_take, List.length_cons] at this
        omega
      have hadd := Channel.fetch_add t.channel k (n - k) hopen hqueued
      rw [Nat.add_sub_cancel' hle, htake, ← hchannel] at hadd
      rw [hadd, ih.1, ih.2, hk]
      simp [List.reverseAux_eq]
  | case3 t received n hn x t' hno hr =>
    -- nothing was given: the transport is closed, or no bytes are queued
    cases hopen : t.isOpen with
    | false =>
      obtain ⟨t'', hclosed, hchannel⟩ := receive_closed t n hopen
      rw [transport_receive, hclosed] at hr
      simp only [Prod.mk.injEq] at hr
      obtain ⟨rfl, rfl⟩ := hr
      simp [Channel.fetch, hn, hopen, hchannel]
    | true =>
      obtain ⟨k, t'', hgiven, -, hqueued, hzero, hchannel⟩ := receive_open t n hopen
      rw [transport_receive, hgiven] at hr
      simp only [Prod.mk.injEq] at hr
      obtain ⟨rfl, rfl⟩ := hr
      have hempty : t.channel.inbound = [] := by
        cases htake : t.channel.inbound.take k with
        | nil =>
          rcases List.take_eq_nil_iff.1 htake with rfl | hnil
          · exact (hzero rfl).resolve_left hn
          · exact hnil
        | cons b bs => exact absurd (congrArg Except.ok htake) (hno b bs)
      simp [Channel.fetch, Channel.skip, hn, hopen, hchannel, hempty]

theorem receiveAll_eq (t : MemoryTransport) (n : Nat) :
    (receiveAll t n).1 = (t.channel.fetch n).1 ∧
      (receiveAll t n).2.channel = (t.channel.fetch n).2 := by
  obtain ⟨hreceived, hafter⟩ := receiveMore_eq t [] n
  refine ⟨?_, hafter⟩
  show (receiveMore t [] n).1.reverse = _
  simp [hreceived]

/-- **Receiving a body.**  The steps do not show either: a body is whole, or is not given out. -/
theorem receiveBody_eq (t : MemoryTransport) (n : Nat) :
    (receiveBody t n).1 =
        (if (t.channel.fetch n).1.length = n then some (t.channel.fetch n).1 else none) ∧
      (receiveBody t n).2.channel = (t.channel.fetch n).2 := by
  fun_induction receiveBody t n with
  | case1 t => simp [Channel.fetch]
  | case2 t n hn step part t' hr hfull rest t'' hb ih =>
    have hstep : step ≠ 0 ∧ step ≤ n := by
      simp only [step, receiveStep]
      omega
    have hfetch := receiveAll_eq t step
    rw [hr] at hfetch
    obtain ⟨hpart, hafter⟩ : part = _ ∧ t'.channel = _ := hfetch
    rw [hb] at ih
    obtain ⟨hrest, hlast⟩ : rest = _ ∧ t''.channel = _ := ih
    have hwhole : (t.channel.fetch step).1.length = step := hpart ▸ hfull
    rw [Channel.fetch_of_full t.channel step n hstep.1 hstep.2 hwhole, ← hpart, ← hafter]
    have hlen : (part ++ (t'.channel.fetch (n - step)).1).length = n ↔
        (t'.channel.fetch (n - step)).1.length = n - step := by
      rw [List.length_append]
      omega
    refine ⟨?_, hlast⟩
    by_cases hmore : (t'.channel.fetch (n - step)).1.length = n - step
    · rw [if_pos (hlen.2 hmore), hrest, if_pos hmore, Option.map_some]
    · rw [if_neg (mt hlen.1 hmore), hrest, if_neg hmore, Option.map_none]
  | case3 t n hn step part t' hr hshort =>
    have hfetch := receiveAll_eq t step
    rw [hr] at hfetch
    obtain ⟨hpart, hafter⟩ : part = _ ∧ t'.channel = _ := hfetch
    have hle : step ≤ n := Nat.min_le_left n receiveStep
    have hlt : part.length ≠ n := by
      have := Channel.length_fetch_le t.channel step
      rw [← hpart] at this
      omega
    rw [Channel.fetch_of_short t.channel step n hle (hpart ▸ hshort), ← hpart, ← hafter,
      if_neg hlt]
    exact ⟨rfl, rfl⟩

/-- **Sending a frame.** -/
theorem send_eq (t : MemoryTransport) (payload : Bytes) :
    (send t payload).1 = (t.channel.send payload).1 ∧
      (send t payload).2.channel = (t.channel.send payload).2 := by
  unfold send Channel.send
  cases Frame.encode payload with
  | error e => exact ⟨rfl, rfl⟩
  | ok frame =>
    obtain ⟨hleft, hafter⟩ := sendAll_eq t frame
    simp only [hleft]
    by_cases hdone : (t.channel.offer frame).1 = []
    · simp [hdone, hafter]
    · simp [hdone, hafter]

/-- **Receiving a frame.**  The payload is what decoding the queued bytes gives. -/
theorem receive_eq (t : MemoryTransport) :
    (receive t).1 = t.channel.receive.1 ∧ (receive t).2.channel = t.channel.receive.2 := by
  have hfetch := receiveAll_eq t FrameHeader.size
  rcases hr : receiveAll t FrameHeader.size with ⟨header, t'⟩
  rw [hr] at hfetch
  obtain ⟨hheader, hafter⟩ : header = _ ∧ t'.channel = _ := hfetch
  unfold receive
  simp only [hr]
  by_cases hopen : t.channel.isOpen = true
  · by_cases hlen : FrameHeader.size ≤ t.channel.inbound.length
    · rw [Channel.fetch_of_le _ _ hopen hlen] at hheader hafter
      have hsize : header.length = FrameHeader.size := by
        rw [hheader]
        exact List.length_take_of_le hlen
      rw [if_pos hsize, Channel.receive_of_header _ hopen hlen, hheader]
      dsimp only
      cases (FrameHeader.decode (t.channel.inbound.take FrameHeader.size)).payloadLength with
      | error e => exact ⟨rfl, congrArg Channel.close hafter⟩
      | ok n =>
        have hbody := receiveBody_eq t' n
        rw [show t'.channel = t.channel.skip FrameHeader.size from hafter] at hbody
        rcases hb : receiveBody t' n with ⟨body, t''⟩
        rw [hb] at hbody
        dsimp only
        by_cases hn : n ≤ (t.channel.skip FrameHeader.size).inbound.length
        · rw [Channel.fetch_of_le _ n (by exact hopen) hn] at hbody
          obtain ⟨hgiven, hlast⟩ : body = _ ∧ t''.channel = _ := hbody
          rw [if_pos (List.length_take_of_le hn)] at hgiven
          rw [hb, hgiven, if_pos hn]
          exact ⟨rfl, hlast⟩
        · rw [Channel.fetch_of_lt _ n (by exact hopen) (by omega)] at hbody
          obtain ⟨hgiven, hlast⟩ : body = _ ∧ t''.channel = _ := hbody
          rw [if_neg (by dsimp only; omega)] at hgiven
          rw [hb, hgiven, if_neg hn]
          exact ⟨rfl, hlast⟩
    · rw [Channel.fetch_of_lt _ _ hopen (by omega)] at hheader hafter
      have hsize : header.length ≠ FrameHeader.size := by
        rw [hheader]
        exact fun h => hlen (Nat.le_of_eq h.symm)
      rw [if_neg hsize, Channel.receive_of_short _ hopen (by omega)]
      exact ⟨rfl, hafter⟩
  · rw [Channel.fetch_of_closed _ _ (by simpa using hopen) (by decide)] at hheader hafter
    have hsize : header.length ≠ FrameHeader.size := by
      rw [hheader]
      exact fun h => by simp [FrameHeader.size] at h
    rw [if_neg hsize, Channel.receive_of_closed _ (by simpa using hopen)]
    exact ⟨rfl, hafter⟩

end Framing

end SqlSession
