import SqlSession.Proofs.Transport.Account
import SqlSession.Proofs.Transport.Sending
/-!
# How many transfers a frame takes

Over an open memory transport, every transfer of a frame moves as many bytes as the chunk limit
allows, and none is repeated.  With `transfers limit n` for `n` bytes, rounded up to whole chunks:

    sending a frame of n bytes       transfers n
    a budget of n bytes runs out     transfers n, and one that takes nothing; then a close
    receiving a header               transfers 4
    receiving a body of n bytes      transfers 65536 for each whole step, and the transfers of the
                                     rest (`bodyTransfers`)
    the queued bytes end in it       the transfers of what there is, and one that gives nothing;
                                     then a close

Over a closed one, a frame takes one transfer, which fails, and a close.

* `transfers_portion`: one transfer less for what is left.
* `sendCalls_sendAll`: the sends of a frame.
* `Gives`: receives in a row, each with some bytes.  `Fetches`: how a part of a frame is received.
* `receiveAll_fetches`, `receiveBody_fetches`, `receive_gives`: the receives of a frame.
* `frame_transfers`: the table.
-/

namespace SqlSession

/-- How many transfers `n` bytes take: whole chunks, and one for the bytes that are left over.
Without a limit, one transfer takes any number of bytes. -/
def transfers (limit : Option ChunkLimit) (n : Nat) : Nat :=
  match limit with
  | some c => (n + c.val - 1) / c.val
  | none => min n 1

/-- How many transfers a body of `n` bytes takes: its steps are received one after the other. -/
def bodyTransfers (limit : Option ChunkLimit) (n : Nat) : Nat :=
  n / Framing.receiveStep * transfers limit Framing.receiveStep +
    transfers limit (n % Framing.receiveStep)

namespace MemoryTransport

/-! ## Counting -/

@[simp] theorem transfers_zero (limit : Option ChunkLimit) : transfers limit 0 = 0 := by
  cases limit with
  | none => rfl
  | some c =>
    have hc := c.property
    exact Nat.div_eq_of_lt (by omega)

/-- A transfer that moves a portion leaves one transfer less. -/
theorem transfers_portion {limit : Option ChunkLimit} {n k : Nat} (h : Portion n limit none k)
    (hn : 0 < n) : transfers limit n = transfers limit (n - k) + 1 := by
  have hle := h.le_asked
  cases limit with
  | none =>
    obtain rfl : k = n := by
      rcases h.greatest with hk | ⟨l, hl, -⟩ | ⟨b, hb, -⟩
      · exact hk
      · simp at hl
      · simp at hb
    rw [Nat.sub_self, transfers_zero]
    exact Nat.min_eq_right hn
  | some c =>
    have hc := c.property
    have hlimit := h.le_limit c rfl
    show (n + c.val - 1) / c.val = (n - k + c.val - 1) / c.val + 1
    rcases h.greatest with rfl | ⟨l, hl, rfl⟩ | ⟨b, hb, -⟩
    · -- the last chunk, which may be short
      have hlast : (k + c.val - 1) / c.val = 1 := Nat.div_eq_of_lt_le (by omega) (by omega)
      have hnone : (k - k + c.val - 1) / c.val = 0 := Nat.div_eq_of_lt (by omega)
      rw [hlast, hnone]
    · -- a whole chunk
      obtain rfl : c = l := Option.some.inj hl
      have hsplit : n + c.val - 1 = n - c.val + c.val - 1 + c.val := by omega
      rw [hsplit, Nat.add_div_right _ hc]
    · simp at hb

/-- A portion moves something, if there is something to move. -/
theorem Portion.pos {limit : Option ChunkLimit} {n k : Nat} (h : Portion n limit none k)
    (hn : 0 < n) : 0 < k := by
  rcases h.greatest with rfl | ⟨l, -, rfl⟩ | ⟨b, hb, -⟩
  · exact hn
  · exact l.property
  · simp at hb

/-- A bound counts as if fewer bytes were asked for. -/
theorem Portion.within {limit : Option ChunkLimit} {n b k : Nat}
    (h : Portion n limit (some b) k) : Portion (min n b) limit none k := by
  have hasked := h.le_asked
  have hbound := h.le_bound b rfl
  refine ⟨by omega, h.le_limit, by simp, ?_⟩
  rcases h.greatest with hk | hk | ⟨b', hb, hk⟩
  · exact .inl (by omega)
  · exact .inr (.inl hk)
  · obtain rfl : b = b' := Option.some.inj hb
    exact .inl (by omega)

/-- A body that is longer than a step takes the transfers of the step, then those of the rest. -/
theorem bodyTransfers_step (limit : Option ChunkLimit) {n : Nat} (h : Framing.receiveStep ≤ n) :
    bodyTransfers limit n =
      transfers limit Framing.receiveStep + bodyTransfers limit (n - Framing.receiveStep) := by
  have hstep : 0 < Framing.receiveStep := by decide
  have hdiv : n / Framing.receiveStep = (n - Framing.receiveStep) / Framing.receiveStep + 1 :=
    Nat.div_eq_sub_div hstep h
  have hmod : n % Framing.receiveStep = (n - Framing.receiveStep) % Framing.receiveStep :=
    Nat.mod_eq_sub_mod h
  unfold bodyTransfers
  rw [hdiv, hmod, Nat.add_mul]
  omega

theorem bodyTransfers_of_lt (limit : Option ChunkLimit) {n : Nat} (h : n < Framing.receiveStep) :
    bodyTransfers limit n = transfers limit n := by
  unfold bodyTransfers
  rw [Nat.div_eq_of_lt h, Nat.mod_eq_of_lt h, Nat.zero_mul, Nat.zero_add]

/-! ## Sends -/

/-- What a send takes is a portion of what the budget allows. -/
theorem portion_allowance {t : MemoryTransport} {n k : Nat}
    (h : Portion n t.maxChunk t.sendBudget k) :
    Portion (t.channel.allowance n) t.maxChunk none k := by
  unfold Channel.allowance channel
  dsimp only
  cases hbudget : t.sendBudget with
  | none => rwa [hbudget] at h
  | some budget =>
    rw [hbudget] at h
    exact h.within

/-- **Sends.**  Sending takes the transfers of what the budget allows, and one more if that is not
all. -/
theorem sendCalls_sendAll (t : MemoryTransport) (data : Bytes) (hopen : t.isOpen = true) :
    (Framing.sendAll t data).2.sendCalls =
      t.sendCalls + transfers t.maxChunk (t.channel.allowance data.length) +
        if t.channel.allowance data.length < data.length then 1 else 0 := by
  fun_induction Framing.sendAll t data with
  | case1 t =>
    have hnone := t.channel.allowance_le 0
    rw [List.length_nil, Nat.le_zero.1 hnone, transfers_zero]
    rfl
  | case2 t b bs n t' hs ih =>
    obtain ⟨k, t'', hsend, hportion, -, -, hbudget, -, hlimit, hopen', hcalls, -⟩ :=
      send_moves hopen (b :: bs)
    rw [transport_send, hsend] at hs
    obtain ⟨hk, rfl⟩ := Prod.mk.inj hs
    obtain rfl : k = n + 1 := Except.ok.inj hk
    have hpart := portion_allowance hportion
    have hle := hpart.le_asked
    have hrest : t''.channel.allowance (bs.drop n).length =
        t.channel.allowance (b :: bs).length - (n + 1) := by
      unfold Channel.allowance channel
      dsimp only
      rw [hbudget, List.length_drop, List.length_cons]
      cases t.sendBudget with
      | none => exact (Nat.add_sub_add_right _ 1 n).symm
      | some budget =>
        show min (bs.length - n) (budget - (n + 1)) = min (bs.length + 1) budget - (n + 1)
        omega
    have hlength : (b :: bs).length = (bs.drop n).length + (n + 1) := by
      have := hportion.le_asked
      rw [List.length_drop]
      rw [List.length_cons] at this ⊢
      omega
    have hone := transfers_portion hpart (by omega)
    have hmore : t''.channel.allowance (bs.drop n).length < (bs.drop n).length ↔
        t.channel.allowance (b :: bs).length < (b :: bs).length := by omega
    rw [ih hopen', hcalls, hlimit, hone, hrest]
    rw [hrest] at hmore
    simp only [hmore]
    omega
  | case3 t b bs x t' hno hs =>
    obtain ⟨k, t'', hsend, hportion, -, -, -, -, -, -, hcalls, -⟩ := send_moves hopen (b :: bs)
    rw [transport_send, hsend] at hs
    obtain ⟨rfl, rfl⟩ := Prod.mk.inj hs
    have hk : k = 0 := by
      cases k with
      | zero => rfl
      | succ n => exact absurd rfl (hno n)
    have hnone : t.channel.allowance (b :: bs).length = 0 := by
      rcases Nat.eq_zero_or_pos (t.channel.allowance (b :: bs).length) with hzero | hpos
      · exact hzero
      · have := (portion_allowance hportion).pos hpos
        omega
    rw [hnone, transfers_zero, if_pos (by simp)]
    exact hcalls

/-! ## Receives -/

/-- A number of receives, each of which gives some bytes, lead from one transport to another; the
bytes are given one after the other. -/
inductive Gives : MemoryTransport → Nat → Bytes → MemoryTransport → Prop
  | none (t : MemoryTransport) : Gives t 0 [] t
  | some {t t' t'' : MemoryTransport} {asked k : Nat} {bytes more : Bytes} :
      t.receive asked = (.ok bytes, t') → bytes ≠ [] → Gives t' k more t'' →
      Gives t (k + 1) (bytes ++ more) t''

theorem Gives.trans {t t' t'' : MemoryTransport} {k k' : Nat} {bytes bytes' : Bytes}
    (h : Gives t k bytes t') (h' : Gives t' k' bytes' t'') :
    Gives t (k + k') (bytes ++ bytes') t'' := by
  induction h with
  | none t => rwa [Nat.zero_add, List.nil_append]
  | @some t t₁ t₂ asked k bytes more hreceive hbytes _ ih =>
    rw [Nat.add_right_comm, List.append_assoc]
    exact .some hreceive hbytes (ih h')

/-- Receives that give bytes take them off the queue, count, and do nothing else. -/
theorem Gives.state {t t' : MemoryTransport} {k : Nat} {bytes : Bytes} (h : Gives t k bytes t')
    (hopen : t.isOpen = true) :
    t.inbound.toList = bytes ++ t'.inbound.toList ∧
      t' = { t with inbound := t'.inbound, receiveCalls := t.receiveCalls + k } := by
  induction h with
  | none t => exact ⟨rfl, rfl⟩
  | @some t t₁ t₂ asked k bytes more hreceive _ _ ih =>
    obtain ⟨n, t₀, hreceive', -, hinbound, ht₀⟩ := receive_moves hopen asked
    rw [hreceive] at hreceive'
    obtain ⟨hbytes, rfl⟩ := Prod.mk.inj hreceive'
    obtain rfl := Except.ok.inj hbytes
    have hopen₁ : t₁.isOpen = true := by
      rw [ht₀]
      exact hopen
    obtain ⟨hrest, hlast⟩ := ih hopen₁
    refine ⟨?_, ?_⟩
    · rw [List.append_assoc, ← hrest, hinbound, List.take_append_drop]
    · rw [hlast, ht₀]
      simp only [Nat.add_assoc, Nat.add_comm k 1]

/-- How a part of a frame is received from an open transport: all of it is given, or the queued
bytes end in it.  Then one receive more gives nothing, and the transport is closed. -/
structure Fetches (t : MemoryTransport) (count : Nat → Nat) (n : Nat) (after : MemoryTransport) :
    Prop where
  whole : n ≤ t.inbound.toList.length → Gives t (count n) (t.inbound.toList.take n) after
  cut : t.inbound.toList.length < n →
    ∃ before asked behind, Gives t (count t.inbound.toList.length) t.inbound.toList before ∧
      before.receive asked = (.ok [], behind) ∧ after = behind.close

/-- A part is received by receiving the front of it, then the rest. -/
theorem Fetches.behind {t t' after : MemoryTransport} {count count' : Nat → Nat} {k m n : Nat}
    (hopen : t.isOpen = true) (hgives : Gives t k (t.inbound.toList.take m) t')
    (hm : m ≤ t.inbound.toList.length) (hmn : m ≤ n)
    (hcount : count (min n t.inbound.toList.length) =
      k + count' (min n t.inbound.toList.length - m))
    (h : t'.Fetches count' (n - m) after) : t.Fetches count n after := by
  obtain ⟨hinbound, -⟩ := hgives.state hopen
  have hrest : t'.inbound.toList = t.inbound.toList.drop m := by
    have hsplit := t.inbound.toList.take_append_drop m
    exact (List.append_cancel_left (hsplit.trans hinbound)).symm
  have hlength : t'.inbound.toList.length = t.inbound.toList.length - m := by
    rw [hrest, List.length_drop]
  refine ⟨fun hle => ?_, fun hlt => ?_⟩
  · have hmore := h.whole (by omega)
    have hsplit : t.inbound.toList.take n =
        t.inbound.toList.take m ++ t'.inbound.toList.take (n - m) := by
      rw [hrest, ← List.take_add, Nat.add_sub_cancel' hmn]
    rw [Nat.min_eq_left hle] at hcount
    rw [hcount, hsplit]
    exact hgives.trans hmore
  · obtain ⟨before, asked, behind, hmore, hnothing, hafter⟩ := h.cut (by omega)
    refine ⟨before, asked, behind, ?_, hnothing, hafter⟩
    rw [Nat.min_eq_right (by omega)] at hcount
    have hall := hgives.trans hmore
    rwa [hrest, List.take_append_drop, ← hrest, hlength, ← hcount] at hall

/-- **Receives.**  The bytes of a part are received in as many transfers as they take. -/
theorem receiveMore_fetches (t : MemoryTransport) (received : Bytes) (n : Nat)
    (hopen : t.isOpen = true) :
    t.Fetches (transfers t.maxChunk) n (Framing.receiveMore t received n).2 := by
  fun_induction Framing.receiveMore t received n with
  | case1 t received =>
    refine ⟨fun _ => ?_, fun hlt => by omega⟩
    rw [transfers_zero, List.take_zero]
    exact .none t
  | case2 t received n hn b bs t' hr ih =>
    -- some bytes were given; the rest is received from the transport behind them
    obtain ⟨k, t₀, hreceive, hportion, -, ht₀⟩ := receive_moves hopen n
    have hgiven := hreceive
    rw [← transport_receive, hr] at hreceive
    obtain ⟨hbytes, rfl⟩ := Prod.mk.inj hreceive
    have htake : b :: bs = t.inbound.toList.take k := Except.ok.inj hbytes
    have hqueued := hportion.le_bound _ rfl
    have hlength : bs.length + 1 = k := by
      have hboth := congrArg List.length htake
      rw [List.length_take, List.length_cons] at hboth
      omega
    have hsome : t.inbound.toList.take k ≠ [] := by
      rw [← htake]
      exact List.cons_ne_nil b bs
    have hfront : Gives t 1 (t.inbound.toList.take k) t' := by
      have hone := Gives.some hgiven hsome (.none t')
      rwa [List.append_nil] at hone
    have hrest := ih (by rw [ht₀]; exact hopen)
    rw [show t'.maxChunk = t.maxChunk by rw [ht₀], hlength] at hrest
    rw [hlength]
    refine hrest.behind hopen hfront hqueued hportion.le_asked ?_
    rw [transfers_portion hportion.within (by omega), Nat.add_comm]
  | case3 t received n hn x t' hno hr =>
    -- nothing was given, so nothing is queued
    obtain ⟨k, t₀, hreceive, hportion, -, -⟩ := receive_moves hopen n
    have hgiven := hreceive
    rw [← transport_receive, hr] at hreceive
    obtain ⟨rfl, rfl⟩ := Prod.mk.inj hreceive
    have hnothing : t.inbound.toList.take k = [] := by
      cases htake : t.inbound.toList.take k with
      | nil => rfl
      | cons b bs => exact absurd (congrArg Except.ok htake) (hno b bs)
    have hempty : t.inbound.toList.length = 0 := by
      have hzero := congrArg List.length hnothing
      have hqueued := hportion.le_bound _ rfl
      rw [List.length_take, List.length_nil] at hzero
      rcases Nat.eq_zero_or_pos t.inbound.toList.length with hnone | hpos
      · exact hnone
      · have hmoved := hportion.within.pos (by omega)
        omega
    rw [hnothing] at hgiven
    refine ⟨fun hle => by omega, fun _ => ⟨t, n, t', ?_, hgiven, rfl⟩⟩
    rw [hempty, transfers_zero, List.eq_nil_of_length_eq_zero hempty]
    exact .none t

theorem receiveAll_fetches (t : MemoryTransport) (n : Nat) (hopen : t.isOpen = true) :
    t.Fetches (transfers t.maxChunk) n (Framing.receiveAll t n).2 :=
  receiveMore_fetches t [] n hopen

/-- **Receives.**  A body is received in steps, each in as many transfers as it takes. -/
theorem receiveBody_fetches (t : MemoryTransport) (n : Nat) (hopen : t.isOpen = true) :
    t.Fetches (bodyTransfers t.maxChunk) n (Framing.receiveBody t n).2 := by
  fun_induction Framing.receiveBody t n with
  | case1 t =>
    refine ⟨fun _ => ?_, fun hlt => by omega⟩
    rw [bodyTransfers_of_lt _ (by decide), transfers_zero, List.take_zero]
    exact .none t
  | case2 t n hn step part t' hr hfull rest t'' hb ih =>
    have hstep : step = min n Framing.receiveStep := rfl
    have hfront := receiveAll_fetches t step hopen
    have hpart := (Framing.receiveAll_eq t step).1
    rw [hr] at hfront hpart
    have hpos : 0 < Framing.receiveStep := by decide
    have hqueued : step ≤ t.inbound.toList.length := by
      rw [show part = _ from hpart] at hfull
      have hlength := (Channel.length_fetch t.channel step).1 hfull
      exact (hlength.resolve_left (by omega)).2
    have hgives : Gives t (transfers t.maxChunk step) (t.inbound.toList.take step) t' :=
      hfront.whole hqueued
    obtain ⟨-, ht'⟩ := hgives.state hopen
    have hrest := ih (by rw [ht']; exact hopen)
    rw [show t'.maxChunk = t.maxChunk by rw [ht'], hb] at hrest
    refine hrest.behind hopen hgives hqueued (by omega) ?_
    -- a step is a whole one, or the last one
    rcases Nat.lt_or_ge n Framing.receiveStep with hlast | hwhole
    · have hmin : min n t.inbound.toList.length = step := by omega
      rw [hmin, Nat.sub_self, bodyTransfers_of_lt _ (by omega), bodyTransfers_of_lt _ hpos,
        transfers_zero]
      rfl
    · rw [show step = Framing.receiveStep by omega]
      exact bodyTransfers_step _ (by omega)
  | case3 t n hn step part t' hr hshort =>
    have hstep : step = min n Framing.receiveStep := rfl
    have hfront := receiveAll_fetches t step hopen
    have hpart := (Framing.receiveAll_eq t step).1
    rw [hr] at hfront hpart
    have hqueued : t.inbound.toList.length < step := by
      rcases Nat.lt_or_ge t.inbound.toList.length step with hlt | hle
      · exact hlt
      · have hlength := (Channel.length_fetch t.channel step).2 (.inr ⟨hopen, hle⟩)
        rw [← show part = _ from hpart] at hlength
        exact absurd hlength hshort
    refine ⟨fun hle => by omega, fun _ => ?_⟩
    rw [bodyTransfers_of_lt _ (by omega)]
    exact hfront.cut hqueued

/-! ## Frames -/

theorem length_framed (payload : Bytes) :
    (Frame.framed payload).length = payload.length + FrameHeader.size := by
  unfold Frame.framed
  rw [List.length_append, Bytes.length_littleEndian, Nat.add_comm]

/-- The sends of a payload are those of its frame. -/
theorem sendCalls_send (t : MemoryTransport) {payload frame : Bytes}
    (h : Frame.encode payload = .ok frame) :
    (Framing.send t payload).2.sendCalls = (Framing.sendAll t frame).2.sendCalls := by
  unfold Framing.send
  rw [h]
  dsimp only
  split <;> rfl

/-- How receiving goes on after the header. -/
theorem receive_after_header {t t' : MemoryTransport} {header : Bytes}
    (h : Framing.receiveAll t FrameHeader.size = (header, t')) :
    (Framing.receive t).2 =
      if header.length = FrameHeader.size then
        match (FrameHeader.decode header).payloadLength with
        | .error _ => t'.close
        | .ok n => (Framing.receiveBody t' n).2
      else t' := by
  unfold Framing.receive
  rw [h]
  dsimp only
  by_cases hwhole : header.length = FrameHeader.size
  · rw [if_pos hwhole, if_pos hwhole]
    cases (FrameHeader.decode header).payloadLength with
    | error e => rfl
    | ok n =>
      dsimp only
      rcases Framing.receiveBody t' n with ⟨_ | body, t''⟩
      · rfl
      · rfl
  · rw [if_neg hwhole, if_neg hwhole]

/-- **Receives.**  A frame is received header first, then its body. -/
theorem receive_gives (t : MemoryTransport) (hopen : t.isOpen = true) :
    let queued := t.inbound.toList
    let after := (Framing.receive t).2
    match Frame.decode queued with
    | (.ok (some payload), _) =>
      Gives t (transfers t.maxChunk FrameHeader.size + bodyTransfers t.maxChunk payload.length)
        (queued.take (FrameHeader.size + payload.length)) after
    | (.ok none, _) =>
      ∃ before asked behind,
        Gives t (transfers t.maxChunk (min queued.length FrameHeader.size) +
          bodyTransfers t.maxChunk (queued.length - FrameHeader.size)) queued before ∧
        before.receive asked = (.ok [], behind) ∧ after = behind.close
    | (.error _, _) =>
      ∃ behind, Gives t (transfers t.maxChunk FrameHeader.size) (queued.take FrameHeader.size)
        behind ∧ after = behind.close := by
  intro queued after
  have hqueued : queued = t.inbound.toList := rfl
  have hheader := receiveAll_fetches t FrameHeader.size hopen
  have hfetched := (Framing.receiveAll_eq t FrameHeader.size).1
  rcases hr : Framing.receiveAll t FrameHeader.size with ⟨header, t'⟩
  have hafter : after = _ := receive_after_header hr
  rw [hr] at hheader hfetched
  dsimp only at hheader
  rcases Nat.lt_or_ge queued.length FrameHeader.size with hshort | hfull
  · -- the queued bytes end in the header
    rw [Channel.fetch_of_lt _ _ hopen hshort] at hfetched
    have hpart : header.length ≠ FrameHeader.size := by
      rw [show header = _ from hfetched]
      exact Nat.ne_of_lt hshort
    have hnone : bodyTransfers t.maxChunk 0 = 0 := by
      rw [bodyTransfers_of_lt _ (by decide), transfers_zero]
    rw [if_neg hpart] at hafter
    rw [Frame.decode_of_short hshort, Nat.min_eq_left (Nat.le_of_lt hshort),
      Nat.sub_eq_zero_of_le (Nat.le_of_lt hshort), hnone, hafter]
    exact hheader.cut hshort
  · rw [Channel.fetch_of_le _ _ hopen hfull] at hfetched
    obtain rfl : header = queued.take FrameHeader.size := hfetched
    rw [if_pos (List.length_take_of_le hfull)] at hafter
    have hgives := hheader.whole hfull
    rw [Frame.decode_of_header hfull]
    cases hlength : (FrameHeader.decode (queued.take FrameHeader.size)).payloadLength with
    | error e =>
      rw [hlength] at hafter
      exact ⟨t', hgives, hafter⟩
    | ok n =>
      rw [hlength] at hafter
      dsimp only at hafter
      obtain ⟨-, ht'⟩ := hgives.state hopen
      have hbody := receiveBody_fetches t' n (by rw [ht']; exact hopen)
      rw [show t'.maxChunk = t.maxChunk by rw [ht'], ← hafter] at hbody
      have hframe : t.Fetches
          (fun j => transfers t.maxChunk FrameHeader.size +
            bodyTransfers t.maxChunk (j - FrameHeader.size)) (FrameHeader.size + n) after :=
        Fetches.behind hopen hgives hfull (Nat.le_add_right _ n) rfl
          (by rwa [Nat.add_sub_cancel_left])
      dsimp only
      by_cases hn : n ≤ (queued.drop FrameHeader.size).length
      · have hpayload := List.length_take_of_le hn
        rw [List.length_drop] at hn
        have hall := hframe.whole (show FrameHeader.size + n ≤ queued.length by omega)
        rw [if_pos (by rwa [List.length_drop])]
        dsimp only
        rw [hpayload]
        rwa [Nat.add_sub_cancel_left] at hall
      · rw [if_neg hn, Nat.min_eq_right hfull]
        rw [List.length_drop] at hn
        exact hframe.cut (show queued.length < FrameHeader.size + n by omega)

/-- The sends of a frame over an open transport. -/
theorem send_transfers {t : MemoryTransport} (hopen : t.isOpen = true) {payload : Bytes}
    (hfits : payload.length ≤ Frame.maxPayload) :
    let n := payload.length + FrameHeader.size
    let result := (Framing.send t payload).1
    let after := (Framing.send t payload).2
    after.receiveCalls = t.receiveCalls ∧
      ((∀ budget, t.sendBudget = some budget → n ≤ budget) →
        result = .ok () ∧ after.sendCalls = t.sendCalls + transfers t.maxChunk n ∧
          after.closeCalls = t.closeCalls) ∧
      (∀ budget, t.sendBudget = some budget → budget < n →
        result = .error (.linkFailure "Can not send message due to connection failure") ∧
          after.sendCalls = t.sendCalls + (transfers t.maxChunk budget + 1) ∧
          after.closeCalls = t.closeCalls + 1) := by
  intro n result after
  obtain ⟨-, htaken, -⟩ := send_takes t payload
  obtain ⟨hencode, -, htaken⟩ := htaken hfits
  obtain ⟨htakes, hended⟩ := htaken hopen
  have hlength : (Frame.framed payload).length = n := length_framed payload
  have hcalls : after.sendCalls = t.sendCalls + transfers t.maxChunk (t.channel.allowance n) +
      if t.channel.allowance n < n then 1 else 0 := by
    rw [← hlength, ← sendCalls_sendAll t _ hopen]
    exact sendCalls_send t hencode
  rw [hlength] at hended
  refine ⟨htakes.receiveCalls, fun hafford => ?_, fun budget hbudget hless => ?_⟩
  · have hall : t.channel.allowance n = n := (t.channel.allowance_eq_iff n).2 hafford
    rw [if_pos hall] at hended
    rw [hall, if_neg (Nat.lt_irrefl n)] at hcalls
    exact ⟨hended.1, hcalls, hended.2.2⟩
  · have hcut : t.channel.allowance n = budget := by
      unfold Channel.allowance channel
      rw [hbudget]
      exact Nat.min_eq_right (Nat.le_of_lt hless)
    rw [if_neg (by omega)] at hended
    rw [hcut, if_pos hless] at hcalls
    exact ⟨hended.1, hcalls, hended.2.2⟩

/-- The receives of a frame over an open transport. -/
theorem receive_transfers {t : MemoryTransport} (hopen : t.isOpen = true) :
    let queued := t.inbound.toList
    let after := (Framing.receive t).2
    after.sendCalls = t.sendCalls ∧
      match Frame.decode queued with
      | (.ok (some payload), _) =>
        after.receiveCalls = t.receiveCalls + (transfers t.maxChunk FrameHeader.size +
            bodyTransfers t.maxChunk payload.length) ∧
          after.closeCalls = t.closeCalls
      | (.error _, _) =>
        after.receiveCalls = t.receiveCalls + transfers t.maxChunk FrameHeader.size ∧
          after.closeCalls = t.closeCalls + 1
      | (.ok none, _) =>
        let k := transfers t.maxChunk (min queued.length FrameHeader.size) +
          bodyTransfers t.maxChunk (queued.length - FrameHeader.size)
        (∃ before asked behind, Gives t k queued before ∧
          before.receive asked = (.ok [], behind) ∧ after = behind.close) ∧
          after.receiveCalls = t.receiveCalls + (k + 1) ∧
          after.closeCalls = t.closeCalls + 1 := by
  intro queued after
  have hgives := receive_gives t hopen
  refine ⟨(Framing.reception_receive (.refl t)).sends_eq.2.2, ?_⟩
  dsimp only at hgives
  rcases hdecode : Frame.decode queued with ⟨e | _ | payload, rest⟩
  · rw [hdecode] at hgives
    obtain ⟨behind, hgives, hafter⟩ := hgives
    obtain ⟨-, hbehind⟩ := hgives.state hopen
    rw [show after = behind.close from hafter, hbehind]
    exact ⟨rfl, rfl⟩
  · rw [hdecode] at hgives
    obtain ⟨before, asked, behind, hgives, hnothing, hafter⟩ := hgives
    refine ⟨⟨before, asked, behind, hgives, hnothing, hafter⟩, ?_⟩
    obtain ⟨-, hbefore⟩ := hgives.state hopen
    have hopen' : before.isOpen = true := by
      rw [hbefore]
      exact hopen
    obtain ⟨k, after', hreceive, -, -, hbehind⟩ := receive_moves hopen' asked
    obtain ⟨-, rfl⟩ := Prod.mk.inj (hnothing.symm.trans hreceive)
    rw [show after = behind.close from hafter, hbehind, hbefore]
    exact ⟨rfl, rfl⟩
  · rw [hdecode] at hgives
    obtain ⟨-, hafter⟩ := Gives.state hgives hopen
    rw [show after = _ from hafter]
    exact ⟨rfl, rfl⟩

/-- Over a closed transport, one send fails. -/
theorem send_closed_transfers {t : MemoryTransport} (hclosed : t.isOpen = false) {payload : Bytes}
    (hfits : payload.length ≤ Frame.maxPayload) :
    Framing.send t payload =
      (.error (.linkFailure "Can not send message due to connection failure"),
        close { t with sendCalls := t.sendCalls + 1 }) := by
  unfold Framing.send
  rw [Frame.encode_of_le hfits]
  dsimp only
  rcases hframe : Frame.framed payload with - | ⟨b, bs⟩
  · exact absurd hframe (Frame.framed_ne_nil payload)
  · have hfails : Framing.sendAll t (b :: bs) =
        (b :: bs, close { t with sendCalls := t.sendCalls + 1 }) := by
      rw [Framing.sendAll, transport_send, send_fails hclosed]
      rfl
    rw [hfails]
    rfl

/-- Over a closed transport, one receive fails. -/
theorem receive_closed_transfers {t : MemoryTransport} (hclosed : t.isOpen = false) :
    Framing.receive t =
      (.error (.linkFailure "Can not receive message header"),
        close { t with receiveCalls := t.receiveCalls + 1 }) := by
  have hfails : Framing.receiveAll t FrameHeader.size =
      ([], close { t with receiveCalls := t.receiveCalls + 1 }) := by
    unfold Framing.receiveAll
    rw [Framing.receiveMore, if_neg (by decide), transport_receive, receive, hclosed]
    rfl
  unfold Framing.receive
  rw [hfails]
  rfl

/-- **Transfers.**  Over an open transport, a frame takes as many transfers as its bytes fill
chunks, in steps; a budget or queued bytes that run out take one transfer more, and a close.  Over a
closed one, it takes one transfer and a close. -/
theorem frame_transfers (t : MemoryTransport) :
    (t.isOpen = true →
      (∀ payload : Bytes, payload.length ≤ Frame.maxPayload →
        let n := payload.length + FrameHeader.size
        let result := (Framing.send t payload).1
        let after := (Framing.send t payload).2
        after.receiveCalls = t.receiveCalls ∧
          ((∀ budget, t.sendBudget = some budget → n ≤ budget) →
            result = .ok () ∧ after.sendCalls = t.sendCalls + transfers t.maxChunk n ∧
              after.closeCalls = t.closeCalls) ∧
          (∀ budget, t.sendBudget = some budget → budget < n →
            result = .error (.linkFailure "Can not send message due to connection failure") ∧
              after.sendCalls = t.sendCalls + (transfers t.maxChunk budget + 1) ∧
              after.closeCalls = t.closeCalls + 1)) ∧
      (let queued := t.inbound.toList
        let after := (Framing.receive t).2
        after.sendCalls = t.sendCalls ∧
          match Frame.decode queued with
          | (.ok (some payload), _) =>
            after.receiveCalls = t.receiveCalls + (transfers t.maxChunk FrameHeader.size +
                bodyTransfers t.maxChunk payload.length) ∧
              after.closeCalls = t.closeCalls
          | (.error _, _) =>
            after.receiveCalls = t.receiveCalls + transfers t.maxChunk FrameHeader.size ∧
              after.closeCalls = t.closeCalls + 1
          | (.ok none, _) =>
            let k := transfers t.maxChunk (min queued.length FrameHeader.size) +
              bodyTransfers t.maxChunk (queued.length - FrameHeader.size)
            (∃ before asked behind, Gives t k queued before ∧
              before.receive asked = (.ok [], behind) ∧ after = behind.close) ∧
              after.receiveCalls = t.receiveCalls + (k + 1) ∧
              after.closeCalls = t.closeCalls + 1)) ∧
    (t.isOpen = false →
      (∀ payload : Bytes, payload.length ≤ Frame.maxPayload →
        Framing.send t payload =
          (.error (.linkFailure "Can not send message due to connection failure"),
            close { t with sendCalls := t.sendCalls + 1 })) ∧
      Framing.receive t =
        (.error (.linkFailure "Can not receive message header"),
          close { t with receiveCalls := t.receiveCalls + 1 })) := by
  refine ⟨fun hopen => ⟨fun payload hfits => ?_, ?_⟩, fun hclosed => ⟨fun payload hfits => ?_, ?_⟩⟩
  · exact send_transfers hopen hfits
  · exact receive_transfers hopen
  · exact send_closed_transfers hclosed hfits
  · exact receive_closed_transfers hclosed

/-- Three bytes at a time: a frame of six bytes takes two sends; with a budget of five bytes it takes
two, then one that fails.  A frame that ends before its last byte takes two receives for its header,
one for the byte of its body, and one that gives nothing. -/
theorem frame_transfers_chunked :
    let t : MemoryTransport :=
      { isOpen := true, inbound := .ofList [2, 0, 0, 0, 7], maxChunk := some (.ofNat 3) }
    let payload : Bytes := [7, 8]
    payload.length ≤ Frame.maxPayload ∧ t.isOpen = true ∧
      (Framing.send t payload).2.sendCalls = 2 ∧
      (Framing.send (t.withSendBudget 5) payload).2.sendCalls = 3 ∧
      (Framing.send (t.withSendBudget 5) payload).2.closeCalls = 1 ∧
      (Framing.receive t).2.receiveCalls = 4 ∧ (Framing.receive t).2.closeCalls = 1 ∧
      (Framing.send t.close payload).2.sendCalls = 1 ∧
      (Framing.receive t.close).2.receiveCalls = 1 := by
  intro t payload
  have hfits : payload.length ≤ Frame.maxPayload := by decide
  obtain ⟨hopen, -⟩ := frame_transfers t
  obtain ⟨hsend, -, hreceive⟩ := hopen rfl
  obtain ⟨-, hall, -⟩ := hsend payload hfits
  obtain ⟨-, hsent, -⟩ := hall (fun _ hnone => nomatch hnone)
  obtain ⟨hopen', -⟩ := frame_transfers (t.withSendBudget 5)
  obtain ⟨-, -, hcut⟩ := (hopen' rfl).1 payload hfits
  obtain ⟨-, htried, hclosed⟩ := hcut 5 rfl (by decide)
  obtain ⟨-, hshut⟩ := frame_transfers t.close
  obtain ⟨hnotsent, hnotreceived⟩ := hshut rfl
  have hdecode : Frame.decode t.inbound.toList = (.ok none, t.inbound.toList) := by rfl
  rw [hdecode] at hreceive
  obtain ⟨-, hreceived, hended⟩ := hreceive
  refine ⟨hfits, rfl, hsent.trans (by decide), htried.trans (by decide), hclosed,
    hreceived.trans (by decide), hended, ?_, ?_⟩
  · rw [hnotsent payload hfits]
    rfl
  · rw [hnotreceived]
    rfl

end MemoryTransport

end SqlSession
