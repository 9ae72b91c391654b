import SqlSession.Wire.Frame
/-!
# Frames at the front of a buffer

`Frame.AtFront` says what it is for a buffer to start with a complete frame, in terms of its bytes
alone: four bytes that hold the length of the payload, the payload, and the rest.

    decode buffer gives payload and rest  ↔  AtFront buffer payload rest   (decode_eq_some_iff)
    decode buffer fails                   ↔  its length is negative        (decode_eq_error_iff)
    decode buffer gives no payload        →  the buffer comes back as it was
                                                                           (decode_unchanged)
    encode payload = framed payload       if it fits                       (encode_of_le)
    encode payload fails                  ↔  it is too long                (encode_eq_error_iff)
    AtFront buffer payload rest           ↔  buffer = framed payload ++ rest, and four bytes
                                             hold the length                (atFront_iff)
-/

namespace SqlSession

namespace Bytes

/-- The signed number that four bytes hold, the least significant byte first. -/
def signed32 (bytes : Bytes) : Int :=
  let n := ofLittleEndian bytes
  if n < 2147483648 then n else n - 4294967296

theorem ofLittleEndian_lt (bytes : Bytes) : ofLittleEndian bytes < Nat.pow 256 bytes.length := by
  induction bytes with
  | nil => exact Nat.one_pos
  | cons b bs ih =>
    have hb := b.toNat_lt
    have hpow : Nat.pow 256 (b :: bs).length = 256 * Nat.pow 256 bs.length := Nat.mul_comm _ _
    simp only [ofLittleEndian, hpow]
    omega

/-- Writing what was read gives the bytes back. -/
theorem littleEndian_ofLittleEndian (bytes : Bytes) :
    littleEndian bytes.length (ofLittleEndian bytes) = bytes := by
  induction bytes with
  | nil => rfl
  | cons b bs ih =>
    have hb := b.toNat_lt
    have hlow : (b.toNat + 256 * ofLittleEndian bs) % 256 = b.toNat := by omega
    have hhigh : (b.toNat + 256 * ofLittleEndian bs) / 256 = ofLittleEndian bs := by omega
    rw [List.length_cons, ofLittleEndian, littleEndian, hlow, hhigh, ih, UInt8.ofNat_toNat]

theorem toInt_ofLittleEndian (bytes : Bytes) (h : bytes.length = 4) :
    (UInt32.ofNat (ofLittleEndian bytes)).toInt32.toInt = signed32 bytes := by
  have hlt := ofLittleEndian_lt bytes
  rw [h] at hlt
  have hpow : Nat.pow 256 4 = 4294967296 := rfl
  have hsize : Int32.size = 4294967296 := rfl
  simp only [UInt32.toInt32_ofNat', Int32.toInt_ofNat', Int.bmod_def, signed32, hsize]
  split <;> split <;> omega

end Bytes

namespace Frame

/-- A buffer starts with a complete frame, and `rest` is behind it. -/
def AtFront (buffer payload rest : Bytes) : Prop :=
  ∃ header : Bytes, header.length = FrameHeader.size ∧ Bytes.signed32 header = payload.length ∧
    buffer = header ++ payload ++ rest

/-- A buffer starts with a header whose length is negative. -/
def NegativeLength (buffer : Bytes) : Prop :=
  FrameHeader.size ≤ buffer.length ∧ Bytes.signed32 (buffer.take FrameHeader.size) < 0

/-! ## Decoding by the length of the buffer -/

theorem decode_of_short {buffer : Bytes} (h : buffer.length < FrameHeader.size) :
    decode buffer = (.ok none, buffer) := by
  have hlen : (buffer.take FrameHeader.size).length < FrameHeader.size := by
    rw [List.length_take]
    omega
  simp only [decode, hlen, if_true]

/-- With a whole header, the length it holds decides. -/
theorem decode_of_header {buffer : Bytes} (h : FrameHeader.size ≤ buffer.length) :
    decode buffer =
      match (FrameHeader.decode (buffer.take FrameHeader.size)).payloadLength with
      | .error e => (.error e, buffer)
      | .ok n =>
        let body := buffer.drop FrameHeader.size
        if n ≤ body.length then (.ok (some (body.take n)), body.drop n) else (.ok none, buffer) := by
  have hlen : ¬ (buffer.take FrameHeader.size).length < FrameHeader.size := by
    rw [List.length_take]
    omega
  simp only [decode, hlen, if_false]
  cases (FrameHeader.decode (buffer.take FrameHeader.size)).payloadLength with
  | error e => rfl
  | ok n =>
    dsimp only
    by_cases hn : n ≤ (buffer.drop FrameHeader.size).length
    · rw [if_neg (by rw [List.length_take]; omega), if_pos hn]
    · rw [if_pos (by rw [List.length_take]; omega), if_neg hn]

/-- The length in a header, read as the signed number that its bytes hold. -/
theorem payloadLength_decode (header : Bytes) (h : header.length = FrameHeader.size) :
    (FrameHeader.decode header).payloadLength =
      if Bytes.signed32 header < 0 then .error (.negativeLength (FrameHeader.decode header).length)
      else .ok (Bytes.signed32 header).toNat := by
  have hint : (FrameHeader.decode header).length.toInt = Bytes.signed32 header :=
    Bytes.toInt_ofLittleEndian header h
  simp only [FrameHeader.payloadLength, hint]

section

variable {buffer : Bytes} (h : FrameHeader.size ≤ buffer.length)

include h

/-- A header that holds a negative length makes decoding fail. -/
theorem decode_of_negative (hneg : Bytes.signed32 (buffer.take FrameHeader.size) < 0) :
    decode buffer =
      (.error (.negativeLength (FrameHeader.decode (buffer.take FrameHeader.size)).length),
        buffer) := by
  rw [decode_of_header h, payloadLength_decode _ (List.length_take_of_le h), if_pos hneg]

/-- Any other header is followed by a payload as far as there are enough bytes. -/
theorem decode_of_length (hneg : ¬ Bytes.signed32 (buffer.take FrameHeader.size) < 0) :
    decode buffer =
      let n := (Bytes.signed32 (buffer.take FrameHeader.size)).toNat
      let body := buffer.drop FrameHeader.size
      if n ≤ body.length then (.ok (some (body.take n)), body.drop n) else (.ok none, buffer) := by
  rw [decode_of_header h, payloadLength_decode _ (List.length_take_of_le h), if_neg hneg]

end

/-! ## What decoding says -/

/-- **Frames.**  Decoding takes off the frame that the bytes spell. -/
theorem decode_eq_some_iff (buffer payload rest : Bytes) :
    decode buffer = (.ok (some payload), rest) ↔ AtFront buffer payload rest := by
  constructor
  · intro h
    by_cases hlen : FrameHeader.size ≤ buffer.length
    · by_cases hneg : Bytes.signed32 (buffer.take FrameHeader.size) < 0
      · rw [decode_of_negative hlen hneg] at h
        simp at h
      · rw [decode_of_length hlen hneg] at h
        dsimp only at h
        split at h
        · simp only [Prod.mk.injEq, Except.ok.injEq, Option.some.injEq] at h
          obtain ⟨rfl, rfl⟩ := h
          refine ⟨buffer.take FrameHeader.size, List.length_take_of_le hlen, ?_, ?_⟩
          · rw [List.length_take]
            omega
          · rw [List.append_assoc, List.take_append_drop, List.take_append_drop]
        · simp at h
    · rw [decode_of_short (by omega)] at h
      simp at h
  · rintro ⟨header, hheader, hlen, rfl⟩
    have hle : FrameHeader.size ≤ (header ++ payload ++ rest).length := by
      simp only [List.length_append]
      omega
    have htake : (header ++ payload ++ rest).take FrameHeader.size = header := by
      rw [List.append_assoc, ← hheader, List.take_append_length]
    have hdrop : (header ++ payload ++ rest).drop FrameHeader.size = payload ++ rest := by
      rw [List.append_assoc, ← hheader, List.drop_append_length]
    rw [decode_of_length hle (by rw [htake]; omega), htake, hdrop, hlen]
    simp

/-- **Other buffers.**  One that no frame is taken off comes back as it was. -/
theorem decode_unchanged {buffer : Bytes} (h : ∀ payload, (decode buffer).1 ≠ .ok (some payload)) :
    (decode buffer).2 = buffer := by
  by_cases hlen : FrameHeader.size ≤ buffer.length
  · by_cases hneg : Bytes.signed32 (buffer.take FrameHeader.size) < 0
    · rw [decode_of_negative hlen hneg]
    · rw [decode_of_length hlen hneg] at h ⊢
      dsimp only at h ⊢
      split
      · rename_i hfits
        rw [if_pos hfits] at h
        exact absurd rfl (h _)
      · rfl
  · rw [decode_of_short (by omega)]

/-- A buffer without a complete frame comes back as it was. -/
theorem unchanged_of_none {buffer left : Bytes} (h : decode buffer = (.ok none, left)) :
    left = buffer := by
  have hsame : (decode buffer).2 = buffer := decode_unchanged fun payload => by simp [h]
  rwa [h] at hsame

/-- So does one with a negative length. -/
theorem unchanged_of_error {buffer left : Bytes} {e : WireError}
    (h : decode buffer = (.error e, left)) : left = buffer := by
  have hsame : (decode buffer).2 = buffer := decode_unchanged fun payload => by simp [h]
  rwa [h] at hsame

/-- **Negative lengths.**  Decoding fails for nothing else. -/
theorem decode_eq_error_iff (buffer : Bytes) :
    (∃ e, decode buffer = (.error e, buffer)) ↔ NegativeLength buffer := by
  constructor
  · rintro ⟨e, he⟩
    by_cases hlen : FrameHeader.size ≤ buffer.length
    · refine ⟨hlen, Decidable.byContradiction fun hneg => ?_⟩
      rw [decode_of_length hlen hneg] at he
      dsimp only at he
      split at he <;> simp at he
    · rw [decode_of_short (by omega)] at he
      simp at he
  · rintro ⟨hlen, hneg⟩
    exact ⟨_, decode_of_negative hlen hneg⟩

/-- The error names the length that the header holds. -/
theorem negative_of_decode {buffer : Bytes} {e : WireError}
    (h : decode buffer = (.error e, buffer)) :
    ∃ length : Int32, length.toInt < 0 ∧ e = .negativeLength length := by
  obtain ⟨hlen, hneg⟩ := (decode_eq_error_iff buffer).1 ⟨e, h⟩
  have hvalue : (FrameHeader.decode (buffer.take FrameHeader.size)).length.toInt =
      Bytes.signed32 (buffer.take FrameHeader.size) :=
    Bytes.toInt_ofLittleEndian _ (List.length_take_of_le hlen)
  rw [decode_of_negative hlen hneg] at h
  exact ⟨_, hvalue ▸ hneg, (Except.error.inj (Prod.mk.inj h).1).symm⟩

/-- At most one frame is at the front. -/
theorem AtFront.unique {buffer p₁ r₁ p₂ r₂ : Bytes} (h₁ : AtFront buffer p₁ r₁)
    (h₂ : AtFront buffer p₂ r₂) : p₁ = p₂ ∧ r₁ = r₂ := by
  rw [← decode_eq_some_iff] at h₁ h₂
  simpa [h₁] using h₂

theorem AtFront.not_negativeLength {buffer payload rest : Bytes} (h : AtFront buffer payload rest) :
    ¬ NegativeLength buffer := by
  intro hneg
  obtain ⟨e, he⟩ := (decode_eq_error_iff buffer).2 hneg
  rw [← decode_eq_some_iff, he] at h
  simp at h

/-! ## Encoding -/

/-- The frame of a payload that fits: its length in four bytes, then the payload. -/
def framed (payload : Bytes) : Bytes :=
  Bytes.littleEndian FrameHeader.size payload.length ++ payload

theorem framed_ne_nil (payload : Bytes) : framed payload ≠ [] := by
  intro hnil
  have hlength := congrArg List.length hnil
  rw [framed, List.length_append, Bytes.length_littleEndian, FrameHeader.size, List.length_nil]
    at hlength
  omega

theorem encode_of_le {payload : Bytes} (h : payload.length ≤ maxPayload) :
    encode payload = .ok (framed payload) := by
  have hmax : maxPayload = 2147483643 := rfl
  have hlength : (Int32.ofNat payload.length).toUInt32.toNat = payload.length := by
    have hcast : (Int32.ofNat payload.length).toUInt32 = UInt32.ofNat payload.length := rfl
    rw [hcast, UInt32.toNat_ofNat_of_lt' (by simp only [UInt32.size]; omega)]
  have hfits : ¬ maxPayload < payload.length := by omega
  simp only [encode, FrameHeader.forPayload, gt_iff_lt, hfits, if_false, Except.map,
    FrameHeader.encode, hlength, framed, FrameHeader.size]

theorem encode_of_gt {payload : Bytes} (h : maxPayload < payload.length) :
    encode payload = .error (.frameTooLarge payload.length maxPayload) := by
  simp only [encode, FrameHeader.forPayload, gt_iff_lt, h, if_true]
  rfl

/-- A payload is refused only if it is too long. -/
theorem encode_eq_error_iff (payload : Bytes) (e : WireError) :
    encode payload = .error e ↔
      maxPayload < payload.length ∧ e = .frameTooLarge payload.length maxPayload := by
  constructor
  · intro h
    rcases Nat.lt_or_ge maxPayload payload.length with hlong | hfits
    · rw [encode_of_gt hlong] at h
      exact ⟨hlong, (Except.error.inj h).symm⟩
    · simp [encode_of_le hfits] at h
  · rintro ⟨hlong, rfl⟩
    exact encode_of_gt hlong

theorem length_le_of_encode {payload frame : Bytes} (h : encode payload = .ok frame) :
    payload.length ≤ maxPayload := by
  rcases Nat.lt_or_ge maxPayload payload.length with hlt | hle
  · simp [encode_of_gt hlt] at h
  · exact hle

theorem mapM_encode {payloads : List Bytes} (h : ∀ p ∈ payloads, p.length ≤ maxPayload) :
    payloads.mapM encode = .ok (payloads.map framed) := by
  induction payloads with
  | nil => rfl
  | cons p ps ih =>
    rw [List.mapM_cons, encode_of_le (h p List.mem_cons_self),
      ih fun p' hp' => h p' (List.mem_cons_of_mem _ hp')]
    rfl

/-- A frame is its payload's length, written in four bytes, then the payload.  A signed number holds
that length. -/
theorem atFront_iff (buffer payload rest : Bytes) :
    AtFront buffer payload rest ↔
      payload.length < 2147483648 ∧ buffer = framed payload ++ rest := by
  constructor
  · rintro ⟨header, hheader, hlength, rfl⟩
    have hlt := Bytes.ofLittleEndian_lt header
    have hpow : Nat.pow 256 4 = 4294967296 := rfl
    rw [hheader, FrameHeader.size, hpow] at hlt
    unfold Bytes.signed32 at hlength
    have hvalue : Bytes.ofLittleEndian header = payload.length := by
      dsimp only at hlength
      split at hlength <;> omega
    have hwritten := Bytes.littleEndian_ofLittleEndian header
    rw [hheader, hvalue] at hwritten
    refine ⟨?_, ?_⟩
    · dsimp only at hlength
      split at hlength <;> omega
    · rw [framed, hwritten]
  · rintro ⟨hlt, rfl⟩
    have hpow : Nat.pow 256 FrameHeader.size = 4294967296 := rfl
    refine ⟨Bytes.littleEndian FrameHeader.size payload.length, Bytes.length_littleEndian _ _, ?_,
      rfl⟩
    simp only [Bytes.signed32, Bytes.ofLittleEndian_littleEndian, hpow]
    rw [Nat.mod_eq_of_lt (by omega), if_pos (by omega)]

/-- The frame of a payload is at the front of whatever follows it. -/
theorem atFront_framed {payload : Bytes} (rest : Bytes) (h : payload.length ≤ maxPayload) :
    AtFront (framed payload ++ rest) payload rest := by
  have hmax : maxPayload = 2147483643 := rfl
  exact (atFront_iff _ _ _).2 ⟨by omega, rfl⟩

/-- What is encoded is a frame, and nothing follows it. -/
theorem atFront_of_encode {payload frame : Bytes} (h : encode payload = .ok frame) :
    AtFront frame payload [] := by
  have hlength := length_le_of_encode h
  obtain rfl : framed payload = frame :=
    Except.ok.inj ((encode_of_le hlength).symm.trans h)
  have hfront := atFront_framed [] hlength
  rwa [List.append_nil] at hfront

end Frame

end SqlSession
