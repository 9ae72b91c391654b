import SqlSession.Negotiation
/-!
# What the first byte of an answer decides

A payload `Accepts` if it is not empty and its first byte is not 0; whatever follows that byte is
ignored.  Any other payload rejects or cannot be read, and both are reported under one state.

* `agreement_of_accepts`: an accepting payload agrees on the version that was asked for.
* `agreement_of_not_accepts`: any other payload is a rejection.
-/

namespace SqlSession

namespace Handshake

/-- The payload of an answer that accepts. -/
def Accepts (payload : Bytes) : Prop := ∃ b bs, payload = b :: bs ∧ b ≠ 0

/-! ## Reading a response -/

theorem toInt8_eq_zero_iff (b : UInt8) : b.toInt8 = 0 ↔ b = 0 := by
  constructor
  · intro h
    rw [← UInt8.toUInt8_toInt8 b, h]
    rfl
  · rintro rfl
    rfl

theorem readFlag_cons (b : UInt8) (bs : Bytes) : readFlag (b :: bs) = .ok (b != 0, bs) := by
  show Except.ok ((UInt8.ofNat (b.toNat + 256 * 0)).toInt8 != 0, bs) = _
  simp only [Nat.mul_zero, Nat.add_zero, UInt8.ofNat_toNat, bne]
  congr 3
  rw [Bool.eq_iff_iff, beq_iff_eq, beq_iff_eq, toInt8_eq_zero_iff]

theorem readResponse_of_accepts (b : UInt8) (bs : Bytes) (hb : b ≠ 0) :
    readResponse (b :: bs) = .ok (.acceptance, bs) := by
  have hflag : readFlag (b :: bs) = .ok (true, bs) := by
    rw [readFlag_cons, bne_iff_ne.2 hb]
  simp only [readResponse, bind, StateT.bind, Except.bind, hflag, if_true]
  rfl

/-- Behind a flag that is not set only a rejection can be read. -/
theorem accepted_of_readResponse_zero {bs rest : Bytes} {r : Response}
    (h : readResponse (0 :: bs) = .ok (r, rest)) : r.accepted = false := by
  have hflag : readFlag (0 :: bs) = .ok (false, bs) := readFlag_cons 0 bs
  simp only [readResponse, bind, StateT.bind, Except.bind, hflag, Bool.false_eq_true, if_false] at h
  split at h
  · simp at h
  · split at h
    · simp at h
    · have hr : Response.rejection _ _ = r := congrArg Prod.fst (Except.ok.inj h)
      rw [← hr]
      rfl

theorem decode_response (payload : Bytes) :
    Response.decode payload = (readResponse payload).map (·.1) := rfl

theorem decode_of_accepts {payload : Bytes} (h : Accepts payload) :
    Response.decode payload = .ok .acceptance := by
  obtain ⟨b, bs, rfl, hb⟩ := h
  rw [decode_response, readResponse_of_accepts b bs hb]
  rfl

theorem accepted_of_decode {payload : Bytes} {r : Response} (h : ¬ Accepts payload)
    (hr : Response.decode payload = .ok r) : r.accepted = false := by
  rw [decode_response] at hr
  cases payload with
  | nil =>
    have hempty : readResponse [] = .error (.truncated 1 0) := rfl
    rw [hempty] at hr
    simp [Except.map] at hr
  | cons b bs =>
    have hb : b = 0 := Classical.byContradiction fun hb => h ⟨b, bs, rfl, hb⟩
    subst hb
    cases hread : readResponse (0 :: bs) with
    | error e =>
      rw [hread] at hr
      simp [Except.map] at hr
    | ok p =>
      obtain ⟨r', rest⟩ := p
      rw [hread] at hr
      simp only [Except.map, Except.ok.injEq] at hr
      subst hr
      exact accepted_of_readResponse_zero hread

end Handshake

namespace Negotiation

open Handshake

/-! ## What a client concludes -/

theorem agreement_of_accepts (codec : Codec) (request : Request) {payload : Bytes}
    (h : Accepts payload) : agreement codec request payload = .ok request.version := by
  unfold agreement Codec.decodeResponse
  rw [decode_of_accepts h]
  rfl

theorem agreement_of_not_accepts (codec : Codec) (request : Request) {payload : Bytes}
    (h : ¬ Accepts payload) :
    ∃ e, agreement codec request payload = .error e ∧ e.state = .connectionRejected := by
  unfold agreement Codec.decodeResponse
  cases hr : Response.decode payload with
  | error e => exact ⟨_, rfl, rfl⟩
  | ok r =>
    simp only [accepted_of_decode h hr, Bool.false_eq_true, if_false]
    exact ⟨_, rfl, rfl⟩

end Negotiation

end SqlSession
