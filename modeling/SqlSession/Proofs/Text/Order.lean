import Mathlib.Data.String.Basic
import SqlSession.Proofs.Wire.Handshake
/-!
# The order of texts

Texts are compared by their characters, and the UTF-8 forms of texts by their bytes.  Both orders
are one: a character with a larger number has a larger first byte, or else a larger one at the first
place where the two forms differ.

* `encode_lt`: the bytes of a smaller character come first, whatever follows them.
* `utf8_lt_utf8_iff`: a text comes first exactly if its UTF-8 form does.
-/

namespace SqlSession.Bytes

theorem utf8_eq_flatMap (text : String) :
    utf8 text = text.toList.flatMap String.utf8EncodeChar := by
  have hbytes : text.toByteArray = (text.toList.flatMap String.utf8EncodeChar).toByteArray :=
    String.utf8Encode_toList.symm
  rw [utf8, ByteArray.toList, toList_loop, String.toUTF8, hbytes, List.data_toByteArray]
  rfl

/-! ## Characters -/

/-- Byte strings are compared by their first bytes, and by the others if these are equal. -/
theorem ofNat_cons_lt_iff {m n : Nat} (hm : m < 256) (hn : n < 256) (xs ys : Bytes) :
    UInt8.ofNat m :: xs < UInt8.ofNat n :: ys ↔ m < n ∨ m = n ∧ xs < ys := by
  have heq : UInt8.ofNat m = UInt8.ofNat n ↔ m = n := by
    rw [← UInt8.toNat_inj, UInt8.toNat_ofNat_of_lt' hm, UInt8.toNat_ofNat_of_lt' hn]
  rw [List.cons_lt_cons_iff, UInt8.ofNat_lt_iff_lt hm hn, heq]

/-- The bytes of a character, by the size of its number: a first byte that tells the size, and
digits to the base 64. -/
theorem utf8EncodeChar_cases (c : Char) :
    (c.toNat ≤ 127 ∧ String.utf8EncodeChar c = [.ofNat c.toNat]) ∨
    (127 < c.toNat ∧ c.toNat ≤ 2047 ∧
      String.utf8EncodeChar c = [.ofNat (c.toNat / 64 + 192), .ofNat (c.toNat % 64 + 128)]) ∨
    (2047 < c.toNat ∧ c.toNat ≤ 65535 ∧
      String.utf8EncodeChar c = [.ofNat (c.toNat / 64 / 64 + 224),
        .ofNat (c.toNat / 64 % 64 + 128), .ofNat (c.toNat % 64 + 128)]) ∨
    (65535 < c.toNat ∧ c.toNat < 1114112 ∧
      String.utf8EncodeChar c = [.ofNat (c.toNat / 64 / 64 / 64 + 240),
        .ofNat (c.toNat / 64 / 64 % 64 + 128), .ofNat (c.toNat / 64 % 64 + 128),
        .ofNat (c.toNat % 64 + 128)]) := by
  by_cases h1 : c.toNat ≤ 127
  · exact .inl ⟨h1, if_pos h1⟩
  by_cases h2 : c.toNat ≤ 2047
  · refine .inr (.inl ⟨by omega, h2, ?_⟩)
    have hlead : c.toNat / 64 = c.toNat / 64 % 32 := by omega
    rw [hlead]
    exact (if_neg h1).trans (if_pos h2)
  by_cases h3 : c.toNat ≤ 65535
  · refine .inr (.inr (.inl ⟨by omega, h3, ?_⟩))
    have hlead : c.toNat / 64 / 64 = c.toNat / 4096 % 16 := by omega
    rw [hlead]
    exact (if_neg h1).trans ((if_neg h2).trans (if_pos h3))
  · have hvalid : c.toNat < 55296 ∨ 57343 < c.toNat ∧ c.toNat < 1114112 := c.valid
    refine .inr (.inr (.inr ⟨by omega, by omega, ?_⟩))
    have hlead : c.toNat / 64 / 64 / 64 = c.toNat / 262144 % 8 := by omega
    have hdigit : c.toNat / 64 / 64 % 64 = c.toNat / 4096 % 64 := by omega
    rw [hlead, hdigit]
    exact (if_neg h1).trans ((if_neg h2).trans (if_neg h3))

/-- The bytes of a smaller character come first, whatever follows them. -/
theorem encode_lt {c d : Char} (h : c < d) (xs ys : Bytes) :
    String.utf8EncodeChar c ++ xs < String.utf8EncodeChar d ++ ys := by
  have hnumber : c.toNat < d.toNat := h
  -- forms of two sizes differ in their first bytes, forms of one size at the first digit that does
  obtain ⟨hcmax, hc⟩ | ⟨hcmin, hcmax, hc⟩ | ⟨hcmin, hcmax, hc⟩ | ⟨hcmin, hcmax, hc⟩ :=
    utf8EncodeChar_cases c <;>
  obtain ⟨hdmax, hd⟩ | ⟨hdmin, hdmax, hd⟩ | ⟨hdmin, hdmax, hd⟩ | ⟨hdmin, hdmax, hd⟩ :=
    utf8EncodeChar_cases d <;>
  · rw [hc, hd]
    simp (disch := omega) only [List.cons_append, List.nil_append, ofNat_cons_lt_iff]
    omega

/-! ## Texts -/

theorem flatMap_lt {cs ds : List Char} (h : cs < ds) :
    cs.flatMap String.utf8EncodeChar < ds.flatMap String.utf8EncodeChar := by
  induction cs generalizing ds with
  | nil =>
    cases ds with
    | nil => exact absurd h (List.lt_irrefl [])
    | cons d ds =>
      obtain ⟨byte, bytes, hd⟩ := List.exists_cons_of_ne_nil (@String.utf8EncodeChar_ne_nil d)
      rw [List.flatMap_nil, List.flatMap_cons, hd]
      exact List.nil_lt_cons _ _
  | cons c cs ih =>
    cases ds with
    | nil => exact absurd h (List.not_lt_nil _)
    | cons d ds =>
      rw [List.flatMap_cons, List.flatMap_cons]
      rcases List.cons_lt_cons_iff.1 h with hlt | ⟨rfl, hlt⟩
      · exact encode_lt hlt _ _
      · exact List.append_left_lt (ih hlt)

theorem utf8_lt_utf8 {a b : String} (h : a < b) : utf8 a < utf8 b := by
  rw [utf8_eq_flatMap, utf8_eq_flatMap]
  exact flatMap_lt (String.lt_iff_toList_lt.1 h)

/-- **Order.**  A text comes before another one exactly if its UTF-8 form does. -/
theorem utf8_lt_utf8_iff {a b : String} : utf8 a < utf8 b ↔ a < b := by
  refine ⟨fun h => ?_, utf8_lt_utf8⟩
  rcases lt_trichotomy a b with hlt | rfl | hgt
  · exact hlt
  · exact absurd h (List.lt_irrefl _)
  · exact absurd h (List.lt_asymm (utf8_lt_utf8 hgt))

end SqlSession.Bytes
