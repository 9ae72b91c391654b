/-!
# Bytes

Byte strings are lists of bytes.  Integers of a fixed width are written least significant byte
first:

* `littleEndian w n` writes the low `8 * w` bits of `n` as `w` bytes, `ofLittleEndian` reads them
  back (`ofLittleEndian_littleEndian`).
* `utf8` and `ofUtf8?` write a text and read one that is well formed.
-/

namespace SqlSession

/-- A byte string. -/
abbrev Bytes := List UInt8

namespace Bytes

/-- The `w` little-endian bytes of `n`; higher bits are dropped. -/
def littleEndian : Nat → Nat → Bytes
  | 0, _ => []
  | w + 1, n => UInt8.ofNat (n % 256) :: littleEndian w (n / 256)

/-- The number whose little-endian bytes are given. -/
def ofLittleEndian : Bytes → Nat
  | [] => 0
  | b :: bs => b.toNat + 256 * ofLittleEndian bs

/-- The UTF-8 form of a text. -/
def utf8 (text : String) : Bytes := text.toUTF8.toList

/-- The text whose UTF-8 form is given, if the bytes are well formed. -/
def ofUtf8? (bytes : Bytes) : Option String := String.fromUTF8? (ByteArray.mk bytes.toArray)

/-! ## Lemmas -/

@[simp] theorem length_littleEndian (w n : Nat) : (littleEndian w n).length = w := by
  induction w generalizing n with
  | zero => rfl
  | succ w ih => simp [littleEndian, ih]

/-- Reading what was written gives the bits that fit. -/
theorem ofLittleEndian_littleEndian (w n : Nat) :
    ofLittleEndian (littleEndian w n) = n % Nat.pow 256 w := by
  induction w generalizing n with
  | zero => simp [littleEndian, ofLittleEndian, Nat.mod_one]
  | succ w ih =>
    have h : (UInt8.ofNat (n % 256)).toNat = n % 256 := by
      rw [UInt8.toNat_ofNat']; omega
    have hpow : Nat.pow 256 (w + 1) = 256 * Nat.pow 256 w := Nat.mul_comm _ _
    rw [littleEndian, ofLittleEndian, ih, h, hpow, Nat.mod_mul]

end Bytes

end SqlSession
