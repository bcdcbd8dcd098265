import Mathlib
import FirmwareTables.Bytes

set_option autoImplicit false

namespace FirmwareTables.Bytes

theorem ofLittleEndian_littleEndian (width n : Nat) :
    ofLittleEndian (littleEndian width n) = n % 256 ^ width := by
  induction width generalizing n with
  | zero => simp [littleEndian, ofLittleEndian, Nat.mod_one]
  | succ width ih =>
      have low : (UInt8.ofNat n).toNat = n % 256 := UInt8.toNat_ofNat'
      rw [littleEndian, ofLittleEndian, ih, low, Nat.pow_succ, Nat.mul_comm (256 ^ width) 256,
        Nat.mod_mul]

theorem littleEndian_ofLittleEndian (bytes : Bytes) :
    littleEndian bytes.length (ofLittleEndian bytes) = bytes := by
  induction bytes with
  | nil => rfl
  | cons b rest ih =>
      have small : b.toNat < 256 := b.toNat_lt
      have quotient : (b.toNat + 256 * ofLittleEndian rest) / 256 = ofLittleEndian rest := by omega
      have low : UInt8.ofNat (b.toNat + 256 * ofLittleEndian rest) = b := by
        apply UInt8.toNat_inj.1
        rw [UInt8.toNat_ofNat']
        omega
      simp [littleEndian, ofLittleEndian, quotient, low, ih]

theorem ofLittleEndian_lt (bytes : Bytes) : ofLittleEndian bytes < 256 ^ bytes.length := by
  induction bytes with
  | nil => simp [ofLittleEndian]
  | cons b rest ih =>
      have small : b.toNat < 256 := b.toNat_lt
      simp only [ofLittleEndian, List.length_cons, Nat.pow_succ]
      omega

@[simp] theorem toWord16_word16 (w : UInt16) : toWord16 (word16 w) = w := by
  apply UInt16.toNat_inj.1
  have small : w.toNat < 65536 := w.toNat_lt
  simp only [toWord16, word16, ofLittleEndian_littleEndian, UInt16.toNat_ofNat']
  omega

@[simp] theorem toWord32_word32 (w : UInt32) : toWord32 (word32 w) = w := by
  apply UInt32.toNat_inj.1
  have small : w.toNat < 4294967296 := w.toNat_lt
  simp only [toWord32, word32, ofLittleEndian_littleEndian, UInt32.toNat_ofNat']
  omega

@[simp] theorem toWord64_word64 (w : UInt64) : toWord64 (word64 w) = w := by
  apply UInt64.toNat_inj.1
  have small : w.toNat < 18446744073709551616 := w.toNat_lt
  simp only [toWord64, word64, ofLittleEndian_littleEndian, UInt64.toNat_ofNat']
  omega

theorem toNat_toWord16 {bytes : Bytes} (size : bytes.length = 2) :
    (toWord16 bytes).toNat = ofLittleEndian bytes := by
  have small := ofLittleEndian_lt bytes
  rw [size] at small
  rw [toWord16, UInt16.toNat_ofNat']
  omega

theorem toNat_toWord32 {bytes : Bytes} (size : bytes.length = 4) :
    (toWord32 bytes).toNat = ofLittleEndian bytes := by
  have small := ofLittleEndian_lt bytes
  rw [size] at small
  rw [toWord32, UInt32.toNat_ofNat']
  omega

theorem word16_toWord16 {bytes : Bytes} (size : bytes.length = 2) :
    word16 (toWord16 bytes) = bytes := by
  rw [word16, toNat_toWord16 size, ← size, littleEndian_ofLittleEndian]

theorem word32_toWord32 {bytes : Bytes} (size : bytes.length = 4) :
    word32 (toWord32 bytes) = bytes := by
  rw [word32, toNat_toWord32 size, ← size, littleEndian_ofLittleEndian]

end FirmwareTables.Bytes
