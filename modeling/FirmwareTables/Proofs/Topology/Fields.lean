import Mathlib
import FirmwareTables.Topology.Decoder

set_option autoImplicit false

namespace FirmwareTables.Topology.Decoder

theorem toNat_kept (upper id : UInt32) :
    (if upper < 64 then id.toUInt64 &&& ((1 <<< upper.toUInt64) - 1) else id.toUInt64).toNat =
      id.toNat % 2 ^ upper.toNat := by
  have small := id.toNat_lt
  split
  next narrow =>
    have bound : upper.toNat < 64 := UInt32.lt_iff_toNat_lt.mp narrow
    have power : ((1 : UInt64) <<< upper.toUInt64).toNat = 2 ^ upper.toNat := by
      rw [UInt64.toNat_shiftLeft, UInt32.toNat_toUInt64, Nat.mod_eq_of_lt bound]
      change 1 <<< upper.toNat % 2 ^ 64 = _
      rw [Nat.one_shiftLeft, Nat.mod_eq_of_lt (Nat.pow_lt_pow_right (by decide) bound)]
    have one : (1 : UInt64) ≤ 1 <<< upper.toUInt64 := by
      rw [UInt64.le_iff_toNat_le, power]
      exact Nat.one_le_two_pow
    rw [UInt64.toNat_and, UInt64.toNat_sub_of_le _ _ one, power, UInt32.toNat_toUInt64]
    exact Nat.and_two_pow_sub_one_eq_mod _ _
  next wide =>
    have bound : 64 ≤ upper.toNat := Nat.le_of_not_lt fun less => wide (UInt32.lt_iff_toNat_lt.mpr less)
    have large : 2 ^ 32 ≤ 2 ^ upper.toNat := Nat.pow_le_pow_right (by decide) (by omega)
    rw [UInt32.toNat_toUInt64, Nat.mod_eq_of_lt (by omega)]

theorem toNat_field (upper lower id : UInt32) :
    (field upper lower id).toNat = id.toNat % 2 ^ upper.toNat / 2 ^ lower.toNat := by
  have small := id.toNat_lt
  have kept := toNat_kept upper id
  have below : id.toNat % 2 ^ upper.toNat ≤ id.toNat := Nat.mod_le _ _
  simp only [field]
  split
  next narrow =>
    have bound : lower.toNat < 64 := UInt32.lt_iff_toNat_lt.mp narrow
    have part : id.toNat % 2 ^ upper.toNat / 2 ^ lower.toNat ≤ id.toNat % 2 ^ upper.toNat :=
      Nat.div_le_self _ _
    rw [UInt64.toNat_toUInt32, UInt64.toNat_shiftRight, UInt32.toNat_toUInt64,
      Nat.mod_eq_of_lt bound, kept, Nat.shiftRight_eq_div_pow, Nat.mod_eq_of_lt (by omega)]
  next wide =>
    have bound : 64 ≤ lower.toNat := Nat.le_of_not_lt fun less => wide (UInt32.lt_iff_toNat_lt.mpr less)
    have large : 2 ^ 32 ≤ 2 ^ lower.toNat := Nat.pow_le_pow_right (by decide) (by omega)
    rw [Nat.div_eq_of_lt (by omega)]
    rfl

-- Above the lowest bit, a field is that of the identifier without it.
theorem mod_pow_div_pow_of_half {upper lower n m : Nat} (above : lower ≠ 0) (half : n / 2 = m / 2) :
    n % 2 ^ upper / 2 ^ lower = m % 2 ^ upper / 2 ^ lower := by
  obtain ⟨low, rfl⟩ := Nat.exists_eq_succ_of_ne_zero above
  cases upper with
  | zero => simp [Nat.mod_one]
  | succ high =>
    have halved (k : Nat) : k % 2 ^ (high + 1) / 2 ^ (low + 1) = k / 2 % 2 ^ high / 2 ^ low := by
      rw [Nat.pow_succ' (m := 2) (n := high), Nat.pow_succ' (m := 2) (n := low),
        ← Nat.div_div_eq_div_mul, Nat.mod_mul_right_div_self]
    rw [Nat.succ_eq_add_one, halved, halved, half]

theorem inherit_ne_zero (reported : Option UInt32) {below : UInt32} (positive : below ≠ 0) :
    inherit reported below ≠ 0 := by
  unfold inherit
  split
  · split
    · exact positive
    · assumption
  · exact positive

theorem complex_ne_zero {reports : List (Level × UInt32)} (smt : (ofReports reports).smt ≠ 0) :
    (ofReports reports).complex ≠ 0 :=
  inherit_ne_zero _ (inherit_ne_zero _ smt)

theorem ccd_eq_of_siblings {reports : List (Level × UInt32)} (smt : (ofReports reports).smt ≠ 0)
    {a b : UInt32} (half : a.toNat / 2 = b.toNat / 2) :
    ((ofReports reports).decode a).ccd = ((ofReports reports).decode b).ccd := by
  have above : (ofReports reports).complex.toNat ≠ 0 := by
    intro zero
    exact complex_ne_zero smt (UInt32.toNat_inj.mp zero)
  apply UInt32.toNat_inj.mp
  simp only [decode, toNat_field]
  exact mod_pow_div_pow_of_half above half

end FirmwareTables.Topology.Decoder
